import Mathlib.Tactic

/-!
# Types and constants of the pallet

The storage items, identifiers and constants the pallet is written in. Hashes and addresses are
fixed-width; token amounts, timestamps in seconds since the UNIX epoch and counters are naturals. The
operations on balances, 256-bit amounts, vote rounds, open disputes and tallies keep them inside the width
of the source's type as the source does. The counters of reports, tips, votes, voters' votes and stakers,
of 32 or 64 bits and saturating at their ends in the source, only count, and the sums of timestamps are
plain sums.
-/

namespace TellorPallet

abbrev H256 := Fin (2 ^ 256)
abbrev H160 := Fin (2 ^ 160)

instance neZeroH256 : NeZero (2 ^ 256) := ⟨by positivity⟩
instance neZeroH160 : NeZero (2 ^ 160) := ⟨by positivity⟩

abbrev Address := H160
abbrev DisputeId := H256
abbrev FeedId := H256
abbrev QueryId := H256

abbrev Bytes := List UInt8
abbrev Value := Bytes
abbrev QueryData := Bytes

/-! ## Constants -/

def u8Max : ℕ := 2 ^ 8 - 1
def u16Max : ℕ := 2 ^ 16 - 1
def u32Max : ℕ := 2 ^ 32 - 1
def u64Max : ℕ := 2 ^ 64 - 1
def u128Max : ℕ := 2 ^ 128 - 1
def u256Max : ℕ := 2 ^ 256 - 1

def minutes : ℕ := 60
def hours : ℕ := 60 * minutes
def days : ℕ := 24 * hours
def weeks : ℕ := 7 * days

/-- The number of decimals of the TRB token. -/
def trbDecimals : ℕ := 18

/-- The maximum number of iterations for a binary search. -/
def maxIterations : ℕ := 32

/-- The maximum number of aggregate votes sent to the governance controller contract per block. -/
def maxAggregateVotesSentPerBlock : ℕ := 3

/-- The maximum number of vote rounds per dispute. -/
def maxVoteRounds : ℕ := 20

/-- Base amount of time before a reporter is able to submit a value again. -/
def reportingLock : ℕ := 12 * hours

/-- Max. allowed size of the input of an ethereum transaction carried by XCM. -/
def maxEthereumXcmInputSize : ℕ := 2 ^ 16

/-! ## AutoPay -/

structure Feed where
  /-- Amount paid for each eligible data submission. -/
  reward : ℕ
  /-- Account remaining balance. -/
  balance : ℕ
  /-- Time of first payment window. -/
  startTime : ℕ
  /-- Time between pay periods. -/
  interval : ℕ
  /-- Amount of time data can be submitted per interval. -/
  window : ℕ
  /-- Change in price necessitating an update, 100 = 1%. -/
  priceThreshold : ℕ
  /-- Amount reward increases per second within the window (0 for flat rewards). -/
  rewardIncreasePerSecond : ℕ
deriving DecidableEq, Repr

structure Tip where
  /-- Amount tipped. -/
  amount : ℕ
  /-- Time tipped. -/
  timestamp : ℕ
  /-- Cumulative tips for query identifier. -/
  cumulativeTips : ℕ
deriving DecidableEq, Repr

/-! ## Oracle -/

structure Report (AccountId : Type) where
  /-- The respective index of the reported value. -/
  index : ℕ
  /-- The block number when the value was reported. -/
  blockNumber : ℕ
  /-- The reporter of the value. -/
  reporter : AccountId
  /-- Whether the reported value has been disputed. -/
  isDisputed : Bool
  /-- The timestamp of the last (non-disputed) value reported. -/
  previous : Option ℕ
deriving DecidableEq, Repr

structure StakeInfo where
  /-- The address on the staking chain. -/
  address : Address
  /-- Stake or withdrawal request start date. -/
  startDate : ℕ
  /-- Staked token balance. -/
  stakedBalance : ℕ
  /-- Amount locked for withdrawal. -/
  lockedBalance : ℕ
  /-- Used for staking reward calculation. -/
  rewardDebt : ℕ
  /-- Timestamp of reporter's last reported value. -/
  reporterLastTimestamp : ℕ
  /-- Total number of reports submitted by reporter. -/
  reportsSubmitted : ℕ
  /-- Total number of governance votes when stake deposited. -/
  startVoteCount : ℕ
  /-- Staker vote tally when stake deposited. -/
  startVoteTally : ℕ
  /-- Used to keep track of total stakers. -/
  staked : Bool
deriving DecidableEq, Repr

/-- `StakeInfo::new`. -/
def StakeInfo.new (address : Address) : StakeInfo where
  address := address
  startDate := 0
  stakedBalance := 0
  lockedBalance := 0
  rewardDebt := 0
  reporterLastTimestamp := 0
  reportsSubmitted := 0
  startVoteCount := 0
  startVoteTally := 0
  staked := false

/-! ## Governance -/

structure Dispute (AccountId : Type) where
  queryId : QueryId
  timestamp : ℕ
  value : Value
  disputedReporter : AccountId
  slashedAmount : ℕ
deriving DecidableEq, Repr

structure Tally where
  /-- Number of votes in favor. -/
  doesSupport : ℕ
  /-- Number of votes against. -/
  against : ℕ
  /-- Number of votes for invalid. -/
  invalidQuery : ℕ
deriving DecidableEq, Repr

/-- `Tally::default`. -/
def Tally.zero : Tally := ⟨0, 0, 0⟩

/-- The status of a potential vote. -/
inductive VoteResult where
  | failed
  | passed
  | invalid
deriving DecidableEq, Repr

structure Vote (AccountId : Type) where
  identifier : DisputeId
  /-- The round of voting on a given dispute. -/
  voteRound : ℕ
  startDate : ℕ
  blockNumber : ℕ
  /-- Fee paid to initiate the vote round. -/
  fee : ℕ
  /-- Timestamp of when the votes were tallied, zero before that. -/
  tallyDate : ℕ
  users : Tally
  reporters : Tally
  /-- Whether the vote was sent to be tallied. -/
  sent : Bool
  executed : Bool
  /-- Result after votes were tallied. -/
  result : Option VoteResult
  initiator : AccountId
deriving DecidableEq, Repr

/-! ## Errors -/

inductive ArithmeticError where
  | underflow
  | overflow
  | divisionByZero
deriving DecidableEq, Repr

/-- The errors of the pallet. -/
inductive Error where
  -- AutoPay
  | claimBufferNotPassed
  | claimPeriodExpired
  | feedAlreadyExists
  | insufficientFeedBalance
  | invalidAmount
  | invalidClaimer
  | invalidFeed
  | invalidIndex
  | invalidInterval
  | invalidReward
  | invalidQueryId
  | invalidTimestamp
  | invalidWindow
  | noTipsSubmitted
  | priceThresholdNotMet
  | timestampIneligibleForTip
  | tipAlreadyClaimed
  | tipAlreadyEarned
  | valueConversionError
  | valueDisputed
  -- Oracle
  | invalidAddress
  | insufficientStake
  | invalidNonce
  | invalidPrice
  | invalidStakingTokenPrice
  | invalidValue
  | maxDisputedTimeSeriesReached
  | noWithdrawalRequested
  | reporterTimeLocked
  | timestampAlreadyReported
  | withdrawalPeriodPending
  -- Governance
  | alreadyVoted
  | disputeReportingPeriodExpired
  | disputeRoundReportingPeriodExpired
  | invalidDispute
  | invalidVote
  | maxVoteRoundsReached
  | notReporter
  | noValueExists
  | tallyDisputePeriodActive
  | voteAlreadyExecuted
  | voteAlreadySent
  | voteAlreadyTallied
  | voteNotTallied
  | votingPeriodActive
  -- XCM
  | feesNotMet
  | junctionOverflow
  | maxEthereumXcmInputSizeExceeded
  | sendFailure
  | unreachable
  | weighingFailure
deriving DecidableEq, Repr

/-- Why a call failed. A panic, like an error, leaves no trace in storage. -/
inductive DispatchError where
  | badOrigin
  | module (error : Error)
  | arithmetic (error : ArithmeticError)
  /-- The asset refused a transfer. -/
  | token
  | panic
deriving DecidableEq, Repr

abbrev underflow : DispatchError := .arithmetic .underflow
abbrev overflow : DispatchError := .arithmetic .overflow
abbrev divisionByZero : DispatchError := .arithmetic .divisionByZero

end TellorPallet
