import TellorPallet.Foundation.FiniteMap
import TellorPallet.Pallet.Config

/-!
# Storage of the pallet

One record per subsystem, one field per storage item, together with the parts of the chain's state
the pallet reads and writes: the clock, the ledger of the asset, the deposited events and the
messages accepted by the XCM sender.
-/

namespace TellorPallet

/-- Storage of tips and data feeds. -/
structure AutoPay (AccountId : Type) where
  dataFeeds : FiniteMap (QueryId × FeedId) Feed
  dataFeedRewardClaimed : FiniteMap (QueryId × FeedId × ℕ) Unit
  feedsWithFunding : FiniteMap FeedId Unit
  queryIdFromDataFeedId : FiniteMap FeedId QueryId
  queryIdsWithFunding : FiniteMap QueryId Unit
  tips : FiniteMap (QueryId × ℕ) Tip
  tipCount : FiniteMap QueryId ℕ
  userTipsTotal : FiniteMap AccountId ℕ

/-- Storage of the report series. -/
structure Oracle (AccountId : Type) where
  lastReportedTimestamp : FiniteMap QueryId ℕ
  reports : FiniteMap (QueryId × ℕ) (Report AccountId)
  reportedTimestampsByIndex : FiniteMap (QueryId × ℕ) ℕ
  reportedTimestampCount : FiniteMap QueryId ℕ
  reportedValuesByTimestamp : FiniteMap (QueryId × ℕ) Value
  timeOfLastNewValue : Option ℕ

/-- Storage of stakes and staking rewards. -/
structure Staking (AccountId : Type) where
  accumulatedRewardPerShare : ℕ
  rewardRate : ℕ
  stakerDetails : FiniteMap AccountId StakeInfo
  stakerReportsSubmittedByQueryId : FiniteMap (AccountId × QueryId) ℕ
  timeOfLastAllocation : ℕ
  totalRewardDebt : ℕ
  totalStakeAmount : ℕ
  totalStakers : ℕ
  toWithdraw : ℕ

/-- Storage of the amounts that follow the reported token prices. -/
structure Prices where
  stakeAmount : ℕ
  disputeFee : ℕ
  lastStakeAmountUpdate : ℕ

/-- Storage of disputes and votes. -/
structure Governance (AccountId : Type) where
  disputeIdsByReporter : FiniteMap (AccountId × DisputeId) Unit
  disputeInfo : FiniteMap DisputeId (Dispute AccountId)
  openDisputesOnId : FiniteMap QueryId ℕ
  pendingVotes : FiniteMap DisputeId (ℕ × ℕ)
  voteCount : ℕ
  voteInfo : FiniteMap (DisputeId × ℕ) (Vote AccountId)
  voteRounds : FiniteMap DisputeId ℕ
  votes : FiniteMap (DisputeId × ℕ × AccountId) Bool
  voteTallyByAddress : FiniteMap AccountId ℕ

inductive Event (AccountId : Type) where
  -- AutoPay
  | dataFeedFunded (queryId : QueryId) (feedId : FeedId) (amount : ℕ) (feedFunder : AccountId)
      (feedDetails : Feed)
  | newDataFeed (queryId : QueryId) (feedId : FeedId) (queryData : QueryData)
      (feedCreator : AccountId)
  | oneTimeTipClaimed (queryId : QueryId) (amount : ℕ) (reporter : AccountId)
  | tipAdded (queryId : QueryId) (amount : ℕ) (queryData : QueryData) (tipper : AccountId)
  | tipClaimed (feedId : FeedId) (queryId : QueryId) (amount : ℕ) (reporter : AccountId)
  -- Oracle
  | newReport (queryId : QueryId) (time : ℕ) (value : Value) (nonce : ℕ)
      (queryData : QueryData) (reporter : AccountId)
  | newStakeAmount (amount : ℕ)
  | newStakerReported (staker : AccountId) (amount : ℕ) (address : Address)
  | slashReported (reporter : AccountId) (amount : ℕ)
  | stakeWithdrawnReported (staker : AccountId)
  | stakeWithdrawRequestReported (reporter : AccountId) (amount : ℕ) (address : Address)
  | stakingRewardsAdded (source : AccountId) (amount : ℕ)
  | valueRemoved (queryId : QueryId) (timestamp : ℕ)
  -- Governance
  | newDispute (disputeId : DisputeId) (queryId : QueryId) (timestamp : ℕ)
      (reporter : AccountId)
  | newDisputeSent (paraId : ℕ) (contractAddress : Address)
  | newDisputeFee (disputeFee : ℕ)
  | voted (disputeId : DisputeId) (supports : Option Bool) (voter : AccountId)
  | voteSent (paraId : ℕ) (contractAddress : Address) (disputeId : DisputeId) (voteRound : ℕ)
  | voteTallied (disputeId : DisputeId) (result : VoteResult) (initiator reporter : AccountId)
  | voteExecuted (disputeId : DisputeId) (result : VoteResult)
  -- Query data and registration
  | queryDataStored (queryId : QueryId)
  | registrationSent (paraId : ℕ) (contractAddress : Address) (weights : Weights)
deriving DecidableEq, Repr

/-- The events by which a vote round is sent or a dispute executed. -/
def Event.isVoteEvent {AccountId : Type} : Event AccountId → Bool
  | .voteSent .. => true
  | .voteExecuted .. => true
  | _ => false

structure State (AccountId : Type) where
  blockNumber : ℕ
  now : ℕ
  ledger : Ledger AccountId
  events : List (Event AccountId)
  /-- The messages the XCM sender accepted, oldest first. -/
  sentMessages : List Message
  autoPay : AutoPay AccountId
  oracle : Oracle AccountId
  staking : Staking AccountId
  prices : Prices
  governance : Governance AccountId
  queryData : FiniteMap QueryId QueryData

variable {AccountId : Type} [DecidableEq AccountId]

namespace State

/-- `Self::deposit_event`. -/
def depositEvent (s : State AccountId) (event : Event AccountId) : State AccountId :=
  { s with events := s.events ++ [event] }

/-- The deposited events by which a vote round was sent or a dispute executed. -/
def voteEvents (s : State AccountId) : List (Event AccountId) := s.events.filter Event.isVoteEvent

/-- `Self::send_xcm`: the event is deposited only when the sender accepts the message. -/
def sendXcm (s : State AccountId) (send : Sender) (message : Message) (event : Event AccountId) :
    Except DispatchError (State AccountId) :=
  match send message with
  | .error e => .error (.module e.toError)
  | .ok () => .ok ({ s with sentMessages := s.sentMessages ++ [message] }.depositEvent event)

omit [DecidableEq AccountId] in
theorem sendXcm_eq_ok {s s' : State AccountId} {send : Sender} {message : Message}
    {event : Event AccountId} :
    s.sendXcm send message event = .ok s' ↔ send message = .ok () ∧
      { s with
        sentMessages := s.sentMessages ++ [message]
        events := s.events ++ [event] } = s' := by
  unfold sendXcm
  split
  · next hsend => simp [hsend]
  · next hsend => simp [hsend, depositEvent]

/-- Empty storage: every map empty, every value at its declared default. -/
def genesis (cfg : Config AccountId) (ledger : Ledger AccountId) (blockNumber : ℕ)
    (now : ℕ) : State AccountId where
  blockNumber := blockNumber
  now := now
  ledger := ledger
  events := []
  sentMessages := []
  autoPay := ⟨∅, ∅, ∅, ∅, ∅, ∅, ∅, ∅⟩
  oracle := ⟨∅, ∅, ∅, ∅, ∅, none⟩
  staking := ⟨0, 0, ∅, ∅, 0, 0, 0, 0, 0⟩
  prices := ⟨cfg.minimumStakeAmount, cfg.initialDisputeFee, 0⟩
  governance := ⟨∅, ∅, ∅, ∅, 0, ∅, ∅, ∅, ∅⟩
  queryData := ∅

end State

/-! ## Reads of storage items with a default -/

namespace Oracle

/-- `ReportedTimestampCount::get`. -/
def count (o : Oracle AccountId) (queryId : QueryId) : ℕ :=
  FiniteMap.read o.reportedTimestampCount 0 queryId

end Oracle

namespace Governance

/-- `VoteRounds::get`. -/
def rounds (g : Governance AccountId) (disputeId : DisputeId) : ℕ :=
  FiniteMap.read g.voteRounds 0 disputeId

/-- `did_vote`, a read of `Votes`. -/
def didVote (g : Governance AccountId) (disputeId : DisputeId) (voteRound : ℕ) (voter : AccountId) :
    Bool :=
  FiniteMap.read g.votes false (disputeId, voteRound, voter)

/-- `get_vote_tally_by_address`. -/
def voteTally (g : Governance AccountId) (voter : AccountId) : ℕ :=
  FiniteMap.read g.voteTallyByAddress 0 voter

end Governance

namespace AutoPay

/-- `TipCount::get`. -/
def countTips (a : AutoPay AccountId) (queryId : QueryId) : ℕ :=
  FiniteMap.read a.tipCount 0 queryId

/-- `get_tips_by_address`. -/
def tipsByAddress (a : AutoPay AccountId) (user : AccountId) : ℕ :=
  FiniteMap.read a.userTipsTotal 0 user

end AutoPay

end TellorPallet
