import TellorPallet.AutoPay.Feeds
import TellorPallet.Governance.Disputes
import TellorPallet.Governance.Votes
import TellorPallet.Oracle.Calls
import TellorPallet.Staking.Reports

/-!
# The dispatchable calls

The calls of the pallet by name, the origins they require, and their dispatch to the functions of
the four subsystems.
-/

namespace TellorPallet

open Outcome

variable {AccountId : Type} [DecidableEq AccountId] (cfg : Config AccountId)

/-- Where a call comes from. -/
inductive Origin (AccountId : Type) where
  | signed (account : AccountId)
  /-- An origin that `RegisterOrigin` accepts. -/
  | register
  | staking
  | governance
  | other
deriving DecidableEq, Repr

inductive Call (AccountId : Type) where
  | register (gasLimit : Option ℕ)
  | claimOnetimeTip (queryId : QueryId) (timestamps : List ℕ)
  | claimTip (feedId : FeedId) (queryId : QueryId) (timestamps : List ℕ)
  | fundFeed (feedId : FeedId) (queryId : QueryId) (amount : ℕ)
  | setupDataFeed (queryId : QueryId) (reward : ℕ) (startTime interval window : ℕ)
      (priceThreshold : ℕ) (rewardIncreasePerSecond : ℕ) (queryData : QueryData)
      (amount : ℕ)
  | tip (queryId : QueryId) (amount : ℕ) (queryData : QueryData)
  | addStakingRewards (amount : ℕ)
  | submitValue (queryId : QueryId) (value : Value) (nonce : ℕ) (queryData : QueryData)
  | updateStakeAmount
  | beginDispute (queryId : QueryId) (timestamp : ℕ) (beneficiary : Option Address)
  | vote (disputeId : DisputeId) (supports : Option Bool)
  | voteOnMultipleDisputes (votes : List (DisputeId × Option Bool))
  | sendVotes (maxVotes : ℕ)
  | reportStakeDeposited (reporter : AccountId) (amount : ℕ) (address : Address)
  | reportStakingWithdrawRequest (reporter : AccountId) (amount : ℕ) (address : Address)
  | reportStakeWithdrawn (reporter : AccountId) (amount : ℕ)
  | reportSlash (reporter : AccountId) (amount : ℕ)
  | reportVoteTallied (disputeId : DisputeId) (result : VoteResult)
  | reportVoteExecuted (disputeId : DisputeId)
deriving DecidableEq, Repr

def ensureSigned : Origin AccountId → Except DispatchError AccountId
  | .signed account => .ok account
  | _ => .error .badOrigin

def ensureOrigin (expected origin : Origin AccountId) : Except DispatchError Unit :=
  guard (origin = expected) .badOrigin

/-- Give a pallet account the minimum balance, if it has less. -/
def fundAccount (ledger : Ledger AccountId) (account : AccountId) :
    Except DispatchError (Ledger AccountId) :=
  if ledger account < cfg.minimumBalance then
    transfer cfg ledger cfg.account account cfg.minimumBalance .protect
  else .ok ledger

/-- `register`. -/
def register (send : Sender) (s : State AccountId) (gasLimit : Option ℕ) :
    Except DispatchError (State AccountId) := do
  let ledger ← [cfg.disputeFees, cfg.stakingRewards, cfg.tips].foldlM (fundAccount cfg) s.ledger
  let gasLimit := gasLimit.getD gasRegister
  let (parents, interior) ← okOr cfg.feeLocation (.module .junctionOverflow)
  let interior ← okOr (interior.mapM encodeJunction) .panic
  let message ← transact cfg cfg.registry (registerCall cfg.parachainId cfg.palletIndex
    cfg.weightToFee parents interior cfg.weights) gasLimit
  { s with ledger := ledger }.sendXcm send message
    (.registrationSent cfg.registry.paraId cfg.registry.address cfg.weights)

/-- The dispatch of a call from an origin. -/
def dispatch (send : Sender) (s : State AccountId) (origin : Origin AccountId) :
    Call AccountId → Except DispatchError (State AccountId)
  | .register gasLimit => do
    ensureOrigin .register origin
    register cfg send s gasLimit
  | .claimOnetimeTip queryId timestamps => do
    let reporter ← ensureSigned origin
    claimOnetimeTip cfg s reporter queryId timestamps
  | .claimTip feedId queryId timestamps => do
    let reporter ← ensureSigned origin
    claimTip cfg s reporter feedId queryId timestamps
  | .fundFeed feedId queryId amount => do
    let feedFunder ← ensureSigned origin
    doFundFeed cfg s feedFunder feedId queryId amount
  | .setupDataFeed queryId reward startTime interval window priceThreshold rewardIncreasePerSecond
      queryData amount => do
    let feedCreator ← ensureSigned origin
    setupDataFeed cfg s feedCreator queryId
      (newFeed reward startTime interval window priceThreshold rewardIncreasePerSecond) queryData
      amount
  | .tip queryId amount queryData => do
    let tipper ← ensureSigned origin
    tip cfg s tipper queryId amount queryData
  | .addStakingRewards amount => do
    let source ← ensureSigned origin
    addStakingRewards cfg s source amount
  | .submitValue queryId value nonce queryData => do
    let reporter ← ensureSigned origin
    submitValue cfg s reporter queryId value nonce queryData
  | .updateStakeAmount => do
    let _ ← ensureSigned origin
    updateStakeAmount cfg s
  | .beginDispute queryId timestamp beneficiary => do
    let disputeInitiator ← ensureSigned origin
    beginDispute cfg send s disputeInitiator queryId timestamp beneficiary
  | .vote disputeId supports => do
    let voter ← ensureSigned origin
    doVote cfg s voter disputeId supports
  | .voteOnMultipleDisputes votes => do
    let voter ← ensureSigned origin
    voteOnMultipleDisputes cfg s voter votes
  | .sendVotes maxVotes => do
    let _ ← ensureSigned origin
    .ok (doSendVotes cfg send s s.now maxVotes)
  | .reportStakeDeposited reporter amount address => do
    ensureOrigin .staking origin
    reportStakeDeposited cfg s reporter amount address
  | .reportStakingWithdrawRequest reporter amount address => do
    ensureOrigin .staking origin
    reportStakingWithdrawRequest cfg s reporter amount address
  | .reportStakeWithdrawn reporter amount => do
    ensureOrigin .staking origin
    reportStakeWithdrawn s reporter amount
  | .reportSlash reporter amount => do
    ensureOrigin .staking origin
    reportSlash cfg s reporter amount
  | .reportVoteTallied disputeId result => do
    ensureOrigin .governance origin
    tallyVotes s disputeId result
  | .reportVoteExecuted disputeId => do
    ensureOrigin .governance origin
    executeVote cfg s disputeId

/-- The price update of `on_initialize`: both amounts in one storage transaction. -/
def updatePrices (s : State AccountId) : State AccountId :=
  if 0 < cfg.updateStakeAmountInterval ∧
      s.prices.lastStakeAmountUpdate + max cfg.updateStakeAmountInterval (12 * hours) ≤ s.now then
    match updateStakeAmount cfg s with
    | .ok s' => { s' with prices := { s'.prices with lastStakeAmountUpdate := s.now } }
    | .error _ => s
  else s

/-- `on_initialize`. -/
def onInitialize (send : Sender) (s : State AccountId) : State AccountId :=
  doSendVotes cfg send (updatePrices cfg s) s.now maxAggregateVotesSentPerBlock

end TellorPallet
