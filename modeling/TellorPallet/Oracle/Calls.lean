import TellorPallet.Oracle.Reports
import TellorPallet.Staking.Rewards

/-!
# Oracle calls

The call `submit_value`, and the updates of the stake amount and the dispute fee from reported
prices.
-/

namespace TellorPallet

open Outcome

variable {AccountId : Type} [DecidableEq AccountId] (cfg : Config AccountId)

/-- The reporting lock of a reporter, in thousandths of a second, has passed since its last report.
The lock shrinks with the number of stake amounts it has staked. -/
def ensureLockPassed (now : ℕ) (stakeAmount : ℕ) (staker : StakeInfo) :
    Except DispatchError Unit := do
  let elapsed ← okOr (Checked.sub now staker.reporterLastTimestamp) underflow
  let elapsed ← okOr (Checked.mul u256Max elapsed 1000) overflow
  let lock ← okOr (Checked.mul u256Max reportingLock 1000) overflow
  let stakes ← okOr (Checked.div staker.stakedBalance stakeAmount) divisionByZero
  let lock ← okOr (Checked.div lock stakes) divisionByZero
  ensure (lock < elapsed) .reporterTimeLocked

/-- The staker's record after a submission. -/
def StakeInfo.reported (staker : StakeInfo) (timestamp : ℕ) : StakeInfo :=
  { staker with
    reporterLastTimestamp := timestamp
    reportsSubmitted := staker.reportsSubmitted + 1 }

/-- The storage writes of `submit_value` to the staking items. -/
def Staking.countReport (st : Staking AccountId) (reporter : AccountId) (queryId : QueryId)
    (staker : StakeInfo) : Staking AccountId :=
  { st with
    stakerReportsSubmittedByQueryId := st.stakerReportsSubmittedByQueryId.insert (reporter, queryId)
      (FiniteMap.read st.stakerReportsSubmittedByQueryId 0 (reporter, queryId) + 1)
    stakerDetails := st.stakerDetails.insert reporter staker }

/-- `submit_value`. -/
def submitValue (s : State AccountId) (reporter : AccountId) (queryId : QueryId) (value : Value)
    (nonce : ℕ) (queryData : QueryData) : Except DispatchError (State AccountId) := do
  ensure (value ≠ []) .invalidValue
  ensure (nonce = s.oracle.count queryId ∨ nonce = 0) .invalidNonce
  let staker ← okOr (s.staking.stakerDetails.lookup reporter) (.module .insufficientStake)
  ensure (s.prices.stakeAmount ≤ staker.stakedBalance) .insufficientStake
  ensureLockPassed s.now s.prices.stakeAmount staker
  ensure (queryId = cfg.keccak256 queryData) .invalidQueryId
  -- checks for no double reporting of timestamps
  ensure (s.oracle.reports.lookup (queryId, s.now) = none) .timestampAlreadyReported
  let s := { s with
    oracle := s.oracle.submit queryId s.now s.blockNumber reporter value
    staking := s.staking.countReport reporter queryId (staker.reported s.now) }
  .ok (s.depositEvent (.newReport queryId s.now value nonce queryData reporter))

/-! ## Amounts that follow reported prices -/

/-- The price of a query reported at least twelve hours ago, when it lies in the accepted range. -/
def reportedPrice (s : State AccountId) (queryId : QueryId) (error : Error) :
    Except DispatchError ℕ := do
  let before ← okOr (Checked.sub s.now (12 * hours)) underflow
  let (value, _) ← okOr (s.oracle.getDataBeforeWithStart queryId before 0).1 (.module error)
  let price ← okOr (bytesToU256 value) (.module error)
  ensure (10 ^ 16 ≤ price ∧ price < 10 ^ 24) error
  .ok price

/-- `do_update_stake_amount`. -/
def doUpdateStakeAmount (s : State AccountId) : Except DispatchError (State AccountId) := do
  let stakingTokenPrice ← reportedPrice s cfg.stakingTokenPriceQueryId .invalidStakingTokenPrice
  let scaled ← okOr (Checked.mul u256Max cfg.stakeAmountCurrencyTarget (10 ^ 18)) overflow
  let adjustedStakeAmount := scaled / stakingTokenPrice
  let amount := (if adjustedStakeAmount < cfg.minimumStakeAmount then cfg.minimumStakeAmount
    else adjustedStakeAmount)
  .ok ({ s with prices := { s.prices with stakeAmount := amount } }.depositEvent
    (.newStakeAmount amount))

/-- `calculate_dispute_fee`. -/
def calculateDisputeFee (stakeAmount : ℕ) (price : ℕ) : Except DispatchError ℕ := do
  let product ← okOr (Checked.mul u256Max (stakeAmount / 10) price) overflow
  let fee ← convert cfg (product / 10 ^ trbDecimals)
  .ok (u256ToBalance cfg fee)

/-- `update_dispute_fee`. -/
def updateDisputeFee (s : State AccountId) : Except DispatchError (State AccountId) := do
  let tokenPrice ← reportedPrice s cfg.stakingToLocalTokenPriceQueryId .invalidPrice
  let newDisputeFee ← calculateDisputeFee cfg s.prices.stakeAmount tokenPrice
  -- only update and deposit event if value has changed
  if newDisputeFee ≠ s.prices.disputeFee then
    .ok ({ s with prices := { s.prices with disputeFee := newDisputeFee } }.depositEvent
      (.newDisputeFee newDisputeFee))
  else .ok s

/-- `update_stake_amount`. -/
def updateStakeAmount (s : State AccountId) : Except DispatchError (State AccountId) := do
  let s ← doUpdateStakeAmount cfg s
  updateDisputeFee cfg s

/-! ## What a successful call did -/

section Effects

variable {cfg} {s s' : State AccountId}

omit [DecidableEq AccountId] in
theorem ensureLockPassed_lt {now : ℕ} {stakeAmount : ℕ} {staker : StakeInfo}
    (h : ensureLockPassed now stakeAmount staker = .ok ()) : staker.reporterLastTimestamp < now := by
  simp only [ensureLockPassed, bind_eq_ok, okOr_eq_ok, guard_eq_ok, Checked.sub_eq_some,
    Checked.mul_eq_some] at h
  obtain ⟨elapsed, ⟨hle, helapsed⟩, _, ⟨-, hscaled⟩, _, -, _, -, lock, -, hlock⟩ := h
  have hpositive : 0 < elapsed := by omega
  exact Nat.lt_of_sub_pos (helapsed ▸ hpositive)

/-- What a submission did: the report joins its series under the current time. -/
structure Submission (s : State AccountId) (reporter : AccountId) (queryId : QueryId) (value : Value)
    (s' : State AccountId) (staker : StakeInfo) (event : Event AccountId) : Prop where
  staker_eq : s.staking.stakerDetails.lookup reporter = some staker
  stakeAmount_le : s.prices.stakeAmount ≤ staker.stakedBalance
  last_lt : staker.reporterLastTimestamp < s.now
  value_ne : value ≠ []
  fresh : s.oracle.reports.lookup (queryId, s.now) = none
  state_eq : s' = { s with
    oracle := s.oracle.submit queryId s.now s.blockNumber reporter value
    staking := s.staking.countReport reporter queryId (staker.reported s.now)
    events := s.events ++ [event] }

theorem submitValue_submission {reporter : AccountId} {queryId : QueryId} {value : Value} {nonce : ℕ}
    {queryData : QueryData} (h : submitValue cfg s reporter queryId value nonce queryData = .ok s') :
    ∃ staker, Submission s reporter queryId value s' staker
      (.newReport queryId s.now value nonce queryData reporter) := by
  simp only [submitValue, bind_eq_ok, okOr_eq_ok, guard_eq_ok, exists_const] at h
  obtain ⟨hvalue, -, staker, hstaker, hstake, u, hlock, -, hfresh, h⟩ := h
  cases h
  exact ⟨staker, hstaker, hstake, ensureLockPassed_lt hlock, hvalue, hfresh, rfl⟩

omit [DecidableEq AccountId] in
theorem doUpdateStakeAmount_frame (h : doUpdateStakeAmount cfg s = .ok s') :
    s' = { s with prices := s'.prices, events := s'.events } ∧ s'.voteEvents = s.voteEvents := by
  simp only [doUpdateStakeAmount, bind_eq_ok] at h
  obtain ⟨price, -, scaled, -, h⟩ := h
  cases h
  exact ⟨rfl, by simp [State.voteEvents, State.depositEvent, Event.isVoteEvent]⟩

omit [DecidableEq AccountId] in
theorem updateDisputeFee_frame (h : updateDisputeFee cfg s = .ok s') :
    s' = { s with prices := s'.prices, events := s'.events } ∧ s'.voteEvents = s.voteEvents := by
  simp only [updateDisputeFee, bind_eq_ok] at h
  obtain ⟨tokenPrice, -, fee, -, h⟩ := h
  split at h
  · cases h
    exact ⟨rfl, by simp [State.voteEvents, State.depositEvent, Event.isVoteEvent]⟩
  · cases h
    exact ⟨rfl, rfl⟩

omit [DecidableEq AccountId] in
/-- A price update changes the prices only. -/
theorem updateStakeAmount_frame (h : updateStakeAmount cfg s = .ok s') :
    s' = { s with prices := s'.prices, events := s'.events } ∧ s'.voteEvents = s.voteEvents := by
  obtain ⟨mid, hmid, h⟩ := bind_eq_ok.mp h
  obtain ⟨hfirst, hquiet⟩ := doUpdateStakeAmount_frame hmid
  obtain ⟨hsecond, hquiet'⟩ := updateDisputeFee_frame h
  exact ⟨by rw [hsecond, hfirst], hquiet'.trans hquiet⟩

end Effects

end TellorPallet
