import Mathlib.Logic.Relation
import TellorPallet.Staking.Rewards

/-!
# Reports of the staking controller contract

The four calls by which the staking contract reports deposits, withdrawal requests, withdrawals and
slashes. Each mutates one staker's record together with the totals.
-/

namespace TellorPallet

open Outcome

variable {AccountId : Type} [DecidableEq AccountId] (cfg : Config AccountId)

namespace State

/-- Store a staker's record. -/
def putStaker (s : State AccountId) (staker : AccountId) (info : StakeInfo) : State AccountId :=
  { s with staking := { s.staking with
      stakerDetails := s.staking.stakerDetails.insert staker info } }

/-- Subtract from the amount locked for withdrawal. -/
def releaseLocked (s : State AccountId) (amount : ℕ) :
    Except DispatchError (State AccountId) := do
  let toWithdraw ← okOr (Checked.sub s.staking.toWithdraw amount) underflow
  .ok { s with staking := { s.staking with toWithdraw := toWithdraw } }

end State

/-- The first half of `report_stake_deposited`: a deposit first uses the staker's locked balance; a
staker with neither locked nor staked balance starts a new voting record. -/
def useLockedBalance (s : State AccountId) (reporter : AccountId) (amount : ℕ)
    (staker : StakeInfo) : Except DispatchError (StakeInfo × State AccountId) :=
  if 0 < staker.lockedBalance then
    if amount ≤ staker.lockedBalance then do
      -- the staker's locked balance covers the full amount
      let s ← s.releaseLocked amount
      .ok ({ staker with lockedBalance := staker.lockedBalance - amount }, s)
    else do
      -- otherwise, stake the whole locked balance
      let s ← s.releaseLocked staker.lockedBalance
      .ok ({ staker with lockedBalance := 0 }, s)
  else if staker.stakedBalance = 0 then
    .ok ({ staker with
      startVoteCount := s.governance.voteCount
      startVoteTally := s.governance.voteTally reporter }, s)
  else .ok (staker, s)

/-- `report_stake_deposited`. -/
def reportStakeDeposited (s : State AccountId) (reporter : AccountId) (amount : ℕ)
    (address : Address) : Except DispatchError (State AccountId) := do
  let staker := (s.staking.stakerDetails.lookup reporter).getD (StakeInfo.new address)
  ensure (address = staker.address) .invalidAddress
  let (staker, s) ← useLockedBalance s reporter amount staker
  let newStakedBalance ← okOr (Checked.add u256Max staker.stakedBalance amount) .panic
  let (staker, s) ← updateStakeAndPayRewards cfg s reporter staker newStakedBalance
  .ok ((s.putStaker reporter { staker with startDate := s.now }).depositEvent
    (.newStakerReported reporter amount address))

/-- `report_staking_withdraw_request`. -/
def reportStakingWithdrawRequest (s : State AccountId) (reporter : AccountId) (amount : ℕ)
    (address : Address) : Except DispatchError (State AccountId) := do
  let staker ← okOr (s.staking.stakerDetails.lookup reporter) (.module .insufficientStake)
  ensure (address = staker.address) .invalidAddress
  ensure (amount ≤ staker.stakedBalance) .insufficientStake
  let (staker, s) ← updateStakeAndPayRewards cfg s reporter staker (staker.stakedBalance - amount)
  let lockedBalance ← okOr (Checked.add u256Max staker.lockedBalance amount) overflow
  let toWithdraw ← okOr (Checked.add u256Max s.staking.toWithdraw amount) overflow
  let s := { s with staking := { s.staking with toWithdraw := toWithdraw } }
  .ok ((s.putStaker reporter
      { staker with startDate := s.now, lockedBalance := lockedBalance }).depositEvent
    (.stakeWithdrawRequestReported reporter amount address))

/-- `report_stake_withdrawn`. -/
def reportStakeWithdrawn (s : State AccountId) (reporter : AccountId) (amount : ℕ) :
    Except DispatchError (State AccountId) := do
  let staker ← okOr (s.staking.stakerDetails.lookup reporter) (.module .insufficientStake)
  ensure (0 < staker.lockedBalance) .noWithdrawalRequested
  let elapsed ← okOr (Checked.sub s.now staker.startDate) underflow
  ensure (7 * days ≤ elapsed) .withdrawalPeriodPending
  let s ← s.releaseLocked staker.lockedBalance
  let lockedBalance ← okOr (Checked.sub staker.lockedBalance amount) underflow
  .ok ((s.putStaker reporter { staker with lockedBalance := lockedBalance }).depositEvent
    (.stakeWithdrawnReported reporter))

/-- The three branches of `report_slash`: the slashed amount is taken from the locked balance, from
both balances, or is all there is. -/
def slashBalances (s : State AccountId) (reporter : AccountId) (amount : ℕ)
    (staker : StakeInfo) : Except DispatchError (StakeInfo × State AccountId) :=
  if amount ≤ staker.lockedBalance then do
    let s ← s.releaseLocked amount
    .ok ({ staker with lockedBalance := staker.lockedBalance - amount }, s)
  else do
    let lockedBalance := staker.lockedBalance
    let total ← okOr (Checked.add u256Max lockedBalance staker.stakedBalance) overflow
    if amount ≤ total then do
      -- slash from locked balance and slash remainder from staked balance
      let remainder ← okOr (Checked.sub amount lockedBalance) underflow
      let newStakedBalance ← okOr (Checked.sub staker.stakedBalance remainder) underflow
      let (staker, s) ← updateStakeAndPayRewards cfg s reporter staker newStakedBalance
      let s ← s.releaseLocked lockedBalance
      .ok ({ staker with lockedBalance := 0 }, s)
    else do
      -- slash the sum of locked and staked balance
      let s ← s.releaseLocked lockedBalance
      let (staker, s) ← updateStakeAndPayRewards cfg s reporter staker 0
      .ok ({ staker with lockedBalance := 0 }, s)

/-- `report_slash`. -/
def reportSlash (s : State AccountId) (reporter : AccountId) (amount : ℕ) :
    Except DispatchError (State AccountId) := do
  let staker ← okOr (s.staking.stakerDetails.lookup reporter) (.module .insufficientStake)
  let total ← okOr (Checked.add u256Max staker.stakedBalance staker.lockedBalance) overflow
  ensure (0 < total) .insufficientStake
  let (staker, s) ← slashBalances cfg s reporter amount staker
  .ok ((s.putStaker reporter staker).depositEvent (.slashReported reporter amount))

/-- `add_staking_rewards`. -/
def addStakingRewards (s : State AccountId) (source : AccountId) (amount : ℕ) :
    Except DispatchError (State AccountId) := do
  let s ← doAddStakingRewards cfg s source amount
  .ok (if 0 < amount then s.depositEvent (.stakingRewardsAdded source amount) else s)

/-! ## What a successful report did -/

section Effects

variable {cfg} {s s' : State AccountId} {reporter : AccountId} {amount : ℕ}

omit [DecidableEq AccountId] in
theorem releaseLocked_eq_ok :
    s.releaseLocked amount = .ok s' ↔ amount ≤ s.staking.toWithdraw ∧
      { s with staking := { s.staking with toWithdraw := s.staking.toWithdraw - amount } } = s' := by
  simp only [State.releaseLocked, bind_eq_ok, okOr_eq_ok, Checked.sub_eq_some, Except.ok.injEq]
  constructor
  · rintro ⟨_, ⟨hle, rfl⟩, h⟩
    exact ⟨hle, h⟩
  · rintro ⟨hle, h⟩
    exact ⟨_, ⟨hle, rfl⟩, h⟩

/-- Lock a staked amount for withdrawal. -/
def State.lock (s : State AccountId) (amount : ℕ) : State AccountId :=
  { s with staking := { s.staking with toWithdraw := s.staking.toWithdraw + amount } }

/-- Release a locked amount. -/
def State.release (s : State AccountId) (amount : ℕ) : State AccountId :=
  { s with staking := { s.staking with toWithdraw := s.staking.toWithdraw - amount } }

/-- The record of a depositing staker once its locked balance is used. -/
def StakeInfo.relocked (g : Governance AccountId) (reporter : AccountId) (amount : ℕ)
    (staker : StakeInfo) : StakeInfo :=
  if staker.lockedBalance = 0 ∧ staker.stakedBalance = 0 then
    { staker with startVoteCount := g.voteCount, startVoteTally := g.voteTally reporter }
  else { staker with lockedBalance := staker.lockedBalance - min amount staker.lockedBalance }

@[simp]
theorem StakeInfo.relocked_stakedBalance (g : Governance AccountId) (staker : StakeInfo) :
    (staker.relocked g reporter amount).stakedBalance = staker.stakedBalance := by
  unfold StakeInfo.relocked
  split <;> rfl

@[simp]
theorem StakeInfo.relocked_lockedBalance (g : Governance AccountId) (staker : StakeInfo) :
    (staker.relocked g reporter amount).lockedBalance = staker.lockedBalance - amount := by
  unfold StakeInfo.relocked
  split
  · next hnone => rw [hnone.1, Nat.zero_sub, ← hnone.1]
  · change staker.lockedBalance - min amount staker.lockedBalance = _
    omega

omit [DecidableEq AccountId] in
/-- A staker without a record has the address it deposits with. -/
theorem eq_address_iff {address : Address} {lookup : Option StakeInfo} :
    address = (lookup.getD (StakeInfo.new address)).address ↔
      ∀ info ∈ lookup, address = info.address := by
  cases lookup with
  | none => exact ⟨fun _ ↦ nofun, fun _ ↦ rfl⟩
  | some info => simp

omit [DecidableEq AccountId] in
theorem releaseLocked_pair_eq_ok {staker : StakeInfo} {r : StakeInfo × State AccountId} :
    (do let s ← s.releaseLocked amount; .ok (staker, s) : Except DispatchError _) = .ok r ↔
      amount ≤ s.staking.toWithdraw ∧ (staker, s.release amount) = r := by
  simp only [bind_eq_ok, releaseLocked_eq_ok, Except.ok.injEq]
  constructor
  · rintro ⟨_, ⟨hle, rfl⟩, hr⟩
    exact ⟨hle, hr⟩
  · rintro ⟨hle, hr⟩
    exact ⟨_, ⟨hle, rfl⟩, hr⟩

/-- The locked balance a deposit uses is released: nothing of it, the deposited amount, or all. -/
theorem useLockedBalance_eq_ok_iff {staker : StakeInfo} {r : StakeInfo × State AccountId} :
    useLockedBalance s reporter amount staker = .ok r ↔
      min amount staker.lockedBalance ≤ s.staking.toWithdraw ∧
        (staker.relocked s.governance reporter amount,
          s.release (min amount staker.lockedBalance)) = r := by
  unfold useLockedBalance StakeInfo.relocked
  by_cases hlocked : 0 < staker.lockedBalance
  · rw [if_pos hlocked, if_neg (not_and_of_not_left _ hlocked.ne')]
    split
    · next hcovered =>
      rw [min_eq_left hcovered]
      exact releaseLocked_pair_eq_ok
    · next hcovered =>
      rw [min_eq_right (not_le.mp hcovered).le, Nat.sub_self]
      exact releaseLocked_pair_eq_ok
  · have hzero : staker.lockedBalance = 0 := Nat.eq_zero_of_not_pos hlocked
    have hrelease : s.release (min amount staker.lockedBalance) = s := by
      rw [hzero, Nat.min_zero]
      rfl
    have hkept : { staker with
        lockedBalance := staker.lockedBalance - min amount staker.lockedBalance } = staker := by
      rw [hzero, Nat.zero_sub, ← hzero]
    rw [if_neg hlocked, hrelease, hkept, hzero, Nat.min_zero]
    split
    · next hstaked => rw [if_pos ⟨rfl, hstaked⟩, Except.ok.injEq, and_iff_right (Nat.zero_le _)]
    · next hstaked =>
      rw [if_neg (not_and_of_not_right _ hstaked), Except.ok.injEq, and_iff_right (Nat.zero_le _)]

theorem useLockedBalance_eq_ok {staker staker' : StakeInfo}
    (h : useLockedBalance s reporter amount staker = .ok (staker', s')) :
    ∃ used, used = min amount staker.lockedBalance ∧ used ≤ s.staking.toWithdraw ∧
      s' = s.release used ∧
      staker' = { staker with
        lockedBalance := staker.lockedBalance - used
        startVoteCount := staker'.startVoteCount
        startVoteTally := staker'.startVoteTally } := by
  obtain ⟨hle, hr⟩ := useLockedBalance_eq_ok_iff.mp h
  obtain ⟨rfl, rfl⟩ := Prod.mk.inj hr
  refine ⟨_, rfl, hle, rfl, ?_⟩
  unfold StakeInfo.relocked
  split
  · next hnone => rw [hnone.1, Nat.zero_sub, ← hnone.1]
  · rfl

@[simp]
theorem State.putStaker_toWithdraw {staker : AccountId} {info : StakeInfo} :
    (s.putStaker staker info).staking.toWithdraw = s.staking.toWithdraw := rfl

omit [DecidableEq AccountId] in
@[simp]
theorem State.lock_toWithdraw : (s.lock amount).staking.toWithdraw = s.staking.toWithdraw + amount :=
  rfl

omit [DecidableEq AccountId] in
@[simp]
theorem State.release_toWithdraw :
    (s.release amount).staking.toWithdraw = s.staking.toWithdraw - amount := rfl

/-- The moves that reports are made of, on a state and the record of one reporter that is about to
be stored in it. `settled` is the balance the report leaves its reporter with, if it settles the
reporter's stake at all. -/
inductive RecordStep (cfg : Config AccountId) (reporter : AccountId) (settled : Option ℕ) :
    State AccountId × StakeInfo → State AccountId × StakeInfo → Prop where
  /-- The stake changes: rewards are settled and the totals follow. -/
  | settle {s s' : State AccountId} {info info' : StakeInfo} {newStakedBalance : ℕ}
      (hsettled : settled = some newStakedBalance)
      (h : updateStakeAndPayRewards cfg s reporter info newStakedBalance = .ok (info', s')) :
      RecordStep cfg reporter settled (s, info) (s', info')
  /-- Part of the locked balance is released. -/
  | release {s : State AccountId} {info : StakeInfo} {amount : ℕ}
      (hlocked : amount ≤ info.lockedBalance) (htotal : amount ≤ s.staking.toWithdraw) :
      RecordStep cfg reporter settled (s, info)
        (s.release amount, { info with lockedBalance := info.lockedBalance - amount })
  /-- An amount is locked for withdrawal. -/
  | lock {s : State AccountId} {info : StakeInfo} (amount : ℕ) :
      RecordStep cfg reporter settled (s, info)
        (s.lock amount, { info with lockedBalance := info.lockedBalance + amount })
  /-- Dates and the voting record change. -/
  | note {s : State AccountId} {info : StakeInfo} (startDate : ℕ)
      (startVoteCount startVoteTally : ℕ) :
      RecordStep cfg reporter settled (s, info) (s, { info with
        startDate := startDate
        startVoteCount := startVoteCount
        startVoteTally := startVoteTally })

/-- What a report did, a withdrawal apart: from the reporter's record, or a new one, a sequence of
moves to the record it stored. -/
structure Reported (cfg : Config AccountId) (s : State AccountId) (reporter : AccountId)
    (settled : Option ℕ) (info : StakeInfo) (s₁ : State AccountId) (info' : StakeInfo)
    (event : Event AccountId) (s' : State AccountId) : Prop where
  record_eq : s.staking.stakerDetails.lookup reporter = some info ∨
    (s.staking.stakerDetails.lookup reporter = none ∧ ∃ address, info = StakeInfo.new address)
  moves : Relation.ReflTransGen (RecordStep cfg reporter settled) (s, info) (s₁, info')
  state_eq : s' = (s₁.putStaker reporter info').depositEvent event

/-- The moves of a report touch the ledger and the staking items only. -/
theorem RecordStep.frame {settled : Option ℕ} {before after : State AccountId × StakeInfo}
    (h : RecordStep cfg reporter settled before after) :
    after.1 = { before.1 with ledger := after.1.ledger, staking := after.1.staking } := by
  cases h with
  | settle hsettled h =>
    obtain ⟨_, _, _, _, -, -, -, -, hframe⟩ := updateStakeAndPayRewards_eq_ok h
    exact hframe
  | release hlocked htotal => rfl
  | lock amount => rfl
  | note startDate startVoteCount startVoteTally => rfl

theorem frame_of_moves {settled : Option ℕ} {before after : State AccountId × StakeInfo}
    (h : Relation.ReflTransGen (RecordStep cfg reporter settled) before after) :
    after.1 = { before.1 with ledger := after.1.ledger, staking := after.1.staking } := by
  induction h with
  | refl => rfl
  | tail _ hlast ih =>
    rw [hlast.frame, ih]

/-- What every move of a report preserves holds of the state and the record it ends with. -/
theorem Reported.invariant {settled : Option ℕ} {info info' : StakeInfo} {s₁ : State AccountId}
    {event : Event AccountId} (inv : State AccountId × StakeInfo → Prop)
    (h : Reported cfg s reporter settled info s₁ info' event s')
    (hmove : ∀ before after, inv before → RecordStep cfg reporter settled before after → inv after)
    (hstart : inv (s, info)) : inv (s₁, info') := by
  have hmoves := h.moves
  generalize (s₁, info') = after at hmoves ⊢
  induction hmoves with
  | refl => exact hstart
  | tail _ hlast ih => exact hmove _ _ ih hlast

theorem Reported.frame {settled : Option ℕ} {info info' : StakeInfo} {s₁ : State AccountId}
    {event : Event AccountId}
    (h : Reported cfg s reporter settled info s₁ info' event s') :
    s' = { s with
      ledger := s'.ledger
      staking := s'.staking
      events := s.events ++ [event] } := by
  have hframe := frame_of_moves h.moves
  dsimp only at hframe
  rw [h.state_eq, hframe]
  rfl

theorem getD_new_cases {o : Option StakeInfo} (address : Address) :
    o = some (o.getD (StakeInfo.new address)) ∨
      (o = none ∧ ∃ address', o.getD (StakeInfo.new address) = StakeInfo.new address') := by
  cases o with
  | none => exact Or.inr ⟨rfl, address, rfl⟩
  | some info => exact Or.inl rfl

theorem reportStakeDeposited_reported {address : Address}
    (h : reportStakeDeposited cfg s reporter amount address = .ok s') :
    ∃ info s₁ info', Reported cfg s reporter (some (info.stakedBalance + amount)) info s₁ info'
      (.newStakerReported reporter amount address) s' := by
  have hrecord := getD_new_cases (o := s.staking.stakerDetails.lookup reporter) address
  simp only [reportStakeDeposited, bind_eq_ok, okOr_eq_ok, guard_eq_ok, exists_const,
    Checked.add_eq_some] at h
  generalize (s.staking.stakerDetails.lookup reporter).getD (StakeInfo.new address) = info at h hrecord
  obtain ⟨-, ⟨staker, released⟩, hused, _, ⟨-, rfl⟩, ⟨settled, s₁⟩, hsettle, h⟩ := h
  cases h
  obtain ⟨used, hmin, htotal, rfl, hstaker⟩ := useLockedBalance_eq_ok hused
  refine ⟨info, s₁, _, hrecord, ?_, rfl⟩
  have hlocked : used ≤ info.lockedBalance := hmin.trans_le (min_le_right _ _)
  refine Relation.ReflTransGen.head (.release hlocked htotal) ?_
  refine Relation.ReflTransGen.head
    (.note info.startDate staker.startVoteCount staker.startVoteTally) ?_
  rw [hstaker] at hsettle
  exact Relation.ReflTransGen.head (.settle rfl hsettle)
    (Relation.ReflTransGen.single (.note s₁.now _ _))

theorem reportStakingWithdrawRequest_reported {address : Address}
    (h : reportStakingWithdrawRequest cfg s reporter amount address = .ok s') :
    ∃ info s₁ info', Reported cfg s reporter (some (info.stakedBalance - amount)) info s₁ info'
      (.stakeWithdrawRequestReported reporter amount address) s' := by
  simp only [reportStakingWithdrawRequest, bind_eq_ok, okOr_eq_ok, guard_eq_ok, exists_const,
    Checked.add_eq_some] at h
  obtain ⟨info, hinfo, -, -, ⟨settled, s₁⟩, hsettle, _, ⟨-, rfl⟩, _, ⟨-, rfl⟩, h⟩ := h
  cases h
  refine ⟨info, s₁.lock amount, _, Or.inl hinfo, ?_, rfl⟩
  refine Relation.ReflTransGen.head (.settle rfl hsettle) ?_
  exact Relation.ReflTransGen.head (.lock amount)
    (Relation.ReflTransGen.single (.note s₁.now _ _))

/-- What a withdrawal did: the whole locked balance leaves the total, the withdrawn amount leaves the
record. -/
structure Withdrawn (s : State AccountId) (reporter : AccountId) (amount : ℕ)
    (info : StakeInfo) (s' : State AccountId) : Prop where
  record_eq : s.staking.stakerDetails.lookup reporter = some info
  period_passed : info.startDate + 7 * days ≤ s.now
  amount_le : amount ≤ info.lockedBalance
  locked_le : info.lockedBalance ≤ s.staking.toWithdraw
  state_eq : s' = ((s.release info.lockedBalance).putStaker reporter
    { info with lockedBalance := info.lockedBalance - amount }).depositEvent
    (.stakeWithdrawnReported reporter)

theorem reportStakeWithdrawn_withdrawn (h : reportStakeWithdrawn s reporter amount = .ok s') :
    ∃ info, Withdrawn s reporter amount info s' := by
  simp only [reportStakeWithdrawn, bind_eq_ok, okOr_eq_ok, guard_eq_ok, exists_const,
    Checked.sub_eq_some, releaseLocked_eq_ok] at h
  obtain ⟨info, hinfo, -, _, ⟨hstarted, rfl⟩, hperiod, _, ⟨htotal, rfl⟩, _, ⟨hlocked, rfl⟩, h⟩ := h
  cases h
  exact ⟨info, hinfo, by omega, hlocked, htotal, rfl⟩

/-- The balance a slash leaves its reporter with, if it reaches the staked balance. -/
def StakeInfo.slashed (info : StakeInfo) (amount : ℕ) : Option ℕ :=
  if amount ≤ info.lockedBalance then none
  else some (info.stakedBalance - (amount - info.lockedBalance))

theorem slashBalances_moves {info info' : StakeInfo}
    (h : slashBalances cfg s reporter amount info = .ok (info', s')) :
    Relation.ReflTransGen (RecordStep cfg reporter (info.slashed amount)) (s, info) (s', info') := by
  unfold slashBalances at h
  split at h
  · next hcovered =>
    simp only [bind_eq_ok, releaseLocked_eq_ok] at h
    obtain ⟨_, ⟨htotal, rfl⟩, h⟩ := h
    cases h
    exact Relation.ReflTransGen.single (.release hcovered htotal)
  · next hcovered =>
    have hslashed : info.slashed amount =
        some (info.stakedBalance - (amount - info.lockedBalance)) := if_neg hcovered
    simp only [bind_eq_ok, okOr_eq_ok, Checked.add_eq_some] at h
    obtain ⟨_, ⟨-, rfl⟩, h⟩ := h
    split at h
    · simp only [bind_eq_ok, okOr_eq_ok, Checked.sub_eq_some, releaseLocked_eq_ok] at h
      obtain ⟨_, ⟨-, rfl⟩, _, ⟨-, rfl⟩, ⟨settled, s₁⟩, hsettle, _, ⟨htotal, rfl⟩, h⟩ := h
      cases h
      have hlocked := updateStakeAndPayRewards_locked hsettle
      refine Relation.ReflTransGen.head (.settle hslashed hsettle)
        (Relation.ReflTransGen.single ?_)
      have hrelease : RecordStep cfg reporter (info.slashed amount) (s₁, settled)
          (s₁.release info.lockedBalance,
            { settled with lockedBalance := settled.lockedBalance - info.lockedBalance }) :=
        .release hlocked.ge htotal
      rwa [hlocked, Nat.sub_self] at hrelease
    · next hexceeded =>
      simp only [bind_eq_ok, releaseLocked_eq_ok] at h
      obtain ⟨_, ⟨htotal, rfl⟩, ⟨settled, s₁⟩, hsettle, h⟩ := h
      cases h
      have hzero : info.stakedBalance - (amount - info.lockedBalance) = 0 := by omega
      rw [hzero] at hslashed
      refine Relation.ReflTransGen.head (.release le_rfl htotal) (Relation.ReflTransGen.single ?_)
      rw [Nat.sub_self]
      exact .settle hslashed (updateStakeAndPayRewards_setLocked 0 hsettle)

theorem reportSlash_reported (h : reportSlash cfg s reporter amount = .ok s') :
    ∃ info s₁ info',
      Reported cfg s reporter (info.slashed amount) info s₁ info' (.slashReported reporter amount) s' := by
  simp only [reportSlash, bind_eq_ok, okOr_eq_ok, guard_eq_ok, exists_const] at h
  obtain ⟨info, hinfo, total, -, -, ⟨slashed, s₁⟩, hslash, h⟩ := h
  cases h
  exact ⟨info, s₁, slashed, Or.inl hinfo, slashBalances_moves hslash, rfl⟩

/-- What adding staking rewards did. -/
theorem addStakingRewards_eq_ok {source : AccountId}
    (h : addStakingRewards cfg s source amount = .ok s') :
    ∃ s₁, doAddStakingRewards cfg s source amount = .ok s₁ ∧
      s' = { s₁ with events := s'.events } ∧ s'.voteEvents = s₁.voteEvents := by
  obtain ⟨s₁, hadd, h⟩ := bind_eq_ok.mp h
  cases h
  refine ⟨s₁, hadd, ?_, ?_⟩
  · split <;> rfl
  · split
    · simp [State.voteEvents, State.depositEvent, Event.isVoteEvent]
    · rfl

end Effects

end TellorPallet
