import TellorPallet.Staking.Acceptance

/-!
# Deposits of any amount

The controller chain reports deposits of up to 256 bits. What does not fit is refused wherever the
arithmetic is checked. Two sums are not: the deposit on top of the old stake, and the rewards of the
time that passed on top of the accumulator. Where balances are of type `u128`, only the first can
exceed 256 bits.
-/

namespace TellorPallet

open Outcome Transition

variable {AccountId : Type} [DecidableEq AccountId] {cfg : Config AccountId}

/-! ## Steps that do not panic -/

omit [DecidableEq AccountId] in
@[simp]
theorem avoids_convert (amount : ℕ) : Avoids (convert cfg amount) .panic := by
  simp [convert, convertToDecimals]

omit [DecidableEq AccountId] in
@[simp]
theorem avoids_unit : Avoids (unit cfg) .panic := by
  simp [unit]

omit [DecidableEq AccountId] in
@[simp]
theorem avoids_accruedReward (perShare stake unit debt : ℕ) :
    Avoids (accruedReward perShare stake unit debt) .panic := by
  simp [accruedReward]

@[simp]
theorem avoids_transfer (ledger : Ledger AccountId) (source dest : AccountId) (amount : ℕ)
    (preservation : Preservation) :
    Avoids (transfer cfg ledger source dest amount preservation) .panic := by
  simp [transfer]

namespace Staking

omit [DecidableEq AccountId] in
@[simp]
theorem avoids_freshRewardRate (rewardsBalance perShare stake unit debt : ℕ) :
    Avoids (freshRewardRate cfg rewardsBalance perShare stake unit debt) .panic := by
  simp [freshRewardRate]

@[simp]
theorem avoids_participationShare (governance : Governance AccountId) (staker : AccountId)
    (info : StakeInfo) (reward : ℕ) :
    Avoids (participationShare cfg governance staker info reward) .panic := by
  simp [participationShare]

@[simp]
theorem avoids_payPendingReward (governance : Governance AccountId) (staker : AccountId)
    (info : StakeInfo) (unit : ℕ) (ledger : Ledger AccountId) (st : Staking AccountId) :
    Avoids (payPendingReward cfg governance staker info unit ledger st) .panic := by
  simp [payPendingReward]

omit [DecidableEq AccountId] in
@[simp]
theorem avoids_restake (stakeAmount newStakedBalance rewardsBalance unit : ℕ) (info : StakeInfo)
    (st : Staking AccountId) :
    Avoids (restake cfg stakeAmount newStakedBalance rewardsBalance unit info st) .panic := by
  simp [restake]

end Staking

@[simp]
theorem avoids_useLockedBalance (s : State AccountId) (reporter : AccountId) (amount : ℕ)
    (staker : StakeInfo) : Avoids (useLockedBalance s reporter amount staker) .panic := by
  simp [useLockedBalance, State.releaseLocked]

/-- Of an update only its update of the accumulator can panic. -/
theorem updateStakeAndPayRewards_panic_iff {s : State AccountId} {staker : AccountId}
    {info : StakeInfo} {newStakedBalance : ℕ} :
    updateStakeAndPayRewards cfg s staker info newStakedBalance = .error .panic ↔
      s.staking.updateRewards cfg s.now (s.ledger cfg.stakingRewards) = .error .panic := by
  apply bind_eq_error_of_avoids
  simp

/-! ## The accumulator -/

namespace Staking

/-- Rewards accrue, from factors that fit, and take the accumulator beyond 256 bits. -/
structure AccumulatorOverflows (cfg : Config AccountId) (st : Staking AccountId) (now : ℕ) :
    Prop where
  accrues : ¬st.Idle cfg now
  stake_le : st.localStake cfg ≤ u256Max
  unit_le : 10 ^ cfg.decimals ≤ u128Max
  scaled_le : (now - st.timeOfLastAllocation) * st.rewardRate * 10 ^ cfg.decimals ≤ u256Max
  overflows : u256Max < st.accumulatedRewardPerShare + st.accrual cfg now

instance (cfg : Config AccountId) (st : Staking AccountId) (now : ℕ) :
    Decidable (st.AccumulatorOverflows cfg now) :=
  decidable_of_iff (_ ∧ _ ∧ _ ∧ _ ∧ _)
    ⟨fun ⟨accrues, stake, unit, scaled, sum⟩ ↦ ⟨accrues, stake, unit, scaled, sum⟩,
      fun ⟨accrues, stake, unit, scaled, sum⟩ ↦ ⟨accrues, stake, unit, scaled, sum⟩⟩

/-- The total stake and the rate are of their types. -/
structure AmountsFit (st : Staking AccountId) : Prop where
  totalStakeAmount_le : st.totalStakeAmount ≤ u256Max
  rewardRate_le : st.rewardRate ≤ u128Max

variable {st st' : Staking AccountId} {now rewardsBalance : ℕ}

omit [DecidableEq AccountId] in
theorem localStake_le_of_convert (htotal : st.totalStakeAmount ≤ u256Max) {stake : ℕ}
    (h : convert cfg st.totalStakeAmount = .ok stake) : stake ≤ u256Max := by
  unfold convert convertToDecimals at h
  split at h
  · cases h
    exact htotal
  · split at h
    · simp only [bind_eq_ok, Except.ok.injEq] at h
      obtain ⟨scale, -, rfl⟩ := h
      exact (Nat.div_le_self _ _).trans htotal
    · split at h
      · simp only [bind_eq_ok, okOr_eq_ok, Checked.mul_eq_some] at h
        obtain ⟨scale, -, hle, rfl⟩ := h
        exact hle
      · cases h
        exact htotal

omit [DecidableEq AccountId] in
/-- An update of the accumulator panics exactly where the plain sum in it exceeds 256 bits. -/
theorem updateRewards_panic_iff (htime : st.timeOfLastAllocation ≤ now)
    (htotal : st.totalStakeAmount ≤ u256Max) :
    st.updateRewards cfg now rewardsBalance = .error .panic ↔ st.AccumulatorOverflows cfg now := by
  unfold updateRewards
  by_cases hnow : st.timeOfLastAllocation = now
  · rw [if_pos hnow]
    exact ⟨nofun, fun h ↦ absurd (Or.inl hnow) h.accrues⟩
  have helapsed : okOr (Checked.sub now st.timeOfLastAllocation) DispatchError.panic =
      .ok (now - st.timeOfLastAllocation) := okOr_eq_ok.mpr (Checked.sub_eq_some.mpr ⟨htime, rfl⟩)
  have hchecked {value : Option ℕ} : Avoids (okOr value overflow) .panic :=
    avoids_okOr.mpr fun _ ↦ nofun
  rw [if_neg hnow, (avoids_convert _).bind_eq_error]
  constructor
  · rintro ⟨stake, hstake, h⟩
    have hstakeLe := localStake_le_of_convert htotal hstake
    obtain rfl : stake = st.localStake cfg := convert_eq_ok hstake
    split at h
    · cases h
    · next hnone =>
      -- what precedes the plain sum is checked, and so is what follows it
      obtain ⟨u, hunit, h⟩ := avoids_unit.bind_eq_error.mp h
      simp only [unit, okOr_eq_ok, Checked.pow_eq_some] at hunit
      obtain ⟨hunitLe, rfl⟩ := hunit
      rw [bind_of_ok helapsed] at h
      obtain ⟨released, hreleased, h⟩ := hchecked.bind_eq_error.mp h
      obtain ⟨scaled, hscaled, h⟩ := hchecked.bind_eq_error.mp h
      rw [bind_eq_error_of_avoids (by simp), okOr_eq_error, Checked.add_eq_none] at h
      rw [okOr_eq_ok, Checked.mul_eq_some] at hreleased hscaled
      obtain ⟨-, rfl⟩ := hreleased
      obtain ⟨hscaledLe, rfl⟩ := hscaled
      exact ⟨not_or.mpr ⟨hnow, hnone⟩, hstakeLe, hunitLe, hscaledLe, h.1⟩
  · intro h
    have hscaled := h.scaled_le
    have hreleased : (now - st.timeOfLastAllocation) * st.rewardRate ≤ u256Max :=
      (Nat.le_mul_of_pos_right _ (by positivity)).trans hscaled
    have hconvert : convert cfg st.totalStakeAmount = .ok (st.localStake cfg) := convert_ok h.stake_le
    refine ⟨_, hconvert, ?_⟩
    rw [if_neg (not_or.mp h.accrues).2, bind_of_ok (unit_ok h.unit_le), bind_of_ok helapsed,
      bind_of_ok (okOr_eq_ok.mpr (Checked.mul_eq_some.mpr ⟨hreleased, rfl⟩)),
      bind_of_ok (okOr_eq_ok.mpr (Checked.mul_eq_some.mpr ⟨hscaled, rfl⟩)),
      bind_eq_error_of_avoids (by simp), okOr_eq_error, Checked.add_eq_none]
    exact ⟨h.overflows, rfl⟩

omit [DecidableEq AccountId] in
theorem AmountsFit.updateRewards (hinv : st.AmountsFit)
    (h : st.updateRewards cfg now rewardsBalance = .ok st') : st'.AmountsFit := by
  have hrate := (updateRewards_broughtUp h).rate_eq
  have hrateLe : st.rateAt cfg now rewardsBalance ≤ st.rewardRate := by
    unfold rateAt
    split
    · exact Nat.zero_le _
    · exact le_rfl
  refine ⟨?_, hrate.le.trans (hrateLe.trans hinv.rewardRate_le)⟩
  rw [updateRewards_frame h]
  exact hinv.totalStakeAmount_le

omit [DecidableEq AccountId] in
theorem restake_amountsFit {stakeAmount newStakedBalance unit : ℕ} {info info' : StakeInfo}
    (hrate : st.rewardRate ≤ u128Max)
    (h : restake cfg stakeAmount newStakedBalance rewardsBalance unit info st = .ok (info', st')) :
    st'.AmountsFit := by
  simp only [restake, bind_eq_ok, okOr_eq_ok, Checked.add_eq_some] at h
  obtain ⟨stake, -, product, -, accrued, -, _, ⟨-, rfl⟩, _, ⟨htotal, rfl⟩, localStake, -, rate,
    hrestarted, h⟩ := h
  cases h
  refine ⟨htotal, ?_⟩
  split at hrestarted
  · exact freshRewardRate_le hrestarted
  · cases hrestarted
    exact hrate

omit [DecidableEq AccountId] in
/-- A share is at most what a stake of the least amount of TRB would get. -/
theorem accrual_le : st.accrual cfg now ≤
    (now - st.timeOfLastAllocation) * st.rewardRate * 10 ^ trbDecimals := by
  unfold accrual localStake localAmount
  split
  · next hfewer =>
    exact (Nat.div_le_self _ _).trans
      (Nat.mul_le_mul_left _ (Nat.pow_le_pow_right (by decide) hfewer.le))
  · next hmore =>
    have hunit : 10 ^ cfg.decimals = 10 ^ trbDecimals * 10 ^ (cfg.decimals - trbDecimals) := by
      rw [← Nat.pow_add, Nat.add_sub_cancel' (not_lt.mp hmore)]
    rw [hunit, ← Nat.mul_assoc, Nat.mul_div_mul_right _ _ (by positivity)]
    exact Nat.div_le_self _ _

end Staking

section Runs

variable {s s' : State AccountId} {staker : AccountId} {info info' : StakeInfo}
  {newStakedBalance : ℕ} {settled : Option ℕ}

theorem updateStakeAndPayRewards_amountsFit (hinv : s.staking.AmountsFit)
    (h : updateStakeAndPayRewards cfg s staker info newStakedBalance = .ok (info', s')) :
    s'.staking.AmountsFit := by
  simp only [updateStakeAndPayRewards, bind_eq_ok] at h
  obtain ⟨st, hrewards, u, -, ⟨ledger, st₁⟩, hpaid, ⟨restaked, st₂⟩, hrestake, h⟩ := h
  cases h
  have hrate : st₁.rewardRate ≤ u128Max := by
    have hst := (hinv.updateRewards hrewards).rewardRate_le
    split at hpaid
    · obtain ⟨stake, pending, hpaid⟩ := Staking.payPendingReward_paid hpaid
      rw [hpaid.state_eq]
      exact hst
    · cases hpaid
      exact hst
  exact Staking.restake_amountsFit hrate hrestake

theorem Reported.amountsFit {s₁ : State AccountId} {event : Event AccountId}
    (h : Reported cfg s staker settled info s₁ info' event s') (hinv : s.staking.AmountsFit) :
    s'.staking.AmountsFit := by
  have hend := h.invariant (fun after ↦ after.1.staking.AmountsFit) ?_ hinv
  · rw [h.state_eq]
    exact ⟨hend.totalStakeAmount_le, hend.rewardRate_le⟩
  · intro before after hbefore hmove
    cases hmove with
    | settle hsettled hupdate => exact updateStakeAndPayRewards_amountsFit hbefore hupdate
    | release hlocked htotal => exact ⟨hbefore.totalStakeAmount_le, hbefore.rewardRate_le⟩
    | lock amount => exact ⟨hbefore.totalStakeAmount_le, hbefore.rewardRate_le⟩
    | note startDate startVoteCount startVoteTally => exact hbefore

theorem StakingStep.amountsFit {input : Input AccountId} (h : StakingStep cfg s input s')
    (hinv : s.staking.AmountsFit) : s'.staking.AmountsFit := by
  cases h with
  | unchanged hstaking hbalance => rwa [hstaking]
  | rewarded hbalance hrewards hstaking hrate =>
    rw [hstaking]
    exact ⟨(hinv.updateRewards hrewards).totalStakeAmount_le, hrate⟩
  | submitted hstaker hledger hstaking =>
    rw [hstaking]
    exact ⟨hinv.totalStakeAmount_le, hinv.rewardRate_le⟩
  | reported haccepted hcall h => exact h.amountsFit hinv
  | withdrawn h =>
    rw [h.state_eq]
    exact ⟨hinv.totalStakeAmount_le, hinv.rewardRate_le⟩

theorem Reachable.amountsFit (h : Reachable cfg s) : s.staking.AmountsFit := by
  apply h.invariant fun s ↦ s.staking.AmountsFit
  · rintro s₀ ⟨ledger, blockNumber, now, -, rfl⟩
    exact ⟨Nat.zero_le _, Nat.zero_le _⟩
  · exact fun _ _ _ hinv heffect ↦ heffect.stakingStep.amountsFit hinv

/-- With balances of type `u128` and times of type `u64` the accumulator never overflows. -/
theorem Reachable.not_accumulatorOverflows (hmax : cfg.balanceMax = u128Max) (h : Reachable cfg s)
    (hnow : s.now ≤ u64Max) : ¬s.staking.AccumulatorOverflows cfg s.now := by
  intro hoverflows
  have hperShare := (h.debtsAccrued hmax).perShare_le
  have haccrual : s.staking.accrual cfg s.now ≤ u64Max * u128Max * 10 ^ trbDecimals := by
    refine Staking.accrual_le.trans (Nat.mul_le_mul_right _ ?_)
    exact Nat.mul_le_mul ((Nat.sub_le _ _).trans hnow) h.amountsFit.rewardRate_le
  have hbound : u128Max + u64Max * u128Max * 10 ^ trbDecimals ≤ u256Max := by decide
  exact absurd hoverflows.overflows (not_lt.mpr ((Nat.add_le_add hperShare haccrual).trans hbound))

end Runs

/-! ## Deposits -/

section Deposits

variable (cfg) (s : State AccountId) (reporter : AccountId) (amount : ℕ) (address : Address)

/-- A deposit is settled, or refused by an error that is no panic and changes nothing. A settled one
stakes its amount on top of the old stake, and takes it out of the locked balance as far as that goes. -/
def DepositTotal (send : Sender) : Prop :=
  (∃ s' info,
    dispatch cfg send s .staking (.reportStakeDeposited reporter amount address) = .ok s' ∧
    s'.staking.stakerDetails.lookup reporter = some info ∧
    info.stakedBalance = (s.stakerRecord reporter).stakedBalance + amount ∧
    info.lockedBalance = (s.stakerRecord reporter).lockedBalance - amount) ∨
  ∃ e, dispatch cfg send s .staking (.reportStakeDeposited reporter amount address) = .error e ∧
    e ≠ .panic ∧
    applyCall cfg send s .staking (.reportStakeDeposited reporter amount address) = s

/-- A deposit passes the checks before the plain sums, and one of these exceeds 256 bits. -/
structure DepositOverflows : Prop where
  address_eq : ∀ info ∈ s.staking.stakerDetails.lookup reporter, address = info.address
  unlocked_le : min amount (s.stakerRecord reporter).lockedBalance ≤ s.staking.toWithdraw
  overflows : u256Max < (s.stakerRecord reporter).stakedBalance + amount ∨
    s.staking.AccumulatorOverflows cfg s.now

instance : Decidable (DepositOverflows cfg s reporter amount address) :=
  decidable_of_iff (_ ∧ _ ∧ _)
    ⟨fun ⟨checked, unlocked, sum⟩ ↦ ⟨checked, unlocked, sum⟩,
      fun ⟨checked, unlocked, sum⟩ ↦ ⟨checked, unlocked, sum⟩⟩

variable {cfg s reporter amount address} {s' : State AccountId}

/-- The amount to withdraw plays no part in a panic of an update. -/
theorem updateStakeAndPayRewards_release_panic_iff (htime : s.staking.timeOfLastAllocation ≤ s.now)
    (htotal : s.staking.totalStakeAmount ≤ u256Max) {released newStakedBalance : ℕ}
    {staker : StakeInfo} :
    updateStakeAndPayRewards cfg (s.release released) reporter staker newStakedBalance =
        .error .panic ↔
      s.staking.AccumulatorOverflows cfg s.now := by
  have hsame : (s.release released).staking.AccumulatorOverflows cfg s.now ↔
      s.staking.AccumulatorOverflows cfg s.now :=
    ⟨fun h ↦ ⟨h.accrues, h.stake_le, h.unit_le, h.scaled_le, h.overflows⟩,
      fun h ↦ ⟨h.accrues, h.stake_le, h.unit_le, h.scaled_le, h.overflows⟩⟩
  rw [updateStakeAndPayRewards_panic_iff, ← hsame]
  exact @Staking.updateRewards_panic_iff _ cfg (s.release released).staking s.now _ htime htotal

/-- A deposit panics exactly where one of its plain sums exceeds 256 bits. -/
theorem reportStakeDeposited_panic_iff (htime : s.staking.timeOfLastAllocation ≤ s.now)
    (htotal : s.staking.totalStakeAmount ≤ u256Max) :
    reportStakeDeposited cfg s reporter amount address = .error .panic ↔
      DepositOverflows cfg s reporter amount address := by
  have hcheck := @eq_address_iff address (s.staking.stakerDetails.lookup reporter)
  obtain ⟨address', hrecord⟩ := stakerRecord_getD s reporter address
  have hensure : Avoids (ensure (address = address') .invalidAddress) .panic :=
    avoids_guard.mpr fun _ ↦ nofun
  rw [hrecord] at hcheck
  simp only [reportStakeDeposited, hrecord]
  rw [hensure.bind_eq_error]
  simp only [guard_eq_ok, exists_const, hcheck, (avoids_useLockedBalance _ _ _ _).bind_eq_error,
    useLockedBalance_eq_ok_iff]
  constructor
  · rintro ⟨haddress, _, ⟨hunlocked, rfl⟩, h⟩
    refine ⟨haddress, hunlocked, ?_⟩
    rcases bind_eq_error.mp h with h | ⟨sum, -, h⟩
    · rw [okOr_eq_error, Checked.add_eq_none, StakeInfo.relocked_stakedBalance] at h
      exact Or.inl h.1
    · rw [bind_eq_error_of_avoids (by simp)] at h
      exact Or.inr ((updateStakeAndPayRewards_release_panic_iff htime htotal).mp h)
  · intro h
    refine ⟨h.address_eq, _, ⟨h.unlocked_le, rfl⟩, ?_⟩
    rw [StakeInfo.relocked_stakedBalance]
    by_cases hsum : u256Max < (s.stakerRecord reporter).stakedBalance + amount
    · exact bind_eq_error.mpr (Or.inl (okOr_eq_error.mpr ⟨Checked.add_eq_none.mpr hsum, rfl⟩))
    · rw [bind_of_ok (okOr_eq_ok.mpr (Checked.add_eq_some.mpr ⟨not_lt.mp hsum, rfl⟩)),
        bind_eq_error_of_avoids (by simp), updateStakeAndPayRewards_release_panic_iff htime htotal]
      exact h.overflows.resolve_left hsum

/-- What a settled deposit stored. -/
theorem reportStakeDeposited_stored
    (h : reportStakeDeposited cfg s reporter amount address = .ok s') :
    ∃ info, s'.staking.stakerDetails.lookup reporter = some info ∧
      info.stakedBalance = (s.stakerRecord reporter).stakedBalance + amount ∧
      info.lockedBalance = (s.stakerRecord reporter).lockedBalance - amount := by
  obtain ⟨address', hrecord⟩ := stakerRecord_getD s reporter address
  simp only [reportStakeDeposited, hrecord, bind_eq_ok, okOr_eq_ok, Checked.add_eq_some,
    useLockedBalance_eq_ok_iff] at h
  obtain ⟨_, -, _, ⟨-, rfl⟩, _, ⟨-, rfl⟩, ⟨info, settled⟩, hsettled, h⟩ := h
  cases h
  refine ⟨{ info with startDate := settled.now }, Finmap.lookup_insert _, ?_, ?_⟩
  · exact (updateStakeAndPayRewards_totalStakeAmount hsettled).1.trans (by simp)
  · exact (updateStakeAndPayRewards_locked hsettled).trans (by simp)

/-- A deposit goes wrong where it panics, and there only. -/
theorem depositTotal_iff_avoids (send : Sender) :
    DepositTotal cfg s reporter amount address send ↔
      Avoids (reportStakeDeposited cfg s reporter amount address) .panic := by
  have hdispatch : dispatch cfg send s .staking (.reportStakeDeposited reporter amount address) =
      reportStakeDeposited cfg s reporter amount address := rfl
  rw [DepositTotal, applyCall, hdispatch]
  cases hresult : reportStakeDeposited cfg s reporter amount address with
  | ok s' =>
    obtain ⟨info, hstored⟩ := reportStakeDeposited_stored hresult
    exact ⟨fun _ ↦ avoids_ok, fun _ ↦ Or.inl ⟨s', info, rfl, hstored⟩⟩
  | error e =>
    constructor
    · rintro (⟨_, _, hok, -⟩ | ⟨_, herror, hne, -⟩)
      · cases hok
      · cases herror
        exact fun hpanic ↦ hne (Except.error.inj hpanic)
    · intro havoids
      exact Or.inr ⟨e, rfl, fun hpanic ↦ havoids (congrArg _ hpanic), rfl⟩

/-- In every reachable state a deposit is settled or refused, unless it passes the checks before the
plain sums and one of these exceeds 256 bits. -/
theorem depositTotal_iff (h : Reachable cfg s) (send : Sender) :
    DepositTotal cfg s reporter amount address send ↔
      ¬DepositOverflows cfg s reporter amount address := by
  have hpanic := @reportStakeDeposited_panic_iff _ _ cfg s reporter amount address h.time_le
    h.amountsFit.totalStakeAmount_le
  exact (depositTotal_iff_avoids send).trans (not_congr hpanic)

/-- With balances of type `u128` and times of type `u64` it is the new stake that exceeds them. -/
theorem DepositOverflows.sum_gt (h : DepositOverflows cfg s reporter amount address)
    (hmax : cfg.balanceMax = u128Max) (hreachable : Reachable cfg s) (hnow : s.now ≤ u64Max) :
    u256Max < (s.stakerRecord reporter).stakedBalance + amount :=
  h.overflows.resolve_right (hreachable.not_accumulatorOverflows hmax hnow)

end Deposits

namespace Mock

/-- A staker deposits, and requests the withdrawal of a part of it. -/
def partlyLocked : List (Input ℕ) :=
  [deposit 7, .extrinsic send .staking (.reportStakingWithdrawRequest 7 (30 * 10 ^ 18) 9), block 10]

end Mock

/-- A second deposit of 100 TRB takes all of the 30 TRB that are locked. -/
theorem depositTotal_partlyLocked :
    DepositTotal Mock.config (run (step Mock.config) Mock.partlyLocked Mock.genesis) 7
      (100 * 10 ^ 18) 9 Mock.send :=
  (depositTotal_iff (Mock.reachableBy_run _ (by decide +kernel)) Mock.send).mpr (by decide +kernel)

/-- The largest amount on top of a stake panics. -/
theorem not_depositTotal_u256Max : ∃ s, Reachable Mock.config s ∧
    ¬DepositTotal Mock.config s 7 u256Max 9 Mock.send := by
  have hreachable : Reachable Mock.config
      (run (step Mock.config) [Mock.deposit 7] Mock.genesis) :=
    Mock.reachableBy_run _ (by decide +kernel)
  have hpanic := (reportStakeDeposited_panic_iff hreachable.time_le
    hreachable.amountsFit.totalStakeAmount_le).mpr
      (by decide +kernel : DepositOverflows Mock.config _ 7 u256Max 9)
  exact ⟨_, hreachable, fun htotal ↦ (depositTotal_iff_avoids Mock.send).mp htotal hpanic⟩

end TellorPallet
