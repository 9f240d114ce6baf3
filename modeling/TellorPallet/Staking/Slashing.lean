import TellorPallet.Staking.Withdrawals

/-!
# What a slash takes

A slash takes from the locked balance first and the remainder from the staked balance, no more than
there is of either. The three branches of `report_slash` do so in different orders; what they take
from the record and from the two totals is the same.
-/

namespace TellorPallet

open Outcome Transition

variable {AccountId : Type} [DecidableEq AccountId] {cfg : Config AccountId}
  {s s' : State AccountId} {reporter : AccountId} {info info' : StakeInfo} {amount : ℕ}

/-- What a slash takes from the locked balance. -/
def StakeInfo.slashedLocked (info : StakeInfo) (amount : ℕ) : ℕ := min info.lockedBalance amount

/-- What a slash takes from the staked balance. -/
def StakeInfo.slashedStaked (info : StakeInfo) (amount : ℕ) : ℕ :=
  min info.stakedBalance (amount - info.slashedLocked amount)

/-- A slash took its amounts from the record and from the totals. -/
structure SlashTaken (st : Staking AccountId) (info : StakeInfo) (amount : ℕ)
    (st' : Staking AccountId) (info' : StakeInfo) : Prop where
  lockedBalance_eq : info'.lockedBalance + info.slashedLocked amount = info.lockedBalance
  stakedBalance_eq : info'.stakedBalance + info.slashedStaked amount = info.stakedBalance
  toWithdraw_eq : st'.toWithdraw + info.slashedLocked amount = st.toWithdraw
  totalStakeAmount_eq : st'.totalStakeAmount + info.slashedStaked amount = st.totalStakeAmount

theorem slashBalances_taken (h : slashBalances cfg s reporter amount info = .ok (info', s')) :
    SlashTaken s.staking info amount s'.staking info' ∧
      s'.staking.stakerDetails = s.staking.stakerDetails := by
  unfold slashBalances at h
  split at h
  · next hcovered =>
    -- the locked balance covers the amount
    have hlocked : info.slashedLocked amount = amount := min_eq_right hcovered
    have hstaked : info.slashedStaked amount = 0 := by
      rw [StakeInfo.slashedStaked, hlocked, Nat.sub_self, Nat.min_zero]
    obtain ⟨htotal, hr⟩ := releaseLocked_pair_eq_ok.mp h
    obtain ⟨rfl, rfl⟩ := Prod.mk.inj hr
    refine ⟨⟨?_, ?_, ?_, ?_⟩, rfl⟩
    · rw [hlocked]
      exact Nat.sub_add_cancel hcovered
    · rw [hstaked]
      rfl
    · rw [hlocked]
      exact Nat.sub_add_cancel htotal
    · rw [hstaked]
      rfl
  · next hcovered =>
    have hlocked : info.slashedLocked amount = info.lockedBalance :=
      min_eq_left (not_le.mp hcovered).le
    have hstaked : info.slashedStaked amount =
        min info.stakedBalance (amount - info.lockedBalance) := by
      rw [StakeInfo.slashedStaked, hlocked]
    simp only [bind_eq_ok, okOr_eq_ok, Checked.add_eq_some] at h
    obtain ⟨_, ⟨-, rfl⟩, h⟩ := h
    split at h
    · next hsum =>
      -- the remainder is taken from the staked balance
      simp only [bind_eq_ok, okOr_eq_ok, Checked.sub_eq_some, releaseLocked_eq_ok] at h
      obtain ⟨_, ⟨-, rfl⟩, _, ⟨hremainder, rfl⟩, ⟨settled, s₁⟩, hsettle, _, ⟨htotal, rfl⟩, h⟩ := h
      cases h
      rw [min_eq_right hremainder] at hstaked
      obtain ⟨hbalance, -, hamount⟩ := updateStakeAndPayRewards_totalStakeAmount hsettle
      obtain ⟨hwithdraw, hdetails⟩ := updateStakeAndPayRewards_toWithdraw hsettle
      refine ⟨⟨?_, ?_, ?_, ?_⟩, hdetails⟩
      · rw [hlocked]
        exact Nat.zero_add _
      · rw [hstaked, hbalance]
        exact Nat.sub_add_cancel hremainder
      · rw [hlocked, ← hwithdraw]
        exact Nat.sub_add_cancel htotal
      · rw [hstaked]
        dsimp only
        omega
    · next hsum =>
      -- both balances are taken
      simp only [bind_eq_ok, releaseLocked_eq_ok] at h
      obtain ⟨_, ⟨htotal, rfl⟩, ⟨settled, s₁⟩, hsettle, h⟩ := h
      cases h
      rw [min_eq_left (by omega)] at hstaked
      obtain ⟨hbalance, -, hamount⟩ := updateStakeAndPayRewards_totalStakeAmount hsettle
      obtain ⟨hwithdraw, hdetails⟩ := updateStakeAndPayRewards_toWithdraw hsettle
      refine ⟨⟨?_, ?_, ?_, ?_⟩, hdetails⟩
      · rw [hlocked]
        exact Nat.zero_add _
      · rw [hstaked, hbalance]
        exact Nat.zero_add _
      · rw [hlocked, hwithdraw]
        exact Nat.sub_add_cancel htotal
      · rw [hstaked]
        exact hamount

/-- An accepted slash lowers the reporter's locked balance by what there is of the amount, its staked
balance by what there is of the remainder and the two totals by the same amounts, and touches no other
record. -/
theorem reportSlash_exact (h : reportSlash cfg s reporter amount = .ok s') :
    ∃ info info', s.staking.stakerDetails.lookup reporter = some info ∧
      s'.staking.stakerDetails.lookup reporter = some info' ∧
      info'.lockedBalance + min info.lockedBalance amount = info.lockedBalance ∧
      info'.stakedBalance + min info.stakedBalance (amount - min info.lockedBalance amount) =
        info.stakedBalance ∧
      s'.staking.toWithdraw + min info.lockedBalance amount = s.staking.toWithdraw ∧
      s'.staking.totalStakeAmount +
        min info.stakedBalance (amount - min info.lockedBalance amount) =
          s.staking.totalStakeAmount ∧
      ∀ other, other ≠ reporter →
        s'.staking.stakerDetails.lookup other = s.staking.stakerDetails.lookup other := by
  simp only [reportSlash, bind_eq_ok, okOr_eq_ok, guard_eq_ok, exists_const] at h
  obtain ⟨info, hinfo, _, -, -, ⟨slashed, s₁⟩, hslashed, h⟩ := h
  cases h
  obtain ⟨htaken, hdetails⟩ := slashBalances_taken hslashed
  have hstored : ((s₁.putStaker reporter slashed).depositEvent
      (.slashReported reporter amount)).staking.stakerDetails =
        s.staking.stakerDetails.insert reporter slashed := by
    rw [← hdetails]
    rfl
  refine ⟨info, slashed, hinfo, ?_, htaken.lockedBalance_eq, htaken.stakedBalance_eq,
    htaken.toWithdraw_eq, htaken.totalStakeAmount_eq, fun other hother ↦ ?_⟩
  · rw [hstored, Finmap.lookup_insert]
  · rw [hstored, Finmap.lookup_insert_of_ne _ hother]

/-- A staker with 60 staked and 40 locked tokens is slashed by 50. -/
theorem reportSlash_exact_request :
    let s := run (step Mock.config) [Mock.deposit 7, .extrinsic Mock.send .staking
      (.reportStakingWithdrawRequest 7 (40 * 10 ^ 18) 9)] Mock.genesis
    ∃ s', reportSlash Mock.config s 7 (50 * 10 ^ 18) = .ok s' ∧
      s'.staking.toWithdraw + 40 * 10 ^ 18 = s.staking.toWithdraw ∧
      s'.staking.totalStakeAmount + 10 * 10 ^ 18 = s.staking.totalStakeAmount := by
  intro s
  have haccepted : (reportSlash Mock.config s 7 (50 * 10 ^ 18)).isOk = true := by decide +kernel
  have hrecord : (s.staking.stakerDetails.lookup 7).map
      (fun info ↦ (info.stakedBalance, info.lockedBalance)) =
        some (60 * 10 ^ 18, 40 * 10 ^ 18) := by decide +kernel
  obtain ⟨s', hs'⟩ := exists_eq_ok haccepted
  obtain ⟨info, info', hinfo, -, -, -, hwithdraw, htotal, -⟩ := reportSlash_exact hs'
  rw [hinfo, Option.map_some, Option.some.injEq] at hrecord
  obtain ⟨hstaked, hlocked⟩ := Prod.mk.inj hrecord
  rw [hlocked] at hwithdraw
  rw [hstaked, hlocked] at htotal
  exact ⟨s', hs', hwithdraw, htotal⟩

end TellorPallet
