import TellorPallet.Staking.Debts

/-!
# An update of the accumulator in closed form

What `update_rewards` does to the accumulator, as a formula in the state before it, the time and the
balance of the staking rewards account: nothing when nothing accrues, the share of the rate while the
rewards last, and the share of what is left of the balance when they run out.
-/

namespace TellorPallet

open Outcome

variable {AccountId : Type} {cfg : Config AccountId}

namespace Staking

variable (cfg) (st : Staking AccountId) (now rewardsBalance : ℕ)

/-- The total stake in the decimals of the local asset. -/
def localStake : ℕ := localAmount cfg.decimals st.totalStakeAmount

/-- What the rate adds to the accumulator by now. -/
def accrual : ℕ :=
  (now - st.timeOfLastAllocation) * st.rewardRate * 10 ^ cfg.decimals / st.localStake cfg

/-- What the stakers are owed together at an accumulated reward per share. -/
def owedAt (perShare : ℕ) : ℕ :=
  perShare * st.localStake cfg / 10 ^ cfg.decimals - st.totalRewardDebt

/-- Nothing accrues: no time has passed, there is no stake, or the rate is zero. -/
def Idle : Prop := st.timeOfLastAllocation = now ∨ st.localStake cfg = 0 ∨ st.rewardRate = 0

/-- The rewards due by now use up the balance. -/
def Exhausted : Prop :=
  ¬st.Idle cfg now ∧
    rewardsBalance ≤ st.owedAt cfg (st.accumulatedRewardPerShare + st.accrual cfg now)

instance : Decidable (st.Idle cfg now) :=
  inferInstanceAs (Decidable (_ ∨ _ ∨ _))

instance : Decidable (st.Exhausted cfg now rewardsBalance) :=
  inferInstanceAs (Decidable (¬st.Idle cfg now ∧ _))

/-- The share in what is left of the balance when the rewards run out. -/
def remainingShare : ℕ :=
  (rewardsBalance - st.owedAt cfg st.accumulatedRewardPerShare) * 10 ^ cfg.decimals /
    st.localStake cfg

/-- The accumulator brought up to now. -/
def perShareAt : ℕ :=
  if st.Idle cfg now then st.accumulatedRewardPerShare
  else if rewardsBalance ≤ st.owedAt cfg (st.accumulatedRewardPerShare + st.accrual cfg now) then
    st.accumulatedRewardPerShare + u256ToBalance cfg (st.remainingShare cfg rewardsBalance)
  else u256ToBalance cfg (st.accumulatedRewardPerShare + st.accrual cfg now)

/-- The rate after an update. -/
def rateAt : ℕ := if st.Exhausted cfg now rewardsBalance then 0 else st.rewardRate

variable {cfg st now rewardsBalance} {st' : Staking AccountId}

theorem accruedReward_owedAt {perShare reward : ℕ}
    (h : accruedReward perShare (st.localStake cfg) (10 ^ cfg.decimals) st.totalRewardDebt =
      .ok reward) : reward = st.owedAt cfg perShare :=
  (accruedReward_eq_ok.mp h).2.2.2.symm

/-- What an update does: it brings the accumulator up to now and takes the rate to zero when the
rewards run out, which takes a balance that covers what was owed before. -/
structure BroughtUp (cfg : Config AccountId) (st : Staking AccountId) (now rewardsBalance : ℕ)
    (st' : Staking AccountId) : Prop where
  perShare_eq : st'.accumulatedRewardPerShare = st.perShareAt cfg now rewardsBalance
  rate_eq : st'.rewardRate = st.rateAt cfg now rewardsBalance
  covered : st.Exhausted cfg now rewardsBalance →
    st.owedAt cfg st.accumulatedRewardPerShare ≤ rewardsBalance

theorem Idle.broughtUp (h : st.Idle cfg now)
    (hperShare : st'.accumulatedRewardPerShare = st.accumulatedRewardPerShare)
    (hrate : st'.rewardRate = st.rewardRate) : st.BroughtUp cfg now rewardsBalance st' := by
  have hlasts : ¬st.Exhausted cfg now rewardsBalance := fun hexhausted ↦ hexhausted.1 h
  refine ⟨?_, ?_, fun hexhausted ↦ absurd hexhausted hlasts⟩
  · rw [perShareAt, if_pos h, hperShare]
  · rw [rateAt, if_neg hlasts, hrate]

theorem updateRewards_broughtUp (h : st.updateRewards cfg now rewardsBalance = .ok st') :
    st.BroughtUp cfg now rewardsBalance st' := by
  unfold updateRewards at h
  split at h
  · next hnow =>
    cases h
    exact Idle.broughtUp (Or.inl hnow) rfl rfl
  · next hnow =>
    obtain ⟨stake, hstake, h⟩ := bind_eq_ok.mp h
    rw [show stake = st.localStake cfg from convert_eq_ok hstake] at h
    split at h
    · next hnone =>
      cases h
      exact Idle.broughtUp (Or.inr hnone) rfl rfl
    · next hsome =>
      have haccrues : ¬st.Idle cfg now := not_or.mpr ⟨hnow, hsome⟩
      simp only [bind_eq_ok, okOr_eq_ok, Checked.add_eq_some, Checked.mul_eq_some,
        Checked.sub_eq_some] at h
      obtain ⟨u, hunit, _, ⟨-, rfl⟩, _, ⟨-, rfl⟩, _, ⟨-, rfl⟩, _, ⟨-, rfl⟩, due, hdue, h⟩ := h
      rw [unit_eq_ok hunit] at h hdue
      rw [accruedReward_owedAt hdue] at h
      split at h
      · next hexhausted =>
        change rewardsBalance ≤ st.owedAt cfg (_ + st.accrual cfg now) at hexhausted
        simp only [bind_eq_ok, okOr_eq_ok, Checked.add_eq_some, Checked.mul_eq_some,
          Checked.sub_eq_some] at h
        obtain ⟨owed, howed, _, ⟨hcovered, rfl⟩, _, ⟨-, rfl⟩, _, ⟨-, rfl⟩, h⟩ := h
        cases h
        rw [accruedReward_owedAt howed] at hcovered ⊢
        refine ⟨?_, ?_, fun _ ↦ hcovered⟩
        · rw [perShareAt, if_neg haccrues, if_pos hexhausted]
          rfl
        · rw [rateAt, if_pos ⟨haccrues, hexhausted⟩]
      · next hlasts =>
        change ¬rewardsBalance ≤ st.owedAt cfg (_ + st.accrual cfg now) at hlasts
        cases h
        have hrate : ¬st.Exhausted cfg now rewardsBalance := fun hexhausted ↦ hlasts hexhausted.2
        refine ⟨?_, ?_, fun hexhausted ↦ absurd hexhausted hrate⟩
        · rw [perShareAt, if_neg haccrues, if_neg hlasts]
          rfl
        · rw [rateAt, if_neg hrate]

end Staking

end TellorPallet
