import TellorPallet.Staking.Accrual

/-!
# When a stake can be settled

`update_stake_and_pay_rewards` with products that fit: it succeeds exactly when the balance of the
staking rewards account covers what was owed before the rewards ran out, the payment leaves the
minimum balance in it, and what is left covers what is owed then where the rate has to restart.
-/

namespace TellorPallet

open Outcome

variable {AccountId : Type} [DecidableEq AccountId]

/-! ## Closed forms -/

/-- The part of a reward that participation in votes entitles to. -/
def Governance.participation (g : Governance AccountId) (staker : AccountId) (info : StakeInfo)
    (reward : ℕ) : ℕ :=
  if 0 < g.voteCount - info.startVoteCount then
    min (reward * (g.voteTally staker - info.startVoteTally) / (g.voteCount - info.startVoteCount))
      reward
  else reward

/-- The staking items with the accumulator brought up to now. -/
def Staking.broughtUpTo (cfg : Config AccountId) (now rewardsBalance : ℕ) (st : Staking AccountId) :
    Staking AccountId :=
  { st with
    accumulatedRewardPerShare := st.perShareAt cfg now rewardsBalance
    rewardRate := st.rateAt cfg now rewardsBalance
    timeOfLastAllocation := now }

/-- The record of a staker, blank when there is none. -/
def State.stakerRecord (s : State AccountId) (staker : AccountId) : StakeInfo :=
  (s.staking.stakerDetails.lookup staker).getD (StakeInfo.new 0)

section Formulas

variable (cfg : Config AccountId) (s : State AccountId) (staker : AccountId) (info : StakeInfo)
  (newStakedBalance : ℕ)

/-- The accumulated reward per share brought up to the time of the state. -/
def perShareDue : ℕ := s.staking.perShareAt cfg s.now (s.ledger cfg.stakingRewards)

/-- What a staked balance has accrued by then. -/
def accruedDue (stakedBalance : ℕ) : ℕ :=
  perShareDue cfg s * localAmount cfg.decimals stakedBalance / 10 ^ cfg.decimals

/-- What a staker is to be paid. -/
def pendingReward : ℕ :=
  s.governance.participation staker info
    (u256ToBalance cfg (accruedDue cfg s info.stakedBalance - info.rewardDebt))

/-- The balance of the staking rewards account once the staker is paid. -/
def balanceLeft : ℕ :=
  if staker = cfg.stakingRewards then s.ledger cfg.stakingRewards
  else s.ledger cfg.stakingRewards - pendingReward cfg s staker info

/-- What the stakers are owed together once the staker has its new balance. -/
def owedLeft : ℕ :=
  accruedDue cfg s (s.staking.totalStakeAmount - info.stakedBalance + newStakedBalance) -
    (s.staking.totalRewardDebt - info.rewardDebt + u256ToBalance cfg (accruedDue cfg s newStakedBalance))

/-- The staking rewards account covers a settlement: what was owed before the rewards ran out, the
payment on top of the minimum balance, and what is owed afterwards when the rate restarts. -/
structure RewardsCover : Prop where
  shared : s.staking.Exhausted cfg s.now (s.ledger cfg.stakingRewards) →
    s.staking.owedAt cfg s.staking.accumulatedRewardPerShare ≤ s.ledger cfg.stakingRewards
  paid : pendingReward cfg s staker info + cfg.minimumBalance ≤ s.ledger cfg.stakingRewards
  restarted : s.staking.rateAt cfg s.now (s.ledger cfg.stakingRewards) = 0 →
    owedLeft cfg s info newStakedBalance ≤ balanceLeft cfg s staker info

/-- No product or sum of the reward formulas exceeds its type. -/
structure ProductsFit : Prop where
  unit_le : 10 ^ cfg.decimals ≤ u128Max
  stake_le : s.staking.totalStakeAmount + newStakedBalance ≤ u256Max
  localStake_le : localAmount cfg.decimals (s.staking.totalStakeAmount + newStakedBalance) ≤ u256Max
  released_le : (s.now - s.staking.timeOfLastAllocation) * s.staking.rewardRate *
    10 ^ cfg.decimals ≤ u256Max
  due_le : (s.staking.accumulatedRewardPerShare + s.staking.accrual cfg s.now) *
    s.staking.localStake cfg ≤ u256Max
  balance_le : s.ledger cfg.stakingRewards * 10 ^ cfg.decimals ≤ u256Max
  perShare_le : perShareDue cfg s ≤ u128Max
  accrued_le : perShareDue cfg s *
    localAmount cfg.decimals (s.staking.totalStakeAmount + newStakedBalance) ≤ u256Max
  debt_le : accruedDue cfg s (s.staking.totalStakeAmount + newStakedBalance) ≤ u128Max
  votes_le : accruedDue cfg s info.stakedBalance * s.governance.voteTally staker ≤ u128Max
  issuance_le : s.ledger staker + s.ledger cfg.stakingRewards ≤ cfg.balanceMax

instance : Decidable (RewardsCover cfg s staker info newStakedBalance) :=
  decidable_of_iff (_ ∧ _ ∧ _)
    ⟨fun ⟨shared, paid, restarted⟩ ↦ ⟨shared, paid, restarted⟩,
      fun ⟨shared, paid, restarted⟩ ↦ ⟨shared, paid, restarted⟩⟩

instance : Decidable (ProductsFit cfg s staker info newStakedBalance) :=
  decidable_of_iff (_ ∧ _ ∧ _ ∧ _ ∧ _ ∧ _ ∧ _ ∧ _ ∧ _ ∧ _ ∧ _)
    ⟨fun ⟨h₁, h₂, h₃, h₄, h₅, h₆, h₇, h₈, h₉, h₁₀, h₁₁⟩ ↦ ⟨h₁, h₂, h₃, h₄, h₅, h₆, h₇, h₈, h₉, h₁₀, h₁₁⟩,
      fun ⟨h₁, h₂, h₃, h₄, h₅, h₆, h₇, h₈, h₉, h₁₀, h₁₁⟩ ↦ ⟨h₁, h₂, h₃, h₄, h₅, h₆, h₇, h₈, h₉, h₁₀, h₁₁⟩⟩

end Formulas

/-- The asset as the pallet relies on it: balances are of type `u128`, and a protected transfer fails
exactly when it would leave its source below the minimum balance. -/
structure PlainAsset (cfg : Config AccountId) : Prop where
  balanceMax_eq : cfg.balanceMax = u128Max
  protects : ∀ ledger source dest amount, cfg.minimumBalance ≤ ledger source →
    (cfg.permits ledger source dest amount .protect = true ↔
      cfg.minimumBalance + amount ≤ ledger source)

/-- What runs establish of a state and of the record of a staker whose stake is to be settled. -/
structure Settleable (cfg : Config AccountId) (s : State AccountId) (staker : AccountId)
    (info : StakeInfo) : Prop where
  totals : s.staking.Totals
  debts : s.staking.DebtsAccrued cfg
  time_le : s.staking.timeOfLastAllocation ≤ s.now
  minimum_le : cfg.minimumBalance ≤ s.ledger cfg.stakingRewards
  stakedBalance_eq : info.stakedBalance = (s.stakerRecord staker).stakedBalance
  rewardDebt_eq : info.rewardDebt = (s.stakerRecord staker).rewardDebt
  voteCount_le : info.startVoteCount ≤ s.governance.voteCount
  voteTally_le : info.startVoteTally ≤ s.governance.voteTally staker

/-! ## Formulas that fit -/

namespace Staking

variable {cfg : Config AccountId} {st : Staking AccountId} {now rewardsBalance : ℕ}

omit [DecidableEq AccountId] in
theorem broughtUpTo_idle (h : st.Idle cfg now) :
    st.broughtUpTo cfg now rewardsBalance = { st with timeOfLastAllocation := now } := by
  have hlasts : ¬st.Exhausted cfg now rewardsBalance := fun hexhausted ↦ hexhausted.1 h
  rw [broughtUpTo, perShareAt, if_pos h, rateAt, if_neg hlasts]

omit [DecidableEq AccountId] in
/-- An update of the accumulator succeeds where what was owed before the rewards ran out is covered. -/
theorem updateRewards_ok (htime : st.timeOfLastAllocation ≤ now)
    (hunit : 10 ^ cfg.decimals ≤ u128Max) (hstake : st.localStake cfg ≤ u256Max)
    (hdebt : st.totalRewardDebt ≤
      st.accumulatedRewardPerShare * st.localStake cfg / 10 ^ cfg.decimals)
    (hreleased : (now - st.timeOfLastAllocation) * st.rewardRate * 10 ^ cfg.decimals ≤ u256Max)
    (hdue : (st.accumulatedRewardPerShare + st.accrual cfg now) * st.localStake cfg ≤ u256Max)
    (hbalance : rewardsBalance * 10 ^ cfg.decimals ≤ u256Max)
    (hperShare : st.perShareAt cfg now rewardsBalance ≤ cfg.balanceMax)
    (hshared : st.Exhausted cfg now rewardsBalance →
      st.owedAt cfg st.accumulatedRewardPerShare ≤ rewardsBalance) :
    st.updateRewards cfg now rewardsBalance = .ok (st.broughtUpTo cfg now rewardsBalance) := by
  have hu : 0 < 10 ^ cfg.decimals := by positivity
  unfold updateRewards
  by_cases hnow : st.timeOfLastAllocation = now
  · rw [if_pos hnow, broughtUpTo_idle (Or.inl hnow), ← hnow]
  · rw [if_neg hnow, bind_eq_ok]
    have hconvert : convert cfg st.totalStakeAmount = .ok (st.localStake cfg) := convert_ok hstake
    refine ⟨_, hconvert, ?_⟩
    by_cases hnone : st.localStake cfg = 0 ∨ st.rewardRate = 0
    · rw [broughtUpTo_idle (Or.inr hnone)]
      exact if_pos hnone
    · have haccrues : ¬st.Idle cfg now := not_or.mpr ⟨hnow, hnone⟩
      have hstakePos : 0 < st.localStake cfg := Nat.pos_of_ne_zero (not_or.mp hnone).1
      have hrate : (now - st.timeOfLastAllocation) * st.rewardRate ≤ u256Max :=
        (Nat.le_mul_of_pos_right _ hu).trans hreleased
      have hnewPerShare : st.accumulatedRewardPerShare + st.accrual cfg now ≤ u256Max :=
        (Nat.le_mul_of_pos_right _ hstakePos).trans hdue
      have hproduct : st.accumulatedRewardPerShare * st.localStake cfg ≤
          (st.accumulatedRewardPerShare + st.accrual cfg now) * st.localStake cfg :=
        Nat.mul_le_mul_right _ (Nat.le_add_right _ _)
      rw [if_neg hnone]
      simp only [bind_eq_ok, okOr_eq_ok, Checked.add_eq_some, Checked.mul_eq_some,
        Checked.sub_eq_some]
      refine ⟨_, unit_ok hunit, _, ⟨htime, rfl⟩, _, ⟨hrate, rfl⟩, _, ⟨hreleased, rfl⟩, _,
        ⟨hnewPerShare, rfl⟩, _, accruedReward_eq_ok.mpr ⟨hdue, hu.ne',
          hdebt.trans (Nat.div_le_div_right hproduct), rfl⟩, ?_⟩
      by_cases hexhausted : rewardsBalance ≤
          st.owedAt cfg (st.accumulatedRewardPerShare + st.accrual cfg now)
      · have hout : st.Exhausted cfg now rewardsBalance := ⟨haccrues, hexhausted⟩
        have hcovered := hshared hout
        have hremaining : (rewardsBalance - st.owedAt cfg st.accumulatedRewardPerShare) *
            10 ^ cfg.decimals ≤ u256Max :=
          (Nat.mul_le_mul_right _ (Nat.sub_le _ _)).trans hbalance
        rw [perShareAt, if_neg haccrues, if_pos hexhausted] at hperShare
        refine (if_pos hexhausted).trans ?_
        simp only [bind_eq_ok, okOr_eq_ok, Checked.add_eq_some, Checked.mul_eq_some,
          Checked.sub_eq_some]
        refine ⟨_, accruedReward_eq_ok.mpr ⟨hproduct.trans hdue, hu.ne', hdebt, rfl⟩, _,
          ⟨hcovered, rfl⟩, _, ⟨hremaining, rfl⟩, _, ⟨hperShare, rfl⟩, ?_⟩
        rw [broughtUpTo, perShareAt, if_neg haccrues, if_pos hexhausted, rateAt, if_pos hout]
        rfl
      · have hlasts : ¬st.Exhausted cfg now rewardsBalance := fun hout ↦ hexhausted hout.2
        refine (if_neg hexhausted).trans ?_
        rw [broughtUpTo, perShareAt, if_neg haccrues, if_neg hexhausted, rateAt, if_neg hlasts]
        rfl

theorem participationShare_ok {g : Governance AccountId} {staker : AccountId} {info : StakeInfo}
    {reward : ℕ} (hcount : info.startVoteCount ≤ g.voteCount)
    (htally : info.startVoteTally ≤ g.voteTally staker)
    (hproduct : reward * g.voteTally staker ≤ cfg.balanceMax) :
    participationShare cfg g staker info reward = .ok (g.participation staker info reward) := by
  have hvoted : reward * (g.voteTally staker - info.startVoteTally) ≤ cfg.balanceMax :=
    (Nat.mul_le_mul_left _ (Nat.sub_le _ _)).trans hproduct
  rw [participationShare, bind_eq_ok, Governance.participation]
  refine ⟨_, okOr_eq_ok.mpr (Checked.sub_eq_some.mpr ⟨hcount, rfl⟩), ?_⟩
  split
  · next hvotes =>
    simp only [bind_eq_ok, okOr_eq_ok, Checked.mul_eq_some, Checked.div_eq_some,
      Checked.sub_eq_some]
    refine ⟨_, ⟨htally, rfl⟩, _, ⟨hvoted, rfl⟩, _, ⟨hvotes.ne', rfl⟩, ?_⟩
    rw [min_def]
    split <;> split <;> first | rfl | (congr 1; omega)
  · rfl

/-- The pending reward of a staker is paid where the payment leaves the minimum balance. -/
theorem payPendingReward_eq_ok_iff {g : Governance AccountId} {staker : AccountId}
    {info : StakeInfo} {ledger : Ledger AccountId} {r : Ledger AccountId × Staking AccountId}
    {reward : ℕ} (hplain : PlainAsset cfg)
    (hstake : localAmount cfg.decimals info.stakedBalance ≤ u256Max)
    (hproduct : st.accumulatedRewardPerShare * localAmount cfg.decimals info.stakedBalance ≤ u256Max)
    (hdebt : info.rewardDebt ≤ st.accumulatedRewardPerShare *
      localAmount cfg.decimals info.stakedBalance / 10 ^ cfg.decimals)
    (hreward : participationShare cfg g staker info (u256ToBalance cfg
      (st.accumulatedRewardPerShare * localAmount cfg.decimals info.stakedBalance /
        10 ^ cfg.decimals - info.rewardDebt)) = .ok reward)
    (hminimum : cfg.minimumBalance ≤ ledger cfg.stakingRewards)
    (hissuance : ledger staker + ledger cfg.stakingRewards ≤ cfg.balanceMax)
    (hremoved : info.rewardDebt ≤ st.totalRewardDebt)
    (htotal : info.stakedBalance ≤ st.totalStakeAmount) :
    payPendingReward cfg g staker info (10 ^ cfg.decimals) ledger st = .ok r ↔
      reward + cfg.minimumBalance ≤ ledger cfg.stakingRewards ∧
        (ledger.move cfg.stakingRewards staker reward, { st with
          totalRewardDebt := st.totalRewardDebt - info.rewardDebt
          totalStakeAmount := st.totalStakeAmount - info.stakedBalance }) = r := by
  have hpermits := hplain.protects ledger cfg.stakingRewards staker reward hminimum
  have haccrued := accruedReward_eq_ok.mpr
    ⟨hproduct, (show 0 < 10 ^ cfg.decimals by positivity).ne', hdebt, rfl⟩
  simp only [payPendingReward, bind_eq_ok, okOr_eq_ok, Checked.sub_eq_some, transfer_eq_ok, hpermits,
    convert_ok hstake, haccrued, hreward, Except.ok.injEq, exists_eq_left']
  constructor
  · rintro ⟨_, ⟨⟨-, -, hleft⟩, rfl⟩, _, ⟨-, rfl⟩, _, ⟨-, rfl⟩, hr⟩
    exact ⟨by omega, hr⟩
  · rintro ⟨hleft, hr⟩
    exact ⟨_, ⟨⟨by omega, Or.inr (by omega), by omega⟩, rfl⟩, _, ⟨hremoved, rfl⟩, _, ⟨htotal, rfl⟩, hr⟩

omit [DecidableEq AccountId] in
/-- A rate is found where the balance covers what is owed. -/
theorem freshRewardRate_ok_iff {perShare stake debt : ℕ} (hproduct : perShare * stake ≤ u256Max)
    (hdebt : debt ≤ perShare * stake / 10 ^ cfg.decimals) :
    (∃ rate, freshRewardRate cfg rewardsBalance perShare stake (10 ^ cfg.decimals) debt = .ok rate) ↔
      perShare * stake / 10 ^ cfg.decimals - debt ≤ rewardsBalance := by
  have hu : 10 ^ cfg.decimals ≠ 0 := (show 0 < 10 ^ cfg.decimals by positivity).ne'
  have howed := accruedReward_eq_ok.mpr ⟨hproduct, hu, hdebt, rfl⟩
  simp only [freshRewardRate, howed, bind_eq_ok, okOr_eq_ok, Checked.sub_eq_some, Except.ok.injEq,
    exists_eq_left']
  constructor
  · rintro ⟨_, _, ⟨hcovered, -⟩, -⟩
    exact hcovered
  · intro hcovered
    exact ⟨_, _, ⟨hcovered, rfl⟩, rfl⟩

omit [DecidableEq AccountId] in
/-- A staker re-enters the totals where, when the rate has to restart, the balance covers what is owed
with it. -/
theorem restake_ok_iff {stakeAmount newStakedBalance newDebt newTotal : ℕ} {info : StakeInfo}
    (hnewDebt : newDebt = u256ToBalance cfg (st.accumulatedRewardPerShare *
      localAmount cfg.decimals newStakedBalance / 10 ^ cfg.decimals))
    (hnewTotal : newTotal = localAmount cfg.decimals (st.totalStakeAmount + newStakedBalance))
    (hstake : localAmount cfg.decimals newStakedBalance ≤ u256Max)
    (hproduct : st.accumulatedRewardPerShare * localAmount cfg.decimals newStakedBalance ≤ u256Max)
    (hdebt : st.totalRewardDebt + newDebt ≤ cfg.balanceMax)
    (htotal : st.totalStakeAmount + newStakedBalance ≤ u256Max)
    (hlocal : newTotal ≤ u256Max)
    (haccrued : st.accumulatedRewardPerShare * newTotal ≤ u256Max)
    (howed : st.totalRewardDebt + newDebt ≤
      st.accumulatedRewardPerShare * newTotal / 10 ^ cfg.decimals) :
    (∃ r, restake cfg stakeAmount newStakedBalance rewardsBalance (10 ^ cfg.decimals) info st = .ok r) ↔
      (st.rewardRate = 0 → st.accumulatedRewardPerShare * newTotal / 10 ^ cfg.decimals -
        (st.totalRewardDebt + newDebt) ≤ rewardsBalance) := by
  have hu : 10 ^ cfg.decimals ≠ 0 := (show 0 < 10 ^ cfg.decimals by positivity).ne'
  have hfresh := @freshRewardRate_ok_iff _ cfg rewardsBalance _ _ _ haccrued howed
  rw [hnewTotal] at hlocal
  rw [Nat.mul_comm] at hproduct hnewDebt
  constructor
  · rintro ⟨r, h⟩ hzero
    simp only [restake, bind_eq_ok, okOr_eq_ok, Checked.mul_eq_some, Checked.div_eq_some,
      Checked.add_eq_some] at h
    obtain ⟨_, hconvert, _, ⟨-, rfl⟩, _, ⟨-, rfl⟩, _, ⟨-, rfl⟩, _, ⟨-, rfl⟩, _, hlocalConvert, rate,
      hrate, -⟩ := h
    rw [convert_ok hstake] at hconvert
    rw [convert_ok hlocal] at hlocalConvert
    cases hconvert
    cases hlocalConvert
    rw [if_pos hzero, ← hnewDebt, ← hnewTotal] at hrate
    exact hfresh.mp ⟨rate, hrate⟩
  · intro hcovered
    have hrate : ∃ rate, (if st.rewardRate = 0 then
        freshRewardRate cfg rewardsBalance st.accumulatedRewardPerShare newTotal (10 ^ cfg.decimals)
          (st.totalRewardDebt + newDebt) else .ok st.rewardRate) = .ok rate := by
      split
      · next hzero => exact hfresh.mpr (hcovered hzero)
      · exact ⟨_, rfl⟩
    obtain ⟨rate, hrate⟩ := hrate
    rw [hnewTotal, hnewDebt] at hrate
    rw [hnewDebt] at hdebt
    simp only [restake, bind_eq_ok, okOr_eq_ok, Checked.mul_eq_some, Checked.div_eq_some,
      Checked.add_eq_some]
    exact ⟨_, _, convert_ok hstake, _, ⟨hproduct, rfl⟩, _, ⟨hu, rfl⟩, _, ⟨hdebt, rfl⟩, _, ⟨htotal, rfl⟩, _,
      convert_ok hlocal, rate, hrate, rfl⟩

end Staking

/-! ## Settling a stake -/

section Settling

variable {cfg : Config AccountId} {s : State AccountId} {staker : AccountId} {info : StakeInfo}
  {newStakedBalance : ℕ}

theorem Governance.participation_zero (g : Governance AccountId) (staker : AccountId)
    (info : StakeInfo) : g.participation staker info 0 = 0 := by
  unfold Governance.participation
  split
  · exact Nat.min_zero _
  · rfl

omit [DecidableEq AccountId] in
theorem accruedDue_zero : accruedDue cfg s 0 = 0 := by
  have hlocal : localAmount cfg.decimals 0 = 0 := by
    unfold localAmount
    split <;> simp
  rw [accruedDue, hlocal, Nat.mul_zero, Nat.zero_div]

/-- Without a staked balance there is nothing to pay. -/
theorem pendingReward_eq_zero (h : info.stakedBalance = 0) : pendingReward cfg s staker info = 0 := by
  rw [pendingReward, h, accruedDue_zero, Nat.zero_sub, u256ToBalance_eq, Nat.zero_min,
    Governance.participation_zero]

/-- The balance of the staking rewards account after the payment. -/
theorem move_pendingReward (h : pendingReward cfg s staker info ≤ s.ledger cfg.stakingRewards) :
    s.ledger.move cfg.stakingRewards staker (pendingReward cfg s staker info) cfg.stakingRewards =
      balanceLeft cfg s staker info := by
  unfold balanceLeft
  split
  · next hself => rw [hself, s.ledger.move_self _ (hself ▸ h)]
  · next hother => rw [s.ledger.move_source _ (Ne.symm hother)]

/-- The update of the accumulator that a settlement starts with. -/
theorem Settleable.updateRewards_ok (h : Settleable cfg s staker info) (hplain : PlainAsset cfg)
    (hfits : ProductsFit cfg s staker info newStakedBalance)
    (hshared : s.staking.Exhausted cfg s.now (s.ledger cfg.stakingRewards) →
      s.staking.owedAt cfg s.staking.accumulatedRewardPerShare ≤ s.ledger cfg.stakingRewards) :
    s.staking.updateRewards cfg s.now (s.ledger cfg.stakingRewards) =
      .ok (s.staking.broughtUpTo cfg s.now (s.ledger cfg.stakingRewards)) := by
  apply Staking.updateRewards_ok h.time_le hfits.unit_le _ (h.debts.totalRewardDebt_le h.totals)
    hfits.released_le hfits.due_le hfits.balance_le _ hshared
  · exact (localAmount_mono _ (Nat.le_add_right _ _)).trans hfits.localStake_le
  · rw [hplain.balanceMax_eq]
    exact hfits.perShare_le

/-- Amounts up to the total stake and the new balance convert, and their products with the
accumulator fit. -/
theorem ProductsFit.local_le (h : ProductsFit cfg s staker info newStakedBalance) {amount : ℕ}
    (hamount : amount ≤ s.staking.totalStakeAmount + newStakedBalance) :
    localAmount cfg.decimals amount ≤ u256Max ∧
      perShareDue cfg s * localAmount cfg.decimals amount ≤ u256Max := by
  have hmono := localAmount_mono cfg.decimals hamount
  exact ⟨hmono.trans h.localStake_le, (Nat.mul_le_mul_left _ hmono).trans h.accrued_le⟩

theorem Settleable.staked_le (h : Settleable cfg s staker info) :
    info.stakedBalance ≤ s.staking.totalStakeAmount := by
  rw [h.stakedBalance_eq, h.totals.totalStakeAmount_eq]
  exact s.staking.le_sum_getD staker StakeInfo.stakedBalance rfl

theorem Settleable.debt_le (h : Settleable cfg s staker info) :
    info.rewardDebt ≤ s.staking.totalRewardDebt := by
  rw [h.rewardDebt_eq, h.totals.totalRewardDebt_eq]
  exact s.staking.le_sum_getD staker StakeInfo.rewardDebt rfl

section Updated

variable (hplain : PlainAsset cfg) (h : Settleable cfg s staker info)
  (hfits : ProductsFit cfg s staker info newStakedBalance)
  (hupdate : s.staking.updateRewards cfg s.now (s.ledger cfg.stakingRewards) =
    .ok (s.staking.broughtUpTo cfg s.now (s.ledger cfg.stakingRewards)))

include hplain h hupdate

/-- The staker's debt is within what its balance has accrued by now. -/
theorem Settleable.debt_le_accrued : info.rewardDebt ≤ accruedDue cfg s info.stakedBalance := by
  have hdebts := h.debts.updateRewards hplain.balanceMax_eq hupdate
  rw [h.rewardDebt_eq, h.stakedBalance_eq, accruedDue, Nat.mul_comm]
  exact (hdebts.getD_le staker).trans accruedAt_le

include hfits

/-- The total debt with the staker's new debt is within what the new total stake has accrued. -/
theorem Settleable.restaked_le :
    s.staking.totalRewardDebt - info.rewardDebt +
        u256ToBalance cfg (accruedDue cfg s newStakedBalance) ≤
      accruedDue cfg s (s.staking.totalStakeAmount - info.stakedBalance + newStakedBalance) := by
  have hdebts := h.debts.updateRewards hplain.balanceMax_eq hupdate
  have htotals := h.totals.updateRewards hupdate
  have hconvert := convert_ok (hfits.local_le (Nat.le_add_left newStakedBalance _)).1
  have hnewDebt : u256ToBalance cfg (accruedDue cfg s newStakedBalance) ≤
      accruedAt cfg (perShareDue cfg s) newStakedBalance := by
    rw [accruedAt_eq _ hconvert (unit_ok hfits.unit_le), accruedDue, Nat.mul_comm]
    exact u256ToBalance_le cfg _
  rw [h.rewardDebt_eq, h.stakedBalance_eq]
  exact hdebts.restaked_le htotals staker hnewDebt

/-- Paying a staker with a balance, or skipping one without. -/
theorem payment_eq_ok_iff {r : Ledger AccountId × Staking AccountId} :
    (if 0 < info.stakedBalance then
        Staking.payPendingReward cfg s.governance staker info (10 ^ cfg.decimals) s.ledger
          (s.staking.broughtUpTo cfg s.now (s.ledger cfg.stakingRewards))
      else .ok (s.ledger, s.staking.broughtUpTo cfg s.now (s.ledger cfg.stakingRewards))) = .ok r ↔
      pendingReward cfg s staker info + cfg.minimumBalance ≤ s.ledger cfg.stakingRewards ∧
        (s.ledger.move cfg.stakingRewards staker (pendingReward cfg s staker info),
          { s.staking.broughtUpTo cfg s.now (s.ledger cfg.stakingRewards) with
            totalRewardDebt := s.staking.totalRewardDebt - info.rewardDebt
            totalStakeAmount := s.staking.totalStakeAmount - info.stakedBalance }) = r := by
  split
  · have hlocal := hfits.local_le (h.staked_le.trans (Nat.le_add_right _ _))
    have hvotes : u256ToBalance cfg (accruedDue cfg s info.stakedBalance - info.rewardDebt) *
        s.governance.voteTally staker ≤ cfg.balanceMax := by
      rw [hplain.balanceMax_eq]
      refine (Nat.mul_le_mul_right _ ?_).trans hfits.votes_le
      exact (u256ToBalance_le cfg _).trans (Nat.sub_le _ _)
    exact Staking.payPendingReward_eq_ok_iff hplain hlocal.1 hlocal.2
      (h.debt_le_accrued hplain hupdate)
      (Staking.participationShare_ok h.voteCount_le h.voteTally_le hvotes) h.minimum_le
      hfits.issuance_le h.debt_le h.staked_le
  · next hnone =>
    have hzero : info.stakedBalance = 0 := Nat.eq_zero_of_not_pos hnone
    have hdebt : info.rewardDebt = 0 := by
      have hle := h.debt_le_accrued hplain hupdate
      rwa [hzero, accruedDue_zero, Nat.le_zero] at hle
    rw [pendingReward_eq_zero hzero, Ledger.move_zero, hdebt, hzero, Nat.zero_add, Except.ok.injEq]
    exact ⟨fun hr ↦ ⟨h.minimum_le, hr⟩, fun hr ↦ hr.2⟩

/-- The staker re-enters the totals where, when the rate restarts, what is left covers what is owed. -/
theorem restake_iff (stakeAmount : ℕ) (balance : ℕ) :
    (∃ r, Staking.restake cfg stakeAmount newStakedBalance balance (10 ^ cfg.decimals) info
      { s.staking.broughtUpTo cfg s.now (s.ledger cfg.stakingRewards) with
        totalRewardDebt := s.staking.totalRewardDebt - info.rewardDebt
        totalStakeAmount := s.staking.totalStakeAmount - info.stakedBalance } = .ok r) ↔
      (s.staking.rateAt cfg s.now (s.ledger cfg.stakingRewards) = 0 →
        owedLeft cfg s info newStakedBalance ≤ balance) := by
  have htotal : s.staking.totalStakeAmount - info.stakedBalance + newStakedBalance ≤
      s.staking.totalStakeAmount + newStakedBalance :=
    Nat.add_le_add_right (Nat.sub_le _ _) _
  have hnew := hfits.local_le (Nat.le_add_left newStakedBalance _)
  have hlocal := hfits.local_le htotal
  have howed := h.restaked_le hplain hfits hupdate
  have hdebt : accruedDue cfg s
      (s.staking.totalStakeAmount - info.stakedBalance + newStakedBalance) ≤ cfg.balanceMax := by
    rw [hplain.balanceMax_eq]
    refine le_trans (Nat.div_le_div_right (Nat.mul_le_mul_left _ ?_)) hfits.debt_le
    exact localAmount_mono _ htotal
  exact Staking.restake_ok_iff rfl rfl hnew.1 hnew.2 (howed.trans hdebt)
    (htotal.trans hfits.stake_le) hlocal.1 hlocal.2 howed

end Updated

/-- A stake is settled exactly where the staking rewards account covers it. -/
theorem updateStakeAndPayRewards_ok_iff (hplain : PlainAsset cfg) (h : Settleable cfg s staker info)
    (hfits : ProductsFit cfg s staker info newStakedBalance) :
    (∃ r, updateStakeAndPayRewards cfg s staker info newStakedBalance = .ok r) ↔
      RewardsCover cfg s staker info newStakedBalance := by
  by_cases hshared : s.staking.Exhausted cfg s.now (s.ledger cfg.stakingRewards) →
      s.staking.owedAt cfg s.staking.accumulatedRewardPerShare ≤ s.ledger cfg.stakingRewards
  · have hupdate := h.updateRewards_ok hplain hfits hshared
    have hpayment := fun r ↦ @payment_eq_ok_iff _ _ _ _ _ _ _ hplain h hfits hupdate r
    have hrestake := restake_iff hplain h hfits hupdate s.prices.stakeAmount
      (s.ledger.move cfg.stakingRewards staker (pendingReward cfg s staker info) cfg.stakingRewards)
    simp only [updateStakeAndPayRewards, hupdate, unit_ok hfits.unit_le, bind_eq_ok, hpayment,
      Except.ok.injEq, exists_eq_left']
    constructor
    · rintro ⟨r, paid, ⟨hpaid, rfl⟩, restaked, hrestaked, -⟩
      have hrestarted := hrestake.mp ⟨restaked, hrestaked⟩
      rw [move_pendingReward ((Nat.le_add_right _ _).trans hpaid)] at hrestarted
      exact ⟨hshared, hpaid, hrestarted⟩
    · intro hcover
      rw [move_pendingReward ((Nat.le_add_right _ _).trans hcover.paid)] at hrestake
      obtain ⟨restaked, hrestaked⟩ := hrestake.mpr hcover.restarted
      rw [← move_pendingReward ((Nat.le_add_right _ _).trans hcover.paid)] at hrestaked
      exact ⟨_, _, ⟨hcover.paid, rfl⟩, restaked, hrestaked, rfl⟩
  · constructor
    · rintro ⟨r, hr⟩
      obtain ⟨st, hrewards, -⟩ := bind_eq_ok.mp hr
      exact absurd (Staking.updateRewards_broughtUp hrewards).covered hshared
    · intro hcover
      exact absurd hcover.shared hshared

end Settling

end TellorPallet
