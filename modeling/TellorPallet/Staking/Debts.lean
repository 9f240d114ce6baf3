import TellorPallet.Staking.Solvency

/-!
# Reward debts

A reward debt is what a stake had accrued when it was last settled. The accumulator never decreases,
so that a debt stays within what its stake has accrued since, and the total debt within what the
total stake has. What the pallet computes as accrued less a debt is therefore never negative.
-/

namespace TellorPallet

open Outcome Transition

variable {AccountId : Type} [DecidableEq AccountId] {cfg : Config AccountId}

/-- No reward debt exceeds what its staker has accrued. -/
structure Staking.DebtsAccrued (cfg : Config AccountId) (st : Staking AccountId) : Prop where
  debt_le : ∀ staker info, st.stakerDetails.lookup staker = some info →
    info.rewardDebt ≤ accruedAt cfg st.accumulatedRewardPerShare info.stakedBalance
  perShare_le : st.accumulatedRewardPerShare ≤ u128Max

/-- The subtractions of reward debts that are made from `st` on: of the total debt when the
accumulator is updated or a rate is set, of a staker's debt when it is paid and leaves the totals,
and of the total debt once a staker is back with a new balance. -/
structure Staking.SubtractsDebts (cfg : Config AccountId) (st : Staking AccountId) : Prop where
  total : ∀ share stake u, convert cfg st.totalStakeAmount = .ok stake → unit cfg = .ok u →
    accruedReward (st.accumulatedRewardPerShare + share) stake u st.totalRewardDebt ≠
      .error underflow
  pending : ∀ staker info stake u, st.stakerDetails.lookup staker = some info →
    convert cfg info.stakedBalance = .ok stake → unit cfg = .ok u →
    accruedReward st.accumulatedRewardPerShare stake u info.rewardDebt ≠ .error underflow
  removed : ∀ staker info, st.stakerDetails.lookup staker = some info →
    info.rewardDebt ≤ st.totalRewardDebt
  restaked : ∀ staker newStakedBalance newStake stake u,
    let info := (st.stakerDetails.lookup staker).getD (StakeInfo.new 0)
    convert cfg newStakedBalance = .ok newStake →
    convert cfg (st.totalStakeAmount - info.stakedBalance + newStakedBalance) = .ok stake →
    unit cfg = .ok u →
    accruedReward st.accumulatedRewardPerShare stake u (st.totalRewardDebt - info.rewardDebt +
      u256ToBalance cfg (newStake * st.accumulatedRewardPerShare / u)) ≠ .error underflow

/-! ## Debts against accrued rewards -/

section Accrued

variable {st : Staking AccountId} {m : FiniteMap AccountId StakeInfo} {perShare stake u : ℕ}

omit [DecidableEq AccountId] in
theorem accruedReward_ne_underflow {debt : ℕ} (h : debt ≤ perShare * stake / u) :
    accruedReward perShare stake u debt ≠ .error underflow := by
  intro herror
  unfold accruedReward Checked.mul Checked.div at herror
  split at herror
  · split at herror
    · cases herror
    · change okOr (Checked.sub (perShare * stake / u) debt) underflow = .error underflow at herror
      rw [Checked.sub, if_pos h] at herror
      cases herror
  · cases herror

/-- Debts within what each staker has accrued add up to no more than what the total stake has. -/
theorem total_debt_le
    (hdebts : ∀ staker info, m.lookup staker = some info →
      info.rewardDebt ≤ accruedAt cfg perShare info.stakedBalance) :
    (FiniteMap.total m fun _ info ↦ info.rewardDebt) ≤
      perShare * localAmount cfg.decimals (FiniteMap.total m fun _ info ↦ info.stakedBalance) /
        10 ^ cfg.decimals := by
  calc (FiniteMap.total m fun _ info ↦ info.rewardDebt)
      ≤ FiniteMap.total m fun _ info ↦ accruedAt cfg perShare info.stakedBalance :=
        FiniteMap.total_mono hdebts
    _ ≤ localAmount cfg.decimals (FiniteMap.total m fun _ info ↦ info.stakedBalance) * perShare /
          10 ^ cfg.decimals := total_accruedAt_le_localAmount m perShare
    _ = perShare * localAmount cfg.decimals (FiniteMap.total m fun _ info ↦ info.stakedBalance) /
          10 ^ cfg.decimals := by rw [Nat.mul_comm]

end Accrued

namespace Staking

variable {st st' : Staking AccountId} {now rewardsBalance : ℕ}

/-- A new record for a staker takes the place of what the old one, if any, contributes to a sum. -/
theorem sum_insert (st : Staking AccountId) (staker : AccountId) (new : StakeInfo)
    (quantity : StakeInfo → ℕ) (hblank : quantity (StakeInfo.new 0) = 0) :
    (FiniteMap.total (st.stakerDetails.insert staker new) fun _ info ↦ quantity info) =
      st.sum quantity - quantity ((st.stakerDetails.lookup staker).getD (StakeInfo.new 0)) +
        quantity new := by
  have hinsert := FiniteMap.total_insert st.stakerDetails staker new fun _ info ↦ quantity info
  unfold Staking.sum
  cases hlookup : st.stakerDetails.lookup staker with
  | none =>
    rw [hlookup, Option.elim_none] at hinsert
    rw [Option.getD_none, hblank]
    exact hinsert
  | some old =>
    rw [hlookup, Option.elim_some] at hinsert
    have hle := FiniteMap.le_total hlookup fun _ info ↦ quantity info
    rw [Option.getD_some]
    omega

/-- What a staker weighs in a sum, if it has a record, is at most the sum. -/
theorem le_sum_getD (st : Staking AccountId) (staker : AccountId) (quantity : StakeInfo → ℕ)
    (hblank : quantity (StakeInfo.new 0) = 0) :
    quantity ((st.stakerDetails.lookup staker).getD (StakeInfo.new 0)) ≤ st.sum quantity := by
  cases hlookup : st.stakerDetails.lookup staker with
  | none =>
    rw [Option.getD_none, hblank]
    exact Nat.zero_le _
  | some info => exact FiniteMap.le_total hlookup fun _ info ↦ quantity info

/-- The total debt is within what the total stake has accrued. -/
theorem DebtsAccrued.totalRewardDebt_le (h : st.DebtsAccrued cfg) (htotals : st.Totals) :
    st.totalRewardDebt ≤ st.accumulatedRewardPerShare *
      localAmount cfg.decimals st.totalStakeAmount / 10 ^ cfg.decimals := by
  rw [htotals.totalRewardDebt_eq, htotals.totalStakeAmount_eq]
  exact total_debt_le h.debt_le

theorem DebtsAccrued.getD_le (h : st.DebtsAccrued cfg) (staker : AccountId) :
    let info := (st.stakerDetails.lookup staker).getD (StakeInfo.new 0)
    info.rewardDebt ≤ accruedAt cfg st.accumulatedRewardPerShare info.stakedBalance := by
  cases hlookup : st.stakerDetails.lookup staker with
  | none => exact Nat.zero_le _
  | some info => exact h.debt_le staker info hlookup

/-- So is the total debt with a new balance and debt in place of a staker's old ones. -/
theorem DebtsAccrued.restaked_le (h : st.DebtsAccrued cfg) (htotals : st.Totals) (staker : AccountId)
    {newStakedBalance newDebt : ℕ}
    (hnewDebt : newDebt ≤ accruedAt cfg st.accumulatedRewardPerShare newStakedBalance) :
    let info := (st.stakerDetails.lookup staker).getD (StakeInfo.new 0)
    st.totalRewardDebt - info.rewardDebt + newDebt ≤ st.accumulatedRewardPerShare *
      localAmount cfg.decimals (st.totalStakeAmount - info.stakedBalance + newStakedBalance) /
        10 ^ cfg.decimals := by
  intro info
  let new : StakeInfo := { info with stakedBalance := newStakedBalance, rewardDebt := newDebt }
  have hamount := st.sum_insert staker new StakeInfo.stakedBalance rfl
  have hdebt := st.sum_insert staker new StakeInfo.rewardDebt rfl
  rw [← htotals.totalStakeAmount_eq] at hamount
  rw [← htotals.totalRewardDebt_eq] at hdebt
  have hnewDebts : ∀ other otherInfo,
      (st.stakerDetails.insert staker new).lookup other = some otherInfo →
        otherInfo.rewardDebt ≤
          accruedAt cfg st.accumulatedRewardPerShare otherInfo.stakedBalance := by
    intro other otherInfo hother
    rw [FiniteMap.lookup_insert_ite] at hother
    split at hother
    · cases hother
      exact hnewDebt
    · exact h.debt_le other otherInfo hother
  have hle := total_debt_le hnewDebts
  rwa [hdebt, hamount] at hle

/-- With the totals right and every debt within what has accrued, no subtraction of a debt
underflows. -/
theorem DebtsAccrued.subtractsDebts (h : st.DebtsAccrued cfg) (htotals : st.Totals) :
    st.SubtractsDebts cfg := by
  refine ⟨?_, ?_, ?_, ?_⟩
  · intro share stake u hstake hunit
    rw [convert_eq_ok hstake, unit_eq_ok hunit]
    apply accruedReward_ne_underflow
    calc st.totalRewardDebt
        ≤ st.accumulatedRewardPerShare * localAmount cfg.decimals st.totalStakeAmount /
            10 ^ cfg.decimals := h.totalRewardDebt_le htotals
      _ ≤ (st.accumulatedRewardPerShare + share) *
            localAmount cfg.decimals st.totalStakeAmount / 10 ^ cfg.decimals :=
        Nat.div_le_div_right (Nat.mul_le_mul_right _ (Nat.le_add_right _ _))
  · intro staker info stake u hinfo hstake hunit
    apply accruedReward_ne_underflow
    have hdebt := h.debt_le staker info hinfo
    rwa [accruedAt_eq _ hstake hunit, Nat.mul_comm] at hdebt
  · intro staker info hinfo
    rw [htotals.totalRewardDebt_eq]
    exact FiniteMap.le_total hinfo fun _ info ↦ info.rewardDebt
  · intro staker newStakedBalance newStake stake u info hnewStake hstake hunit
    have hnewDebt : u256ToBalance cfg (newStake * st.accumulatedRewardPerShare / u) ≤
        accruedAt cfg st.accumulatedRewardPerShare newStakedBalance := by
      rw [accruedAt_eq _ hnewStake hunit]
      exact u256ToBalance_le cfg _
    have hle := h.restaked_le htotals staker hnewDebt
    rw [convert_eq_ok hstake, unit_eq_ok hunit]
    rw [unit_eq_ok hunit] at hle
    exact accruedReward_ne_underflow hle

/-- An update of the accumulator keeps every debt within what has accrued. -/
theorem DebtsAccrued.updateRewards (h : st.DebtsAccrued cfg) (hmax : cfg.balanceMax = u128Max)
    (hrewards : st.updateRewards cfg now rewardsBalance = .ok st') : st'.DebtsAccrued cfg := by
  obtain ⟨hmono, hbound⟩ := updateRewards_mono hmax h.perShare_le hrewards
  have hframe := updateRewards_frame hrewards
  refine ⟨?_, hbound⟩
  intro staker info hinfo
  rw [hframe] at hinfo
  exact (h.debt_le staker info hinfo).trans (accruedAt_mono hmono)

theorem Totals.updateRewards (h : st.Totals)
    (hrewards : st.updateRewards cfg now rewardsBalance = .ok st') : st'.Totals := by
  rw [updateRewards_frame hrewards]
  exact ⟨h.totalStakeAmount_eq, h.totalRewardDebt_eq, h.totalStakers_eq, h.rewardDebt_eq_zero⟩

end Staking

/-! ## One report -/

section Reports

variable {s s' : State AccountId} {staker : AccountId} {info info' : StakeInfo} {settled : Option ℕ}

/-- A record whose debt is within what its stake has accrued may be stored. -/
theorem Staking.DebtsAccrued.putStaker (h : s.staking.DebtsAccrued cfg)
    (hdebt : info.rewardDebt ≤
      accruedAt cfg s.staking.accumulatedRewardPerShare info.stakedBalance) :
    (s.putStaker staker info).staking.DebtsAccrued cfg := by
  refine ⟨?_, h.perShare_le⟩
  intro other otherInfo hother
  rw [State.putStaker, FiniteMap.lookup_insert_ite] at hother
  split at hother
  · cases hother
    exact hdebt
  · exact h.debt_le other otherInfo hother

/-- What every move of a report preserves: the debts are within what has accrued, and the accumulator
is at least `perShare`. -/
structure DebtInvariant (cfg : Config AccountId) (staker : AccountId) (perShare : ℕ)
    (before : State AccountId × StakeInfo) : Prop where
  totals : (before.1.putStaker staker before.2).staking.Totals
  debts : (before.1.putStaker staker before.2).staking.DebtsAccrued cfg
  perShare_le : perShare ≤ before.1.staking.accumulatedRewardPerShare

theorem RewardsSettled.debtsAccrued {newStakedBalance : ℕ} {st : Staking AccountId}
    (h : RewardsSettled cfg s info newStakedBalance s' info' st)
    (hdetails : s'.staking.stakerDetails = s.staking.stakerDetails)
    (hmax : cfg.balanceMax = u128Max) (hdebts : (s.putStaker staker info).staking.DebtsAccrued cfg) :
    (s'.putStaker staker info').staking.DebtsAccrued cfg ∧
      s.staking.accumulatedRewardPerShare ≤ s'.staking.accumulatedRewardPerShare := by
  have hperShare : s.staking.accumulatedRewardPerShare ≤ u128Max := hdebts.perShare_le
  obtain ⟨hmono, hbound⟩ := Staking.updateRewards_mono hmax hperShare h.rewards_eq
  rw [← h.perShare_eq] at hmono hbound
  refine ⟨⟨?_, hbound⟩, hmono⟩
  intro other otherInfo hother
  change otherInfo.rewardDebt ≤ accruedAt cfg s'.staking.accumulatedRewardPerShare _
  rw [State.putStaker, hdetails, FiniteMap.lookup_insert_ite] at hother
  split at hother
  · cases hother
    rw [h.rewardDebt_eq, h.stakedBalance_eq, h.perShare_eq]
    exact min_le_left _ _
  · next hne =>
    have hbefore : (s.putStaker staker info).staking.stakerDetails.lookup other = some otherInfo := by
      rw [State.putStaker, FiniteMap.lookup_insert_ite, if_neg hne]
      exact hother
    exact (hdebts.debt_le other otherInfo hbefore).trans (accruedAt_mono hmono)

theorem RecordStep.debtInvariant {perShare : ℕ} {before after : State AccountId × StakeInfo}
    (h : RecordStep cfg staker settled before after) (hmax : cfg.balanceMax = u128Max)
    (hinv : DebtInvariant cfg staker perShare before) : DebtInvariant cfg staker perShare after := by
  have htotals := h.totals hinv.totals
  have hlookup : (before.1.putStaker staker before.2).staking.stakerDetails.lookup staker =
      some before.2 := Finmap.lookup_insert _
  have hnoted : ∀ info : StakeInfo, info.stakedBalance = before.2.stakedBalance →
      info.rewardDebt = before.2.rewardDebt →
      (before.1.putStaker staker info).staking.DebtsAccrued cfg := by
    intro info hstake hdebt
    have hput : ((before.1.putStaker staker before.2).putStaker staker info).staking.DebtsAccrued
        cfg := by
      apply hinv.debts.putStaker
      rw [hdebt, hstake]
      exact hinv.debts.debt_le staker before.2 hlookup
    simpa only [State.putStaker, Finmap.insert_insert] using hput
  have hperShare := hinv.perShare_le
  cases h with
  | @settle s _ info _ newStakedBalance hsettled h =>
    have hzero := hinv.totals.rewardDebt_eq_zero _ _ hlookup
    have hflag : info.staked.toNat ≤ s.staking.totalStakers := by
      have hle := le_sum_putStaker s staker info fun info ↦ info.staked.toNat
      rw [← count_eq_sum, ← hinv.totals.totalStakers_eq] at hle
      exact hle
    obtain ⟨st, hrewards⟩ := rewardsSettled_of_update hzero h
    have hdetails := (stakeSettled_of_update hzero hflag h).details_eq
    obtain ⟨hdebts, hmono⟩ := hrewards.debtsAccrued hdetails hmax hinv.debts
    exact ⟨htotals, hdebts, hperShare.trans hmono⟩
  | @release s info amount hlocked htotal =>
    have hput := hnoted { info with lockedBalance := info.lockedBalance - amount } rfl rfl
    exact ⟨htotals, ⟨hput.debt_le, hput.perShare_le⟩, hperShare⟩
  | @lock s info amount =>
    have hput := hnoted { info with lockedBalance := info.lockedBalance + amount } rfl rfl
    exact ⟨htotals, ⟨hput.debt_le, hput.perShare_le⟩, hperShare⟩
  | note startDate startVoteCount startVoteTally =>
    exact ⟨htotals, hnoted _ rfl rfl, hperShare⟩

theorem Reported.debtsAccrued {s₁ : State AccountId} {event : Event AccountId}
    (h : Reported cfg s staker settled info s₁ info' event s') (hmax : cfg.balanceMax = u128Max)
    (htotals : s.staking.Totals) (hdebts : s.staking.DebtsAccrued cfg) :
    s'.staking.DebtsAccrued cfg ∧
      s.staking.accumulatedRewardPerShare ≤ s'.staking.accumulatedRewardPerShare := by
  have hstart : DebtInvariant cfg staker s.staking.accumulatedRewardPerShare (s, info) := by
    refine ⟨h.totals_putStaker htotals, ?_, le_rfl⟩
    apply hdebts.putStaker
    rcases h.record_eq with hrecord | ⟨hnone, address, rfl⟩
    · exact hdebts.debt_le staker info hrecord
    · exact Nat.zero_le _
  have hend := h.invariant (DebtInvariant cfg staker s.staking.accumulatedRewardPerShare)
    (fun _ _ hbefore hmove ↦ hmove.debtInvariant hmax hbefore) hstart
  rw [h.state_eq]
  exact ⟨⟨hend.debts.debt_le, hend.debts.perShare_le⟩, hend.perShare_le⟩

end Reports

/-! ## Runs -/

/-- Every input keeps the debts within what has accrued, and never decreases the accumulator. -/
theorem StakingStep.debtsAccrued {s s' : State AccountId} {input : Input AccountId}
    (h : StakingStep cfg s input s') (hmax : cfg.balanceMax = u128Max) (htotals : s.staking.Totals)
    (hdebts : s.staking.DebtsAccrued cfg) :
    s'.staking.DebtsAccrued cfg ∧
      s.staking.accumulatedRewardPerShare ≤ s'.staking.accumulatedRewardPerShare := by
  cases h with
  | unchanged hstaking hbalance =>
    rw [hstaking]
    exact ⟨hdebts, le_rfl⟩
  | rewarded hbalance hrewards hstaking =>
    have hupdated := hdebts.updateRewards hmax hrewards
    have hmono := (Staking.updateRewards_mono hmax hdebts.perShare_le hrewards).1
    rw [hstaking]
    exact ⟨⟨hupdated.debt_le, hupdated.perShare_le⟩, hmono⟩
  | @submitted _ _ reporter queryId staker hstaker hledger hstaking =>
    have hput : (s.putStaker reporter (staker.reported s.now)).staking.DebtsAccrued cfg :=
      hdebts.putStaker (hdebts.debt_le reporter staker hstaker)
    rw [hstaking]
    exact ⟨⟨hput.debt_le, hput.perShare_le⟩, le_rfl⟩
  | reported haccepted hcall h => exact h.debtsAccrued hmax htotals hdebts
  | @withdrawn _ reporter amount info _ h =>
    have hput : (s.putStaker reporter
        { info with lockedBalance := info.lockedBalance - amount }).staking.DebtsAccrued cfg :=
      hdebts.putStaker (hdebts.debt_le reporter info h.record_eq)
    rw [h.state_eq]
    exact ⟨⟨hput.debt_le, hput.perShare_le⟩, le_rfl⟩

theorem Reachable.debtsAccrued {s : State AccountId} (hmax : cfg.balanceMax = u128Max)
    (h : Reachable cfg s) : s.staking.DebtsAccrued cfg := by
  have hinv : s.staking.Totals ∧ s.staking.DebtsAccrued cfg := by
    apply h.invariant fun s ↦ s.staking.Totals ∧ s.staking.DebtsAccrued cfg
    · intro s₀ hgenesis
      refine ⟨totals_genesis hgenesis, ?_⟩
      obtain ⟨ledger, blockNumber, now, -, rfl⟩ := hgenesis
      refine ⟨?_, Nat.zero_le _⟩
      simp [State.genesis]
    · intro s₀ input s₁ hinv heffect
      have hstep := heffect.stakingStep
      exact ⟨hstep.totals hinv.1, (hstep.debtsAccrued hmax hinv.1 hinv.2).1⟩
  exact hinv.2

/-- From a reachable state on, the accumulated reward per share never decreases. -/
theorem accumulatedRewardPerShare_mono {s s' : State AccountId} (hmax : cfg.balanceMax = u128Max)
    (h : Reachable cfg s) (hrun : Reaches (step cfg) (Admissible cfg) s s') :
    s.staking.accumulatedRewardPerShare ≤ s'.staking.accumulatedRewardPerShare := by
  apply @Reaches.related _ _ _ _ (fun s ↦ s.staking.Totals ∧ s.staking.DebtsAccrued cfg)
    (fun s s' ↦ s.staking.accumulatedRewardPerShare ≤ s'.staking.accumulatedRewardPerShare)
    (fun _ ↦ le_rfl) (fun _ _ _ ↦ le_trans) _ _ _ _ hrun ⟨h.totals, h.debtsAccrued hmax⟩
  · intro s₀ input hinv hadmitted
    have hstep := (step_effect hadmitted).stakingStep
    exact ⟨hstep.totals hinv.1, (hstep.debtsAccrued hmax hinv.1 hinv.2).1⟩
  · intro s₀ input hinv hadmitted
    exact ((step_effect hadmitted).stakingStep.debtsAccrued hmax hinv.1 hinv.2).2

/-- In every run the accumulated reward per share never decreases, every reward debt is at most what
its staker's stake has accrued and the total debt at most what the total stake has, so that neither
as things are nor after an update at any time and balance does a subtraction of a debt underflow. -/
theorem rewardDebts_le_accrued (hmax : cfg.balanceMax = u128Max) {s : State AccountId}
    (h : Reachable cfg s) :
    (∀ s', Reaches (step cfg) (Admissible cfg) s s' →
      s.staking.accumulatedRewardPerShare ≤ s'.staking.accumulatedRewardPerShare) ∧
    (∀ staker info, s.staking.stakerDetails.lookup staker = some info →
      info.rewardDebt ≤ localAmount cfg.decimals info.stakedBalance *
        s.staking.accumulatedRewardPerShare / 10 ^ cfg.decimals) ∧
    s.staking.totalRewardDebt ≤ s.staking.accumulatedRewardPerShare *
      localAmount cfg.decimals s.staking.totalStakeAmount / 10 ^ cfg.decimals ∧
    s.staking.SubtractsDebts cfg ∧
    ∀ now rewardsBalance st, s.staking.updateRewards cfg now rewardsBalance = .ok st →
      st.SubtractsDebts cfg := by
  have htotals := h.totals
  have hdebts := h.debtsAccrued hmax
  refine ⟨?_, ?_, ?_, hdebts.subtractsDebts htotals, ?_⟩
  · intro s' hrun
    exact accumulatedRewardPerShare_mono hmax h hrun
  · intro staker info hinfo
    exact (hdebts.debt_le staker info hinfo).trans accruedAt_le
  · exact hdebts.totalRewardDebt_le htotals
  · intro now rewardsBalance st hrewards
    exact (hdebts.updateRewards hmax hrewards).subtractsDebts (htotals.updateRewards hrewards)

/-- After a staker joined a pool that pays rewards, with a debt. -/
theorem rewardDebts_le_accrued_joining :
    let s := run (step Mock.config) (Mock.joining (10 ^ 18)) Mock.genesis
    s.staking.totalRewardDebt ≤ s.staking.accumulatedRewardPerShare *
      localAmount Mock.config.decimals s.staking.totalStakeAmount / 10 ^ Mock.config.decimals :=
  (rewardDebts_le_accrued rfl
    (Mock.reachableBy_run (Mock.joining (10 ^ 18)) (by decide +kernel))).2.2.1

end TellorPallet
