import TellorPallet.Runtime.Mock
import TellorPallet.Staking.Runs

/-!
# Totals over the stakers

The totals that the staking storage keeps agree with the stakers' records: along every run the total
stake, the total reward debt and the number of stakers are what summing over the records gives.
-/

namespace TellorPallet

open Outcome Transition

variable {AccountId : Type} [DecidableEq AccountId] {cfg : Config AccountId}

namespace Staking

/-- The sum of a quantity over all stakers. -/
def sum (st : Staking AccountId) (quantity : StakeInfo → ℕ) : ℕ :=
  FiniteMap.total st.stakerDetails fun _ info ↦ quantity info

/-- The totals agree with the stakers' records. -/
structure Totals (st : Staking AccountId) : Prop where
  totalStakeAmount_eq : st.totalStakeAmount = st.sum StakeInfo.stakedBalance
  totalRewardDebt_eq : st.totalRewardDebt = st.sum StakeInfo.rewardDebt
  totalStakers_eq : st.totalStakers = FiniteMap.count st.stakerDetails StakeInfo.staked
  rewardDebt_eq_zero : ∀ staker info, st.stakerDetails.lookup staker = some info →
    info.stakedBalance = 0 → info.rewardDebt = 0

end Staking

open Staking

section Put

variable {s : State AccountId} {staker : AccountId} {info info' : StakeInfo}

/-- Another record for the same staker changes a sum by the difference of the two. -/
theorem sum_putStaker_putStaker (s : State AccountId) (staker : AccountId) (info info' : StakeInfo)
    (quantity : StakeInfo → ℕ) :
    (s.putStaker staker info').staking.sum quantity + quantity info =
      (s.putStaker staker info).staking.sum quantity + quantity info' :=
  FiniteMap.total_insert_insert s.staking.stakerDetails staker info info' _

/-- A total that follows the change of one record stays the sum over all records. -/
theorem eq_sum_putStaker {quantity : StakeInfo → ℕ} {total total' : ℕ}
    (h : total = (s.putStaker staker info).staking.sum quantity)
    (hchange : total' + quantity info = total + quantity info') :
    total' = (s.putStaker staker info').staking.sum quantity := by
  have hsum := sum_putStaker_putStaker s staker info info' quantity
  omega

/-- Storing a record again, or the first record of a staker that weighs nothing, changes no sum. -/
theorem sum_putStaker_self (quantity : StakeInfo → ℕ)
    (h : s.staking.stakerDetails.lookup staker = some info ∨
      s.staking.stakerDetails.lookup staker = none ∧ quantity info = 0) :
    (s.putStaker staker info).staking.sum quantity = s.staking.sum quantity := by
  have htotal := FiniteMap.total_insert s.staking.stakerDetails staker info fun _ ↦ quantity
  rcases h with h | ⟨h, hzero⟩
  · rw [h, Option.elim_some] at htotal
    exact Nat.add_right_cancel htotal
  · rwa [h, Option.elim_none, hzero] at htotal

theorem le_sum_putStaker (s : State AccountId) (staker : AccountId) (info : StakeInfo)
    (quantity : StakeInfo → ℕ) :
    quantity info ≤ (s.putStaker staker info).staking.sum quantity :=
  FiniteMap.le_total (Finmap.lookup_insert _) fun _ ↦ quantity

theorem count_eq_sum (st : Staking AccountId) :
    FiniteMap.count st.stakerDetails StakeInfo.staked = st.sum fun info ↦ info.staked.toNat :=
  FiniteMap.count_eq_total _ _

/-- A record that agrees with the stored one on what the totals count keeps them right. -/
theorem Staking.Totals.putStaker (h : s.staking.Totals)
    (hrecord : s.staking.stakerDetails.lookup staker = some info)
    (hstake : info'.stakedBalance = info.stakedBalance) (hdebt : info'.rewardDebt = info.rewardDebt)
    (hstaked : info'.staked = info.staked) : (s.putStaker staker info').staking.Totals := by
  have hsum : ∀ quantity : StakeInfo → ℕ, quantity info' = quantity info →
      (s.putStaker staker info').staking.sum quantity = s.staking.sum quantity := by
    intro quantity hquantity
    have hput := sum_putStaker_putStaker s staker info info' quantity
    rw [sum_putStaker_self quantity (Or.inl hrecord), hquantity] at hput
    exact Nat.add_right_cancel hput
  refine ⟨?_, ?_, ?_, ?_⟩
  · rw [hsum _ hstake]
    exact h.totalStakeAmount_eq
  · rw [hsum _ hdebt]
    exact h.totalRewardDebt_eq
  · rw [count_eq_sum, hsum _ (congrArg Bool.toNat hstaked), ← count_eq_sum]
    exact h.totalStakers_eq
  · intro other otherInfo hother hzero
    rw [State.putStaker, FiniteMap.lookup_insert_ite] at hother
    split at hother
    · cases hother
      rw [hdebt]
      exact h.rewardDebt_eq_zero staker info hrecord (hstake ▸ hzero)
    · exact h.rewardDebt_eq_zero other otherInfo hother hzero

end Put

/-! ## One report -/

omit [DecidableEq AccountId] in
/-- The number of stakers follows the flag, as long as a flagged staker is counted. -/
theorem countStaker_snd (stakeAmount stakedBalance : ℕ) {totalStakers : ℕ} {staked : Bool}
    (h : staked.toNat ≤ totalStakers) :
    (countStaker stakeAmount stakedBalance staked totalStakers).2 + staked.toNat =
      totalStakers + (decide (stakeAmount ≤ stakedBalance)).toNat := by
  unfold countStaker
  cases staked with
  | false => split <;> simp_all
  | true =>
    have hpositive : 0 < totalStakers := h
    split
    · next hle => simp [hle]
    · next hlt =>
      simp [hlt, hpositive]
      omega

/-- What settling a stake did to the totals. -/
structure StakeSettled (s : State AccountId) (info : StakeInfo) (s' : State AccountId)
    (info' : StakeInfo) : Prop where
  details_eq : s'.staking.stakerDetails = s.staking.stakerDetails
  totalStakeAmount_eq : s'.staking.totalStakeAmount + info.stakedBalance =
    s.staking.totalStakeAmount + info'.stakedBalance
  totalRewardDebt_eq : s'.staking.totalRewardDebt + info.rewardDebt =
    s.staking.totalRewardDebt + info'.rewardDebt
  totalStakers_eq : s'.staking.totalStakers + info.staked.toNat =
    s.staking.totalStakers + info'.staked.toNat
  rewardDebt_eq_zero : info'.stakedBalance = 0 → info'.rewardDebt = 0

section Settle

variable {s s' : State AccountId} {staker : AccountId} {info info' : StakeInfo}
  {newStakedBalance : ℕ} {settled : Option ℕ}

theorem stakeSettled_of_update (hdebt : info.stakedBalance = 0 → info.rewardDebt = 0)
    (hstaked : info.staked.toNat ≤ s.staking.totalStakers)
    (h : updateStakeAndPayRewards cfg s staker info newStakedBalance = .ok (info', s')) :
    StakeSettled s info s' info' := by
  obtain ⟨u, st, st₁, stake', -, hrewards, hpaid, hrestaked, -⟩ := updateStakeAndPayRewards_eq_ok h
  have hst := updateRewards_frame hrewards
  -- the staker leaves the totals, whether it was paid or had nothing staked
  have hleft : st₁.stakerDetails = s.staking.stakerDetails ∧
      st₁.totalStakers = s.staking.totalStakers ∧
      st₁.totalRewardDebt + info.rewardDebt = s.staking.totalRewardDebt := by
    rcases hpaid with ⟨-, stake, pending, hpaid⟩ | ⟨hzero, -, rfl⟩
    · have hdebtLe := hpaid.debt_le
      rw [hpaid.state_eq]
      rw [hst] at hdebtLe ⊢
      exact ⟨rfl, rfl, Nat.sub_add_cancel hdebtLe⟩
    · rw [hst, hdebt hzero]
      exact ⟨rfl, rfl, rfl⟩
  obtain ⟨hdetails, hstakers, hdebts⟩ := hleft
  obtain ⟨hbalance, -, hamount⟩ := updateStakeAndPayRewards_totalStakeAmount h
  have hinfo := hrestaked.info_eq
  have hflag : info'.staked = decide (s.prices.stakeAmount ≤ newStakedBalance) :=
    congrArg StakeInfo.staked hinfo
  have hcount := countStaker_snd s.prices.stakeAmount newStakedBalance hstaked
  refine ⟨?_, ?_, ?_, ?_, ?_⟩
  · rw [hrestaked.state_eq, hdetails]
  · rw [hbalance, hamount]
  · rw [hrestaked.state_eq]
    dsimp only
    omega
  · rw [hrestaked.state_eq, hflag, ← hcount, hstakers]
  · intro hzero
    have hstake := hrestaked.stake_eq
    have hreward : info'.rewardDebt = _ := congrArg StakeInfo.rewardDebt hinfo
    rw [← hbalance, hzero] at hstake
    cases hstake
    rw [hreward, Nat.zero_mul, Nat.zero_div]
    exact Nat.le_zero.mp (u256ToBalance_le cfg 0)

/-- Settling a stake keeps the totals right, with the staker's record stored. -/
theorem StakeSettled.totals (h : StakeSettled s info s' info')
    (hinv : (s.putStaker staker info).staking.Totals) :
    (s'.putStaker staker info').staking.Totals := by
  have hsum : ∀ quantity : StakeInfo → ℕ, (s'.putStaker staker info').staking.sum quantity =
      (s.putStaker staker info').staking.sum quantity := by
    intro quantity
    simp only [State.putStaker, Staking.sum, h.details_eq]
  have hstakers := hinv.totalStakers_eq
  rw [count_eq_sum] at hstakers
  refine ⟨?_, ?_, ?_, ?_⟩
  · rw [hsum]
    exact eq_sum_putStaker hinv.totalStakeAmount_eq h.totalStakeAmount_eq
  · rw [hsum]
    exact eq_sum_putStaker hinv.totalRewardDebt_eq h.totalRewardDebt_eq
  · rw [count_eq_sum, hsum]
    exact eq_sum_putStaker hstakers h.totalStakers_eq
  · intro other otherInfo hother hzero
    rw [State.putStaker, FiniteMap.lookup_insert_ite] at hother
    split at hother
    · cases hother
      exact h.rewardDebt_eq_zero hzero
    · next hne =>
      rw [h.details_eq] at hother
      refine hinv.rewardDebt_eq_zero other otherInfo ?_ hzero
      rw [State.putStaker, FiniteMap.lookup_insert_ite, if_neg hne]
      exact hother

/-- No move of a report upsets the totals. -/
theorem RecordStep.totals {before after : State AccountId × StakeInfo}
    (h : RecordStep cfg staker settled before after)
    (hinv : (before.1.putStaker staker before.2).staking.Totals) :
    (after.1.putStaker staker after.2).staking.Totals := by
  have hlookup : (before.1.putStaker staker before.2).staking.stakerDetails.lookup staker =
      some before.2 := Finmap.lookup_insert _
  -- the record is stored over itself, with other locked balances, dates or votes
  have hnoted : ∀ info : StakeInfo, info.stakedBalance = before.2.stakedBalance →
      info.rewardDebt = before.2.rewardDebt → info.staked = before.2.staked →
      (before.1.putStaker staker info).staking.Totals := by
    intro info hstake hdebt hstaked
    have hput := hinv.putStaker hlookup hstake hdebt hstaked
    simpa only [State.putStaker, Finmap.insert_insert] using hput
  cases h with
  | @settle s _ info _ _ hsettled h =>
    refine (stakeSettled_of_update (hinv.rewardDebt_eq_zero _ _ hlookup) ?_ h).totals hinv
    have hle := le_sum_putStaker s staker info fun info ↦ info.staked.toNat
    rw [← count_eq_sum, ← hinv.totalStakers_eq] at hle
    exact hle
  | @release _ info amount hlocked htotal =>
    have hput := hnoted { info with lockedBalance := info.lockedBalance - amount } rfl rfl rfl
    exact ⟨hput.totalStakeAmount_eq, hput.totalRewardDebt_eq, hput.totalStakers_eq,
      hput.rewardDebt_eq_zero⟩
  | @lock _ info amount =>
    have hput := hnoted { info with lockedBalance := info.lockedBalance + amount } rfl rfl rfl
    exact ⟨hput.totalStakeAmount_eq, hput.totalRewardDebt_eq, hput.totalStakers_eq,
      hput.rewardDebt_eq_zero⟩
  | note startDate startVoteCount startVoteTally => exact hnoted _ rfl rfl rfl

/-- Before a report, the record it starts from is the stored one or a blank one. -/
theorem Reported.totals_putStaker {s₁ : State AccountId} {event : Event AccountId}
    (h : Reported cfg s staker settled info s₁ info' event s') (hinv : s.staking.Totals) :
    (s.putStaker staker info).staking.Totals := by
  rcases h.record_eq with hrecord | ⟨hnone, address, rfl⟩
  · exact hinv.putStaker hrecord rfl rfl rfl
  · have hblank : ∀ quantity : StakeInfo → ℕ, quantity (StakeInfo.new address) = 0 →
        (s.putStaker staker (StakeInfo.new address)).staking.sum quantity =
          s.staking.sum quantity :=
      fun quantity hzero ↦ sum_putStaker_self quantity (Or.inr ⟨hnone, hzero⟩)
    refine ⟨?_, ?_, ?_, ?_⟩
    · rw [hblank _ rfl]
      exact hinv.totalStakeAmount_eq
    · rw [hblank _ rfl]
      exact hinv.totalRewardDebt_eq
    · rw [count_eq_sum, hblank _ rfl, ← count_eq_sum]
      exact hinv.totalStakers_eq
    · intro other otherInfo hother hzero
      rw [State.putStaker, FiniteMap.lookup_insert_ite] at hother
      split at hother
      · cases hother
        rfl
      · exact hinv.rewardDebt_eq_zero other otherInfo hother hzero

theorem Reported.totals {s₁ : State AccountId} {event : Event AccountId}
    (h : Reported cfg s staker settled info s₁ info' event s')
    (hinv : s.staking.Totals) : s'.staking.Totals := by
  have hend := h.invariant (fun after ↦ (after.1.putStaker staker after.2).staking.Totals)
    (fun _ _ hbefore hmove ↦ hmove.totals hbefore) (h.totals_putStaker hinv)
  rw [h.state_eq]
  exact hend

end Settle

/-! ## Runs -/

theorem StakingStep.totals {s s' : State AccountId} {input : Input AccountId}
    (h : StakingStep cfg s input s') (hinv : s.staking.Totals) : s'.staking.Totals := by
  cases h with
  | unchanged hstaking hbalance => rwa [hstaking]
  | rewarded hbalance hrewards hstaking =>
    rw [hstaking, updateRewards_frame hrewards]
    exact ⟨hinv.totalStakeAmount_eq, hinv.totalRewardDebt_eq, hinv.totalStakers_eq,
      hinv.rewardDebt_eq_zero⟩
  | @submitted _ _ reporter queryId staker hstaker hledger hstaking =>
    have hput : (s.putStaker reporter (staker.reported s.now)).staking.Totals :=
      hinv.putStaker hstaker rfl rfl rfl
    rw [hstaking]
    exact ⟨hput.totalStakeAmount_eq, hput.totalRewardDebt_eq, hput.totalStakers_eq,
      hput.rewardDebt_eq_zero⟩
  | reported haccepted hcall h => exact h.totals hinv
  | @withdrawn _ reporter amount info _ h =>
    have hput : (s.putStaker reporter
        { info with lockedBalance := info.lockedBalance - amount }).staking.Totals :=
      hinv.putStaker h.record_eq rfl rfl rfl
    rw [h.state_eq]
    exact ⟨hput.totalStakeAmount_eq, hput.totalRewardDebt_eq, hput.totalStakers_eq,
      hput.rewardDebt_eq_zero⟩

theorem totals_genesis {s : State AccountId} (h : IsGenesis cfg s) : s.staking.Totals := by
  obtain ⟨ledger, blockNumber, now, -, rfl⟩ := h
  refine ⟨?_, ?_, ?_, ?_⟩
  · simp [State.genesis, Staking.sum]
  · simp [State.genesis, Staking.sum]
  · simp [State.genesis, FiniteMap.count]
  · simp [State.genesis]

theorem Reachable.totals {s : State AccountId} (h : Reachable cfg s) : s.staking.Totals :=
  h.invariant (fun s ↦ s.staking.Totals) (fun _ hgenesis ↦ totals_genesis hgenesis)
    fun _ _ _ hinv heffect ↦ heffect.stakingStep.totals hinv

/-- In every reachable state the total stake and the total reward debt are the sums over the
stakers' records, a staker without stake has no debt, and the number of stakers counts the records
whose flag is set. -/
theorem stakeTotals_of_reachable {s : State AccountId} (h : Reachable cfg s) :
    s.staking.totalStakeAmount = s.staking.sum StakeInfo.stakedBalance ∧
      s.staking.totalRewardDebt = s.staking.sum StakeInfo.rewardDebt ∧
      (∀ staker info, s.staking.stakerDetails.lookup staker = some info →
        info.stakedBalance = 0 → info.rewardDebt = 0) ∧
      s.staking.totalStakers = FiniteMap.count s.staking.stakerDetails StakeInfo.staked :=
  ⟨h.totals.totalStakeAmount_eq, h.totals.totalRewardDebt_eq, h.totals.rewardDebt_eq_zero,
    h.totals.totalStakers_eq⟩

/-- The totals with three stakers, each with the minimum stake. -/
theorem stakeTotals_of_reports :
    let st := (run (step Mock.config) Mock.reports Mock.genesis).staking
    st.totalStakeAmount = st.sum StakeInfo.stakedBalance ∧
      st.totalRewardDebt = st.sum StakeInfo.rewardDebt ∧
      (∀ staker info, st.stakerDetails.lookup staker = some info →
        info.stakedBalance = 0 → info.rewardDebt = 0) ∧
      st.totalStakers = FiniteMap.count st.stakerDetails StakeInfo.staked :=
  stakeTotals_of_reachable (Mock.reachableBy_run Mock.reports (by decide +kernel))

end TellorPallet
