import TellorPallet.Foundation.Potential
import TellorPallet.Staking.Debts
import TellorPallet.Staking.Settlement
import TellorPallet.Staking.Withdrawals

/-!
# Earnings of a stake

A stake earns what its balance accrues as the accumulator grows. Over a run, the reports about a staker
pay no more than the staker was owed at first and its stake has earned since, however often it is settled
and however it changes.
-/

namespace TellorPallet

open Outcome Transition

variable {AccountId : Type} [DecidableEq AccountId] (cfg : Config AccountId)

/-- What a staker is owed as of the last update of the accumulator. -/
def State.owedTo (s : State AccountId) (staker : AccountId) : ℕ :=
  s.staking.owed cfg (s.stakerRecord staker)

/-- What the staking rewards account pays when an input that reports about the staker takes `s` to
`s'`. -/
def Input.rewardPaid (staker : AccountId) (s s' : State AccountId) : Input AccountId → ℕ
  | .extrinsic _ .staking call =>
    if call.staker = some staker then s.ledger cfg.stakingRewards - s'.ledger cfg.stakingRewards else 0
  | _ => 0

/-- What the stake a staker has in `s` earns as the accumulator grows to that of `s'`. -/
def rewardEarned (staker : AccountId) (s s' : State AccountId) : ℕ :=
  accruedAt cfg s'.staking.accumulatedRewardPerShare (s.stakerRecord staker).stakedBalance -
    accruedAt cfg s.staking.accumulatedRewardPerShare (s.stakerRecord staker).stakedBalance

/-- What the reports of a run about the staker pay. -/
def rewardsPaid (staker : AccountId) : List (Input AccountId) → State AccountId → ℕ :=
  accrue (step cfg) fun s input ↦ input.rewardPaid cfg staker s (step cfg input s)

/-- What the stake of the staker earns in a run. -/
def rewardsEarned (staker : AccountId) : List (Input AccountId) → State AccountId → ℕ :=
  accrue (step cfg) fun s input ↦ rewardEarned cfg staker s (step cfg input s)

section Steps

variable {cfg} {s s' : State AccountId} {staker reporter : AccountId} {info info' : StakeInfo}
  {settled : Option ℕ}

theorem stakerRecord_putStaker_self : (s.putStaker staker info).stakerRecord staker = info := by
  rw [State.stakerRecord, State.putStaker, FiniteMap.lookup_insert_ite, if_pos rfl, Option.getD_some]

/-- What a staker is owed is what its stake has accrued less its debt, without truncation. -/
theorem owedTo_add_debt (hdebts : s.staking.DebtsAccrued cfg) (staker : AccountId) :
    s.owedTo cfg staker + (s.stakerRecord staker).rewardDebt =
      accruedAt cfg s.staking.accumulatedRewardPerShare (s.stakerRecord staker).stakedBalance :=
  Nat.sub_add_cancel (hdebts.getD_le staker)

theorem accrued_add_rewardEarned (cfg : Config AccountId) (staker : AccountId)
    (hmono : s.staking.accumulatedRewardPerShare ≤ s'.staking.accumulatedRewardPerShare) :
    accruedAt cfg s.staking.accumulatedRewardPerShare (s.stakerRecord staker).stakedBalance +
        rewardEarned cfg staker s s' =
      accruedAt cfg s'.staking.accumulatedRewardPerShare (s.stakerRecord staker).stakedBalance :=
  Nat.add_sub_cancel' (accruedAt_mono hmono)

/-- Settling a stake adds nothing to the staking rewards account. -/
theorem stakingRewards_le_of_update {newStakedBalance : ℕ}
    (h : updateStakeAndPayRewards cfg s staker info newStakedBalance = .ok (info', s')) :
    s'.ledger cfg.stakingRewards ≤ s.ledger cfg.stakingRewards := by
  obtain ⟨u, st, st₁, stake', -, -, hpaid, -, -⟩ := updateStakeAndPayRewards_eq_ok h
  rcases hpaid with ⟨-, stake, pending, hpaid⟩ | ⟨-, hledger, -⟩
  · have hmoved := transfer_add hpaid.transferred cfg.stakingRewards
    rw [if_pos rfl] at hmoved
    split at hmoved <;> omega
  · rw [hledger]

/-- What every move of a report about a staker preserves, from the state `s` and the record `info` on:
the rewards account pays for what the stake has accrued, and the new stake starts from a debt. -/
structure EarningsInvariant (cfg : Config AccountId) (staker : AccountId) (s : State AccountId)
    (info : StakeInfo) (after : State AccountId × StakeInfo) : Prop where
  totals : (after.1.putStaker staker after.2).staking.Totals
  perShareNow_eq : perShareNow cfg after.1 = perShareNow cfg s
  balance_le : after.1.ledger cfg.stakingRewards ≤ s.ledger cfg.stakingRewards
  paid_le : s.ledger cfg.stakingRewards + accruedAt cfg (perShareNow cfg s) after.2.stakedBalance +
      info.rewardDebt ≤
    after.1.ledger cfg.stakingRewards + accruedAt cfg (perShareNow cfg s) info.stakedBalance +
      after.2.rewardDebt
  settled_or_same : after.1.staking.accumulatedRewardPerShare = perShareNow cfg s ∨
    after.2.stakedBalance = info.stakedBalance ∧
      after.1.staking.accumulatedRewardPerShare = s.staking.accumulatedRewardPerShare

theorem RecordStep.earningsInvariant {before after : State AccountId × StakeInfo}
    (h : RecordStep cfg staker settled before after)
    (hfits : ∀ balance, settled = some balance → accruedAt cfg (perShareNow cfg s) balance ≤ u128Max)
    (hinv : EarningsInvariant cfg staker s info before) : EarningsInvariant cfg staker s info after := by
  have htotals := h.totals hinv.totals
  have hbalance := hinv.balance_le
  have hpaid := hinv.paid_le
  have hperShare := hinv.perShareNow_eq
  cases h with
  | @settle mid _ record _ newStakedBalance hsettled h =>
    have hlookup : (mid.putStaker staker record).staking.stakerDetails.lookup staker = some record :=
      Finmap.lookup_insert _
    obtain ⟨st, hrewards⟩ :=
      rewardsSettled_of_update (hinv.totals.rewardDebt_eq_zero _ _ hlookup) h
    obtain ⟨hafter, hupdated⟩ := hrewards.perShareNow_eq
    have hreached : st.accumulatedRewardPerShare = perShareNow cfg s := hupdated.symm.trans hperShare
    have hdebt := hrewards.rewardDebt_eq
    have hdue := hrewards.paid_le
    rw [hreached] at hdebt hdue
    rw [min_eq_left (hfits newStakedBalance hsettled)] at hdebt
    refine ⟨htotals, hafter.trans hperShare, (stakingRewards_le_of_update h).trans hbalance, ?_,
      Or.inl (hrewards.perShare_eq.trans hreached)⟩
    dsimp only at hpaid ⊢
    rw [hrewards.stakedBalance_eq, hdebt]
    omega
  | release hlocked htotal =>
    exact ⟨htotals, (perShareNow_setToWithdraw _).trans hperShare, hbalance, hpaid,
      hinv.settled_or_same⟩
  | lock amount =>
    exact ⟨htotals, (perShareNow_setToWithdraw _).trans hperShare, hbalance, hpaid,
      hinv.settled_or_same⟩
  | note startDate startVoteCount startVoteTally =>
    exact ⟨htotals, hperShare, hbalance, hpaid, hinv.settled_or_same⟩

/-- A report about a staker pays it no more than it was owed and has earned. -/
theorem Reported.paid_add_owedTo_le {s₁ : State AccountId} {event : Event AccountId}
    (h : Reported cfg s staker settled info s₁ info' event s')
    (hfits : ∀ balance, settled = some balance → accruedAt cfg (perShareNow cfg s) balance ≤ u128Max)
    (htotals : s.staking.Totals) (hdebts : s.staking.DebtsAccrued cfg)
    (hdebts' : s'.staking.DebtsAccrued cfg)
    (hmono : s.staking.accumulatedRewardPerShare ≤ s'.staking.accumulatedRewardPerShare) :
    s.ledger cfg.stakingRewards - s'.ledger cfg.stakingRewards + s'.owedTo cfg staker ≤
      s.owedTo cfg staker + rewardEarned cfg staker s s' := by
  have hstart : EarningsInvariant cfg staker s info (s, info) :=
    ⟨h.totals_putStaker htotals, rfl, le_rfl, le_rfl, Or.inr ⟨rfl, rfl⟩⟩
  have hend := h.invariant (EarningsInvariant cfg staker s info)
    (fun _ _ hbefore hmove ↦ hmove.earningsInvariant hfits hbefore) hstart
  have hrecord : (s.stakerRecord staker).stakedBalance = info.stakedBalance ∧
      (s.stakerRecord staker).rewardDebt = info.rewardDebt := by
    rcases h.record_eq with hrecord | ⟨hnone, address, rfl⟩
    · rw [State.stakerRecord, hrecord]
      exact ⟨rfl, rfl⟩
    · rw [State.stakerRecord, hnone]
      exact ⟨rfl, rfl⟩
  have hrecord' : s'.stakerRecord staker = info' := by
    rw [h.state_eq]
    exact stakerRecord_putStaker_self
  have howed := owedTo_add_debt hdebts staker
  have howed' := owedTo_add_debt hdebts' staker
  have hearned := accrued_add_rewardEarned cfg staker hmono
  have hpaid := hend.paid_le
  have hbalance := hend.balance_le
  have hledger : s'.ledger = s₁.ledger := by rw [h.state_eq]; rfl
  have hperShare : s'.staking.accumulatedRewardPerShare = s₁.staking.accumulatedRewardPerShare := by
    rw [h.state_eq]
    rfl
  rw [hrecord.1] at howed hearned
  rw [hrecord.2] at howed
  rw [hrecord', hperShare] at howed'
  rw [hperShare] at hearned
  rw [hledger]
  dsimp only at hpaid hbalance
  rcases hend.settled_or_same with hreached | ⟨hsame, hperShare₁⟩
  · dsimp only at hreached
    rw [hreached] at howed' hearned
    omega
  · dsimp only at hsame hperShare₁
    rw [hsame] at howed' hpaid
    rw [hperShare₁] at howed' hearned
    omega

theorem Reported.details_eq {s₁ : State AccountId} {event : Event AccountId}
    (h : Reported cfg s reporter settled info s₁ info' event s') :
    s'.staking.stakerDetails = s.staking.stakerDetails.insert reporter info' := by
  have hmoves := h.invariant (fun after ↦ after.1.staking.stakerDetails = s.staking.stakerDetails)
    (by
      intro before after hbefore hmove
      cases hmove with
      | settle hsettled h => exact (updateStakeAndPayRewards_toWithdraw h).2.trans hbefore
      | release hlocked htotal => exact hbefore
      | lock amount => exact hbefore
      | note startDate startVoteCount startVoteTally => exact hbefore)
    rfl
  rw [h.state_eq, ← hmoves]
  rfl

/-- What an accepted report that saturates no debt settles fits the cast. -/
theorem Reported.settled_fits {send : Sender} {call : Call AccountId} {s₁ : State AccountId}
    {event : Event AccountId} (haccepted : dispatch cfg send s .staking call = .ok s')
    (hcall : call.staker = some reporter)
    (h : Reported cfg s reporter (call.settledBalance info) info s₁ info' event s')
    (hfits : ¬SaturatesDebt cfg s (.extrinsic send .staking call)) (balance : ℕ)
    (hbalance : call.settledBalance info = some balance) :
    accruedAt cfg (perShareNow cfg s) balance ≤ u128Max := by
  by_contra hexceeds
  refine hfits ⟨(send, call), rfl, reporter, hcall, balance, ?_, ?_, not_le.mp hexceeds⟩
  · rcases h.record_eq with hrecord | ⟨hnone, address, rfl⟩
    · rw [hrecord]
      exact hbalance
    · rw [hnone]
      rw [settledBalance_new] at hbalance
      exact hbalance
  · rw [haccepted]
    rfl

theorem rewardPaid_eq_zero {input : Input AccountId}
    (h : s.ledger cfg.stakingRewards ≤ s'.ledger cfg.stakingRewards) :
    input.rewardPaid cfg staker s s' = 0 := by
  unfold Input.rewardPaid
  split
  · split
    · exact Nat.sub_eq_zero_of_le h
    · rfl
  · rfl

/-- The record of `s'` has the stake and the debt of the record of `s`. -/
def SameStake (staker : AccountId) (s s' : State AccountId) : Prop :=
  (s'.stakerRecord staker).stakedBalance = (s.stakerRecord staker).stakedBalance ∧
    (s'.stakerRecord staker).rewardDebt = (s.stakerRecord staker).rewardDebt

theorem SameStake.of_details (h : s'.staking.stakerDetails = s.staking.stakerDetails) :
    SameStake staker s s' := by
  unfold SameStake State.stakerRecord
  rw [h]
  exact ⟨rfl, rfl⟩

theorem SameStake.of_ne (h : s'.staking.stakerDetails = s.staking.stakerDetails.insert reporter info')
    (hne : staker ≠ reporter) : SameStake staker s s' := by
  unfold SameStake State.stakerRecord
  rw [h, FiniteMap.lookup_insert_ite, if_neg hne]
  exact ⟨rfl, rfl⟩

theorem SameStake.of_insert
    (h : s'.staking.stakerDetails = s.staking.stakerDetails.insert reporter info')
    (hrecord : s.staking.stakerDetails.lookup reporter = some info)
    (hstake : info'.stakedBalance = info.stakedBalance) (hdebt : info'.rewardDebt = info.rewardDebt) :
    SameStake staker s s' := by
  by_cases heq : staker = reporter
  · unfold SameStake State.stakerRecord
    rw [h, heq, FiniteMap.lookup_insert_ite, if_pos rfl, hrecord]
    exact ⟨hstake, hdebt⟩
  · exact .of_ne h heq

/-- A step that leaves a staker's stake and debt as they are owes it what the stake earns. -/
theorem SameStake.owedTo_eq (h : SameStake staker s s') (hdebts : s.staking.DebtsAccrued cfg)
    (hdebts' : s'.staking.DebtsAccrued cfg)
    (hmono : s.staking.accumulatedRewardPerShare ≤ s'.staking.accumulatedRewardPerShare) :
    s'.owedTo cfg staker = s.owedTo cfg staker + rewardEarned cfg staker s s' := by
  have howed := owedTo_add_debt hdebts staker
  have howed' := owedTo_add_debt hdebts' staker
  have hearned := accrued_add_rewardEarned cfg staker hmono
  rw [h.1, h.2] at howed'
  omega

/-- An input pays a staker no more than it was owed and its stake earns. -/
theorem StakingStep.rewardPaid_add_owedTo_le {input : Input AccountId} (h : StakingStep cfg s input s')
    (hmax : cfg.balanceMax = u128Max) (hfits : ¬SaturatesDebt cfg s input) (htotals : s.staking.Totals)
    (hdebts : s.staking.DebtsAccrued cfg) (staker : AccountId) :
    input.rewardPaid cfg staker s s' + s'.owedTo cfg staker ≤
      s.owedTo cfg staker + rewardEarned cfg staker s s' := by
  obtain ⟨hdebts', hmono⟩ := h.debtsAccrued hmax htotals hdebts
  have hkept : s.ledger cfg.stakingRewards ≤ s'.ledger cfg.stakingRewards → SameStake staker s s' →
      input.rewardPaid cfg staker s s' + s'.owedTo cfg staker ≤
        s.owedTo cfg staker + rewardEarned cfg staker s s' := by
    intro hbalance hsame
    rw [rewardPaid_eq_zero hbalance, Nat.zero_add, hsame.owedTo_eq hdebts hdebts' hmono]
  cases h with
  | unchanged hstaking hbalance => exact hkept hbalance (.of_details (by rw [hstaking]))
  | rewarded hbalance hrewards hstaking =>
    refine hkept hbalance (.of_details ?_)
    rw [hstaking, Staking.updateRewards_frame hrewards]
  | submitted hstaker hledger hstaking =>
    have hdetails := congrArg Staking.stakerDetails hstaking
    exact hkept (by rw [hledger]) (.of_insert hdetails hstaker rfl rfl)
  | @reported send call reporter info info' event s₁ _ haccepted hcall h =>
    by_cases hother : reporter = staker
    · subst hother
      rw [Input.rewardPaid, if_pos hcall]
      exact h.paid_add_owedTo_le (h.settled_fits haccepted hcall hfits) htotals hdebts hdebts' hmono
    · have hsame : SameStake staker s s' :=
        .of_ne h.details_eq (Ne.symm hother)
      have hunpaid : Input.rewardPaid cfg staker s s' (.extrinsic send .staking call) = 0 :=
        if_neg (hcall ▸ fun heq ↦ hother (Option.some.inj heq))
      rw [hunpaid, Nat.zero_add, hsame.owedTo_eq hdebts hdebts' hmono]
  | withdrawn h =>
    have hdetails := congrArg (·.staking.stakerDetails) h.state_eq
    have hledger := congrArg State.ledger h.state_eq
    exact hkept (by rw [hledger]; rfl) (.of_insert hdetails h.record_eq rfl rfl)

end Steps

section Runs

variable {cfg} {s : State AccountId} {inputs : List (Input AccountId)}

/-- In a run in which no report saturates a debt, the reports about a staker pay no more than the staker
was owed at first and its stake has earned. Where its staked balance is the same at every input, that is
what the balance has accrued from the first state to the last, however often it was settled. -/
theorem rewardsPaid_le_of_run (staker : AccountId) (hmax : cfg.balanceMax = u128Max)
    (h : Reachable cfg s) (hinputs : AdmitsAll (step cfg)
      (fun s input ↦ Admissible cfg s input ∧ ¬SaturatesDebt cfg s input) inputs s) :
    rewardsPaid cfg staker inputs s + (run (step cfg) inputs s).owedTo cfg staker ≤
        s.owedTo cfg staker + rewardsEarned cfg staker inputs s ∧
      ∀ stakedBalance,
        AdmitsAll (step cfg) (fun s _ ↦ (s.stakerRecord staker).stakedBalance = stakedBalance) inputs s →
        accruedAt cfg s.staking.accumulatedRewardPerShare stakedBalance +
            rewardsEarned cfg staker inputs s =
          accruedAt cfg (run (step cfg) inputs s).staking.accumulatedRewardPerShare stakedBalance := by
  have hkept : ∀ (s : State AccountId) (input : Input AccountId),
      s.staking.Totals ∧ s.staking.DebtsAccrued cfg →
      Admissible cfg s input ∧ ¬SaturatesDebt cfg s input →
      (step cfg input s).staking.Totals ∧ (step cfg input s).staking.DebtsAccrued cfg := by
    intro s input hinv hadmits
    have hstep := (step_effect hadmits.1).stakingStep
    exact ⟨hstep.totals hinv.1, (hstep.debtsAccrued hmax hinv.1 hinv.2).1⟩
  have hstart : s.staking.Totals ∧ s.staking.DebtsAccrued cfg := ⟨h.totals, h.debtsAccrued hmax⟩
  refine ⟨?_, fun stakedBalance hsame ↦ ?_⟩
  · refine accrue_add_le (fun s ↦ s.owedTo cfg staker) hkept ?_ hinputs hstart
    intro s input hinv hadmits
    exact (step_effect hadmits.1).stakingStep.rewardPaid_add_owedTo_le hmax hadmits.2 hinv.1 hinv.2 staker
  · have hearned : rewardsEarned cfg staker inputs s =
        accrue (step cfg) (fun s input ↦
          accruedAt cfg (step cfg input s).staking.accumulatedRewardPerShare stakedBalance -
            accruedAt cfg s.staking.accumulatedRewardPerShare stakedBalance) inputs s := by
      refine accrue_congr (hsame.mono fun s input heq ↦ ?_)
      rw [rewardEarned, heq]
    rw [hearned]
    refine add_accrue_eq
      (fun s ↦ accruedAt cfg s.staking.accumulatedRewardPerShare stakedBalance) hkept ?_ hinputs hstart
    intro s input hinv hadmits
    exact accruedAt_mono ((step_effect hadmits.1).stakingStep.debtsAccrued hmax hinv.1 hinv.2).2

/-- The first staker of two settles twice, a day apart. -/
theorem rewardsPaid_le_of_run_joining :
    let s := run (step Mock.config) (Mock.joining (10 ^ 18)) Mock.genesis
    let inputs : List (Input ℕ) :=
      [.newBlock 3 (Mock.start + days), .extrinsic Mock.send .staking (.reportStakeDeposited 7 0 9),
        .newBlock 4 (Mock.start + 2 * days), .extrinsic Mock.send .staking (.reportStakeDeposited 7 0 9)]
    rewardsPaid Mock.config 7 inputs s + (run (step Mock.config) inputs s).owedTo Mock.config 7 ≤
        s.owedTo Mock.config 7 + rewardsEarned Mock.config 7 inputs s ∧
      accruedAt Mock.config s.staking.accumulatedRewardPerShare (10 ^ 18) +
          rewardsEarned Mock.config 7 inputs s =
        accruedAt Mock.config (run (step Mock.config) inputs s).staking.accumulatedRewardPerShare
          (10 ^ 18) := by
  intro s inputs
  have hreachable : Reachable Mock.config s :=
    Mock.reachableBy_run (Mock.joining (10 ^ 18)) (by decide +kernel)
  have hinputs : AdmitsAll (step Mock.config)
      (fun s input ↦ Admissible Mock.config s input ∧ ¬SaturatesDebt Mock.config s input) inputs s := by
    decide +kernel
  have hsame : AdmitsAll (step Mock.config)
      (fun s _ ↦ (s.stakerRecord 7).stakedBalance = 10 ^ 18) inputs s := by decide +kernel
  obtain ⟨hpaid, hearned⟩ := rewardsPaid_le_of_run 7 rfl hreachable hinputs
  exact ⟨hpaid, hearned (10 ^ 18) hsame⟩

end Runs

end TellorPallet
