import TellorPallet.Runtime.Mock
import TellorPallet.Staking.Totals

/-!
# The withdrawal ledger

The amount to withdraw against the locked balances. A reported withdrawal takes the whole locked
balance of its staker out of the total, but only the reported amount out of the staker's record:
the two agree in every run without a withdrawal of less than the whole locked balance, and in no
run after the first such withdrawal that starts from agreement.
-/

namespace TellorPallet

open Outcome Transition

variable {AccountId : Type} [DecidableEq AccountId] {cfg : Config AccountId}

/-- The withdrawal an input reports, when it comes from the staking contract. -/
def Input.withdrawal : Input AccountId → Option (AccountId × ℕ)
  | .extrinsic _ .staking (.reportStakeWithdrawn reporter amount) => some (reporter, amount)
  | _ => none

/-- The input reports a withdrawal, after the withdrawal period, of less than the reporter's whole
locked balance. -/
def WithdrawsPart (s : State AccountId) (input : Input AccountId) : Prop :=
  ∃ report ∈ input.withdrawal, ∃ info ∈ s.staking.stakerDetails.lookup report.1,
    info.startDate + 7 * days ≤ s.now ∧ report.2 < info.lockedBalance

instance (s : State AccountId) (input : Input AccountId) : Decidable (WithdrawsPart s input) :=
  inferInstanceAs (Decidable (∃ report ∈ input.withdrawal,
    ∃ info ∈ s.staking.stakerDetails.lookup report.1, _ ∧ _))

/-- The amount to withdraw is what the stakers have locked. -/
def Staking.WithdrawalLedger (st : Staking AccountId) : Prop :=
  st.toWithdraw = st.sum StakeInfo.lockedBalance

section Steps

variable {s s' : State AccountId} {staker : AccountId} {info info' : StakeInfo}
  {newStakedBalance amount : ℕ} {settled : Option ℕ}

theorem updateStakeAndPayRewards_toWithdraw
    (h : updateStakeAndPayRewards cfg s staker info newStakedBalance = .ok (info', s')) :
    s'.staking.toWithdraw = s.staking.toWithdraw ∧
      s'.staking.stakerDetails = s.staking.stakerDetails := by
  obtain ⟨u, st, st₁, stake', -, hrewards, hpaid, hrestaked, -⟩ := updateStakeAndPayRewards_eq_ok h
  have hst := Staking.updateRewards_frame hrewards
  have hleft : st₁.toWithdraw = s.staking.toWithdraw ∧
      st₁.stakerDetails = s.staking.stakerDetails := by
    rcases hpaid with ⟨-, stake, pending, hpaid⟩ | ⟨-, -, rfl⟩
    · rw [hpaid.state_eq, hst]
      exact ⟨rfl, rfl⟩
    · rw [hst]
      exact ⟨rfl, rfl⟩
  rw [hrestaked.state_eq]
  exact hleft

/-- Every move of a report changes the record's locked balance and the total alike. -/
theorem RecordStep.withdrawalLedger {before after : State AccountId × StakeInfo}
    (h : RecordStep cfg staker settled before after)
    (hinv : (before.1.putStaker staker before.2).staking.WithdrawalLedger) :
    (after.1.putStaker staker after.2).staking.WithdrawalLedger := by
  cases h with
  | @settle s s' info info' _ hsettled h =>
    obtain ⟨htotal, hdetails⟩ := updateStakeAndPayRewards_toWithdraw h
    have hsum : (s'.putStaker staker info').staking.sum StakeInfo.lockedBalance =
        (s.putStaker staker info').staking.sum StakeInfo.lockedBalance := by
      simp only [State.putStaker, Staking.sum, hdetails]
    change s'.staking.toWithdraw = _
    rw [hsum, htotal]
    exact eq_sum_putStaker hinv (by simp [updateStakeAndPayRewards_locked h])
  | release hlocked htotal => exact eq_sum_putStaker hinv (by simp; omega)
  | lock amount => exact eq_sum_putStaker hinv (by simp; omega)
  | note startDate startVoteCount startVoteTally => exact eq_sum_putStaker hinv rfl

theorem Reported.withdrawalLedger {s₁ : State AccountId} {event : Event AccountId}
    (h : Reported cfg s staker settled info s₁ info' event s')
    (hinv : s.staking.WithdrawalLedger) : s'.staking.WithdrawalLedger := by
  have hstart : (s.putStaker staker info).staking.WithdrawalLedger := by
    have hself : (s.putStaker staker info).staking.sum StakeInfo.lockedBalance =
        s.staking.sum StakeInfo.lockedBalance := by
      apply sum_putStaker_self
      rcases h.record_eq with hrecord | ⟨hnone, address, rfl⟩
      · exact Or.inl hrecord
      · exact Or.inr ⟨hnone, rfl⟩
    exact hinv.trans hself.symm
  have hend := h.invariant (fun after ↦ (after.1.putStaker staker after.2).staking.WithdrawalLedger)
    (fun _ _ hbefore hmove ↦ hmove.withdrawalLedger hbefore) hstart
  rw [h.state_eq]
  exact hend

/-- A withdrawal leaves what remains locked in the record out of the total. -/
theorem Withdrawn.toWithdraw_add (h : Withdrawn s staker amount info s')
    (hinv : s.staking.WithdrawalLedger) :
    s'.staking.toWithdraw + (info.lockedBalance - amount) =
      s'.staking.sum StakeInfo.lockedBalance := by
  have hself := sum_putStaker_self StakeInfo.lockedBalance (Or.inl h.record_eq)
  have hput := sum_putStaker_putStaker s staker info
    { info with lockedBalance := info.lockedBalance - amount } StakeInfo.lockedBalance
  have hlocked := h.locked_le
  rw [hself] at hput
  rw [h.state_eq]
  change s.staking.toWithdraw - info.lockedBalance + _ = (s.putStaker staker _).staking.sum _
  change s.staking.toWithdraw = _ at hinv
  dsimp only at hput
  omega

end Steps

theorem StakingStep.withdrawalLedger {s s' : State AccountId} {input : Input AccountId}
    (h : StakingStep cfg s input s') (hwhole : ¬WithdrawsPart s input)
    (hinv : s.staking.WithdrawalLedger) : s'.staking.WithdrawalLedger := by
  cases h with
  | unchanged hstaking hbalance => rwa [hstaking]
  | rewarded hbalance hrewards hstaking =>
    rw [hstaking, Staking.updateRewards_frame hrewards]
    exact hinv
  | @submitted _ _ reporter queryId staker hstaker hledger hstaking =>
    have hself := sum_putStaker_self StakeInfo.lockedBalance (Or.inl hstaker)
    have hput : s.staking.toWithdraw =
        (s.putStaker reporter (staker.reported s.now)).staking.sum StakeInfo.lockedBalance :=
      eq_sum_putStaker (hinv.trans hself.symm) rfl
    rw [hstaking]
    exact hput
  | reported haccepted hcall h => exact h.withdrawalLedger hinv
  | @withdrawn _ reporter amount info _ h =>
    have hamount : info.lockedBalance ≤ amount := by
      by_contra hpart
      exact hwhole ⟨_, rfl, info, h.record_eq, h.period_passed, not_le.mp hpart⟩
    have htotal := h.toWithdraw_add hinv
    rwa [Nat.sub_eq_zero_of_le hamount, Nat.add_zero] at htotal

/-- A withdrawal of less than the whole locked balance breaks an agreement. -/
theorem Withdrawn.not_withdrawalLedger {s s' : State AccountId} {staker : AccountId} {amount : ℕ}
    {info : StakeInfo} (h : Withdrawn s staker amount info s') (hinv : s.staking.WithdrawalLedger)
    (hpart : amount < info.lockedBalance) : ¬s'.staking.WithdrawalLedger := by
  intro hledger
  have htotal := h.toWithdraw_add hinv
  rw [Staking.WithdrawalLedger] at hledger
  omega

/-- In every run without a withdrawal of less than a staker's whole locked balance, the amount to
withdraw is the sum of the locked balances, so that it covers each of them. -/
theorem toWithdraw_eq_sum_lockedBalance {s : State AccountId}
    (h : ReachableBy cfg (fun s input ↦ Admissible cfg s input ∧ ¬WithdrawsPart s input) s) :
    s.staking.toWithdraw = s.staking.sum StakeInfo.lockedBalance ∧
      ∀ staker info, s.staking.stakerDetails.lookup staker = some info →
        info.lockedBalance ≤ s.staking.toWithdraw := by
  have hledger : s.staking.WithdrawalLedger := by
    refine h.invariant (fun s ↦ s.staking.WithdrawalLedger) (fun _ _ hadmits ↦ hadmits.1) ?_ ?_
    · rintro s₀ ⟨ledger, blockNumber, now, -, rfl⟩
      simp [Staking.WithdrawalLedger, State.genesis, Staking.sum]
    · intro s₀ input s₁ hinv hadmits heffect
      exact heffect.stakingStep.withdrawalLedger hadmits.2 hinv
  refine ⟨hledger, fun staker info hinfo ↦ ?_⟩
  rw [show s.staking.toWithdraw = _ from hledger]
  exact FiniteMap.le_total hinfo fun _ ↦ StakeInfo.lockedBalance

namespace Mock

/-- A staker deposits a stake, requests the withdrawal of 100 units of it, and after the withdrawal
period `withdrawn` of them are reported as withdrawn. -/
def withdrawal (withdrawn : ℕ) : List (Input ℕ) :=
  [.extrinsic send .staking (.reportStakeDeposited 7 (100 * 10 ^ 18) 9),
    .newBlock 2 (start + 6),
    .extrinsic send .staking (.reportStakingWithdrawRequest 7 100 9),
    .newBlock 3 (start + 6 + 7 * days),
    .extrinsic send .staking (.reportStakeWithdrawn 7 withdrawn)]

end Mock

/-- The amount to withdraw is zero after 40 of 100 locked units are withdrawn, with 60 still locked. -/
theorem toWithdraw_ne_sum_lockedBalance :
    Reachable Mock.config (run (step Mock.config) (Mock.withdrawal 40) Mock.genesis) ∧
      (run (step Mock.config) (Mock.withdrawal 40) Mock.genesis).staking.toWithdraw ≠
        (run (step Mock.config) (Mock.withdrawal 40) Mock.genesis).staking.sum
          StakeInfo.lockedBalance :=
  ⟨Mock.reachableBy_run _ (by decide +kernel), by decide +kernel⟩

theorem toWithdraw_eq_sum_lockedBalance_whole :
    (run (step Mock.config) (Mock.withdrawal 100) Mock.genesis).staking.toWithdraw =
        (run (step Mock.config) (Mock.withdrawal 100) Mock.genesis).staking.sum
          StakeInfo.lockedBalance ∧
      ∀ staker info,
        (run (step Mock.config) (Mock.withdrawal 100) Mock.genesis).staking.stakerDetails.lookup
          staker = some info →
        info.lockedBalance ≤
          (run (step Mock.config) (Mock.withdrawal 100) Mock.genesis).staking.toWithdraw :=
  toWithdraw_eq_sum_lockedBalance (Mock.reachableBy_run (Mock.withdrawal 100) (by decide +kernel))

end TellorPallet
