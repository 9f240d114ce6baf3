import TellorPallet.Staking.VotingRecords

/-!
# Stake reports that are accepted

The controller chain has moved a stake by the time it is reported, so that a report that passes its
checks should be accepted. After registration it is, with amounts that fit, exactly when the amount
to withdraw covers what the report unlocks and the staking rewards account covers the settlement.
-/

namespace TellorPallet

open Outcome Transition

variable {AccountId : Type} [DecidableEq AccountId]

/-- What a report finds before it changes anything: its staker, and what it makes sure of. -/
def Call.PassesChecks (s : State AccountId) : Call AccountId → Prop
  | .reportStakeDeposited reporter _ address =>
    ∀ info ∈ s.staking.stakerDetails.lookup reporter, address = info.address
  | .reportStakingWithdrawRequest reporter amount address =>
    ∃ info ∈ s.staking.stakerDetails.lookup reporter,
      address = info.address ∧ amount ≤ info.stakedBalance
  | .reportSlash reporter _ =>
    ∃ info ∈ s.staking.stakerDetails.lookup reporter, 0 < info.stakedBalance + info.lockedBalance
  | _ => False

/-- What a report unlocks of its reporter's locked balance. -/
def Call.unlocked (info : StakeInfo) : Call AccountId → ℕ
  | .reportStakeDeposited _ amount _ => min amount info.lockedBalance
  | .reportSlash _ amount => min amount info.lockedBalance
  | _ => 0

/-- The amounts a report works with, and the reward formulas over them, fit their types. -/
structure ReportFits (cfg : Config AccountId) (s : State AccountId) (call : Call AccountId) :
    Prop where
  balances_le : ∀ reporter ∈ call.staker,
    (s.stakerRecord reporter).lockedBalance + (s.stakerRecord reporter).stakedBalance ≤ u256Max
  toWithdraw_le : ∀ reporter ∈ call.staker,
    s.staking.toWithdraw + (s.stakerRecord reporter).stakedBalance ≤ u256Max
  products : ∀ reporter ∈ call.staker,
    ∀ balance ∈ call.settledBalance (s.stakerRecord reporter),
      ProductsFit cfg s reporter (s.stakerRecord reporter) balance

/-- The amount to withdraw covers what the report unlocks, and the staking rewards account covers the
settlement of the stake it changes. -/
structure ReportCovered (cfg : Config AccountId) (s : State AccountId) (call : Call AccountId) :
    Prop where
  unlocked_le : ∀ reporter ∈ call.staker,
    call.unlocked (s.stakerRecord reporter) ≤ s.staking.toWithdraw
  rewards : ∀ reporter ∈ call.staker,
    ∀ balance ∈ call.settledBalance (s.stakerRecord reporter),
      RewardsCover cfg s reporter (s.stakerRecord reporter) balance

instance (cfg : Config AccountId) (s : State AccountId) (call : Call AccountId) :
    Decidable (ReportFits cfg s call) :=
  decidable_of_iff (_ ∧ _ ∧ _)
    ⟨fun ⟨balances, toWithdraw, products⟩ ↦ ⟨balances, toWithdraw, products⟩,
      fun ⟨balances, toWithdraw, products⟩ ↦ ⟨balances, toWithdraw, products⟩⟩

instance (cfg : Config AccountId) (s : State AccountId) (call : Call AccountId) :
    Decidable (ReportCovered cfg s call) :=
  decidable_of_iff (_ ∧ _)
    ⟨fun ⟨unlocked, rewards⟩ ↦ ⟨unlocked, rewards⟩, fun ⟨unlocked, rewards⟩ ↦ ⟨unlocked, rewards⟩⟩

/-- The states of the runs in which the pallet was registered. -/
def Registered (cfg : Config AccountId) (s : State AccountId) : Prop :=
  ∃ s₀ send gasLimit, Reachable cfg s₀ ∧
    (dispatch cfg send s₀ .register (.register gasLimit)).isOk = true ∧
      Reaches (step cfg) (Admissible cfg) (step cfg (.extrinsic send .register (.register gasLimit)) s₀) s

/-! ## One report -/

section Reports

variable {cfg : Config AccountId} {s : State AccountId} {staker : AccountId} {info info' : StakeInfo}
  {newStakedBalance amount : ℕ}

/-- A record that counts in a settlement as another does. -/
structure SettlesAs (g : Governance AccountId) (staker : AccountId) (info info' : StakeInfo) :
    Prop where
  stakedBalance_eq : info'.stakedBalance = info.stakedBalance
  rewardDebt_eq : info'.rewardDebt = info.rewardDebt
  votes_eq : info.stakedBalance = 0 ∨
    info'.startVoteCount = info.startVoteCount ∧ info'.startVoteTally = info.startVoteTally
  voteCount_le : info'.startVoteCount ≤ g.voteCount
  voteTally_le : info'.startVoteTally ≤ g.voteTally staker

theorem Settleable.settlesAs (h : Settleable cfg s staker info) :
    SettlesAs s.governance staker info info :=
  ⟨rfl, rfl, Or.inr ⟨rfl, rfl⟩, h.voteCount_le, h.voteTally_le⟩

theorem SettlesAs.pendingReward_eq (h : SettlesAs s.governance staker info info') :
    pendingReward cfg s staker info' = pendingReward cfg s staker info := by
  rcases h.votes_eq with hzero | ⟨hcount, htally⟩
  · rw [pendingReward_eq_zero hzero, pendingReward_eq_zero (h.stakedBalance_eq.trans hzero)]
  · rw [pendingReward, pendingReward, h.stakedBalance_eq, h.rewardDebt_eq, Governance.participation,
      Governance.participation, hcount, htally]

/-- The amount to withdraw plays no part in a settlement, and neither do the locked balance and the
dates of a record. -/
theorem SettlesAs.rewardsCover_iff (h : SettlesAs s.governance staker info info') (amount : ℕ) :
    RewardsCover cfg (s.release amount) staker info' newStakedBalance ↔
      RewardsCover cfg s staker info newStakedBalance := by
  have hpending : pendingReward cfg (s.release amount) staker info' = pendingReward cfg s staker info :=
    h.pendingReward_eq
  have hleft : balanceLeft cfg (s.release amount) staker info' = balanceLeft cfg s staker info := by
    rw [balanceLeft, hpending]
    rfl
  have howed : owedLeft cfg (s.release amount) info' newStakedBalance =
      owedLeft cfg s info newStakedBalance := by
    rw [owedLeft, h.stakedBalance_eq, h.rewardDebt_eq]
    rfl
  constructor
  · intro hcover
    exact ⟨hcover.shared, hpending ▸ hcover.paid, hleft ▸ howed ▸ hcover.restarted⟩
  · intro hcover
    exact ⟨hcover.shared, hpending.symm ▸ hcover.paid,
      hleft.symm ▸ howed.symm ▸ hcover.restarted⟩

/-- Settling the stake of a record, or of one that settles as it does, beside a release. -/
theorem Settleable.update_ok_iff (h : Settleable cfg s staker info) (hplain : PlainAsset cfg)
    (hfits : ProductsFit cfg s staker info newStakedBalance)
    (hsame : SettlesAs s.governance staker info info') (amount : ℕ) :
    (∃ r, updateStakeAndPayRewards cfg (s.release amount) staker info' newStakedBalance = .ok r) ↔
      RewardsCover cfg s staker info newStakedBalance := by
  have hstake := hsame.stakedBalance_eq
  have hsettleable : Settleable cfg (s.release amount) staker info' :=
    { totals := ⟨h.totals.totalStakeAmount_eq, h.totals.totalRewardDebt_eq,
        h.totals.totalStakers_eq, h.totals.rewardDebt_eq_zero⟩
      debts := ⟨h.debts.debt_le, h.debts.perShare_le⟩
      time_le := h.time_le
      minimum_le := h.minimum_le
      stakedBalance_eq := hstake.trans h.stakedBalance_eq
      rewardDebt_eq := hsame.rewardDebt_eq.trans h.rewardDebt_eq
      voteCount_le := hsame.voteCount_le
      voteTally_le := hsame.voteTally_le }
  have hfits' : ProductsFit cfg (s.release amount) staker info' newStakedBalance :=
    ⟨hfits.unit_le, hfits.stake_le, hfits.localStake_le, hfits.released_le, hfits.due_le,
      hfits.balance_le, hfits.perShare_le, hfits.accrued_le, hfits.debt_le,
      hstake.symm ▸ hfits.votes_le, hfits.issuance_le⟩
  exact (updateStakeAndPayRewards_ok_iff hplain hsettleable hfits').trans
    (hsame.rewardsCover_iff amount)

/-- Using the locked balance leaves what a settlement goes by. -/
theorem Settleable.relocked (h : Settleable cfg s staker info) (amount : ℕ) (address : Address) :
    SettlesAs s.governance staker info
      ({ info with address := address }.relocked s.governance staker amount) := by
  unfold StakeInfo.relocked
  split
  · next hnone => exact ⟨rfl, rfl, Or.inl hnone.2, le_rfl, le_rfl⟩
  · exact ⟨rfl, rfl, Or.inr ⟨rfl, rfl⟩, h.voteCount_le, h.voteTally_le⟩

/-- A deposit is accepted where its locked part can be unlocked and the settlement is covered. -/
theorem reportStakeDeposited_ok_iff {address : Address} (hplain : PlainAsset cfg)
    (h : Settleable cfg s staker (s.stakerRecord staker))
    (hfits : ProductsFit cfg s staker (s.stakerRecord staker)
      ((s.stakerRecord staker).stakedBalance + amount))
    (haddress : ∀ info ∈ s.staking.stakerDetails.lookup staker, address = info.address) :
    (∃ s', reportStakeDeposited cfg s staker amount address = .ok s') ↔
      min amount (s.stakerRecord staker).lockedBalance ≤ s.staking.toWithdraw ∧
        RewardsCover cfg s staker (s.stakerRecord staker)
          ((s.stakerRecord staker).stakedBalance + amount) := by
  have hcheck := eq_address_iff.mpr haddress
  obtain ⟨address', hrecord⟩ := stakerRecord_getD s staker address
  have hsame := h.relocked amount address'
  have hsum : (s.stakerRecord staker).stakedBalance + amount ≤ u256Max :=
    (Nat.le_add_left _ _).trans hfits.stake_le
  rw [hrecord] at hcheck
  simp only [reportStakeDeposited, hrecord, bind_eq_ok, guard_eq_ok, exists_const, okOr_eq_ok,
    Checked.add_eq_some, useLockedBalance_eq_ok_iff]
  generalize StakeInfo.relocked s.governance staker amount _ = used at hsame ⊢
  have hupdate := h.update_ok_iff hplain hfits hsame
    (min amount (s.stakerRecord staker).lockedBalance)
  have hstaked := hsame.stakedBalance_eq
  constructor
  · rintro ⟨s', -, _, ⟨hunlocked, rfl⟩, _, ⟨-, rfl⟩, r, hsettled, -⟩
    dsimp only at hsettled
    rw [hstaked] at hsettled
    exact ⟨hunlocked, hupdate.mp ⟨r, hsettled⟩⟩
  · rintro ⟨hunlocked, hcover⟩
    obtain ⟨r, hsettled⟩ := hupdate.mpr hcover
    rw [← hstaked] at hsettled hsum
    exact ⟨_, hcheck, _, ⟨hunlocked, rfl⟩, _, ⟨hsum, rfl⟩, r, hsettled, rfl⟩

/-- A withdrawal request is accepted where the settlement is covered. -/
theorem reportStakingWithdrawRequest_ok_iff {address : Address} (hplain : PlainAsset cfg)
    (hinfo : s.staking.stakerDetails.lookup staker = some info) (h : Settleable cfg s staker info)
    (hfits : ProductsFit cfg s staker info (info.stakedBalance - amount))
    (haddress : address = info.address) (hamount : amount ≤ info.stakedBalance)
    (hbalances : info.lockedBalance + info.stakedBalance ≤ u256Max)
    (htoWithdraw : s.staking.toWithdraw + info.stakedBalance ≤ u256Max) :
    (∃ s', reportStakingWithdrawRequest cfg s staker amount address = .ok s') ↔
      RewardsCover cfg s staker info (info.stakedBalance - amount) := by
  have hupdate := updateStakeAndPayRewards_ok_iff hplain h hfits
  simp only [reportStakingWithdrawRequest, bind_eq_ok, guard_eq_ok, exists_const, okOr_eq_ok,
    Checked.add_eq_some, hinfo, Option.some.injEq, exists_eq_left']
  constructor
  · rintro ⟨s', -, -, r, hsettled, -⟩
    exact hupdate.mp ⟨r, hsettled⟩
  · intro hcover
    obtain ⟨r, hsettled⟩ := hupdate.mpr hcover
    have hlocked := updateStakeAndPayRewards_locked hsettled
    have htotal := (updateStakeAndPayRewards_toWithdraw hsettled).1
    have hlock : r.1.lockedBalance + amount ≤ u256Max := by omega
    have htotalLock : r.2.staking.toWithdraw + amount ≤ u256Max := by omega
    exact ⟨_, haddress, hamount, r, hsettled, _, ⟨hlock, rfl⟩, _, ⟨htotalLock, rfl⟩, rfl⟩

/-- A slash takes the locked balance, as far as it goes, and settles the stake when it goes further. -/
theorem slashBalances_ok_iff (hplain : PlainAsset cfg) (h : Settleable cfg s staker info)
    (hfits : ∀ balance ∈ info.slashed amount, ProductsFit cfg s staker info balance)
    (hbalances : info.lockedBalance + info.stakedBalance ≤ u256Max) :
    (∃ r, slashBalances cfg s staker amount info = .ok r) ↔
      min amount info.lockedBalance ≤ s.staking.toWithdraw ∧
        ∀ balance ∈ info.slashed amount, RewardsCover cfg s staker info balance := by
  unfold slashBalances
  by_cases hcovered : amount ≤ info.lockedBalance
  · have hslashed : info.slashed amount = none := if_pos hcovered
    rw [if_pos hcovered, min_eq_left hcovered, hslashed]
    simp only [releaseLocked_pair_eq_ok]
    constructor
    · rintro ⟨r, hunlocked, -⟩
      exact ⟨hunlocked, fun balance hbalance ↦ absurd hbalance (Option.not_mem_none balance)⟩
    · rintro ⟨hunlocked, -⟩
      exact ⟨_, hunlocked, rfl⟩
  · have hslashed : info.slashed amount =
        some (info.stakedBalance - (amount - info.lockedBalance)) := if_neg hcovered
    rw [hslashed] at hfits
    rw [if_neg hcovered, min_eq_right (not_le.mp hcovered).le, hslashed]
    simp only [Option.mem_some_iff, forall_eq', bind_eq_ok, okOr_eq_ok, Checked.add_eq_some,
      hbalances, true_and, exists_eq_left'] at hfits ⊢
    by_cases hwithin : amount ≤ info.lockedBalance + info.stakedBalance
    · have hupdate := updateStakeAndPayRewards_ok_iff hplain h hfits
      have hlocked := (not_le.mp hcovered).le
      have hremainder : amount - info.lockedBalance ≤ info.stakedBalance := by omega
      simp only [if_pos hwithin, bind_eq_ok, okOr_eq_ok, Checked.sub_eq_some, releaseLocked_eq_ok]
      constructor
      · rintro ⟨r, _, ⟨-, rfl⟩, _, ⟨-, rfl⟩, settled, hsettled, _, ⟨hunlocked, -⟩, -⟩
        rw [(updateStakeAndPayRewards_toWithdraw hsettled).1] at hunlocked
        exact ⟨hunlocked, hupdate.mp ⟨settled, hsettled⟩⟩
      · rintro ⟨hunlocked, hcover⟩
        obtain ⟨settled, hsettled⟩ := hupdate.mpr hcover
        rw [← (updateStakeAndPayRewards_toWithdraw hsettled).1] at hunlocked
        exact ⟨_, _, ⟨hlocked, rfl⟩, _, ⟨hremainder, rfl⟩, settled, hsettled, _, ⟨hunlocked, rfl⟩, rfl⟩
    · have hzero : info.stakedBalance - (amount - info.lockedBalance) = 0 := by omega
      rw [hzero] at hfits ⊢
      have hupdate := h.update_ok_iff hplain hfits h.settlesAs info.lockedBalance
      simp only [if_neg hwithin, bind_eq_ok, releaseLocked_eq_ok]
      constructor
      · rintro ⟨r, _, ⟨hunlocked, rfl⟩, settled, hsettled, -⟩
        exact ⟨hunlocked, hupdate.mp ⟨settled, hsettled⟩⟩
      · rintro ⟨hunlocked, hcover⟩
        obtain ⟨settled, hsettled⟩ := hupdate.mpr hcover
        exact ⟨_, _, ⟨hunlocked, rfl⟩, settled, hsettled, rfl⟩

theorem reportSlash_ok_iff (hplain : PlainAsset cfg)
    (hinfo : s.staking.stakerDetails.lookup staker = some info) (h : Settleable cfg s staker info)
    (hfits : ∀ balance ∈ info.slashed amount, ProductsFit cfg s staker info balance)
    (hstake : 0 < info.stakedBalance + info.lockedBalance)
    (hbalances : info.lockedBalance + info.stakedBalance ≤ u256Max) :
    (∃ s', reportSlash cfg s staker amount = .ok s') ↔
      min amount info.lockedBalance ≤ s.staking.toWithdraw ∧
        ∀ balance ∈ info.slashed amount, RewardsCover cfg s staker info balance := by
  rw [← slashBalances_ok_iff hplain h hfits hbalances]
  simp only [reportSlash, bind_eq_ok, okOr_eq_ok, guard_eq_ok, exists_const, Checked.add_eq_some,
    hinfo, Option.some.injEq, exists_eq_left']
  constructor
  · rintro ⟨s', _, -, -, r, hslashed, -⟩
    exact ⟨r, hslashed⟩
  · rintro ⟨r, hslashed⟩
    rw [Nat.add_comm] at hbalances
    exact ⟨_, _, ⟨hbalances, rfl⟩, hstake, r, hslashed, rfl⟩

end Reports

/-! ## What runs establish -/

section Runs

variable {cfg : Config AccountId} {s s' : State AccountId} {staker : AccountId}
  {info info' : StakeInfo} {newStakedBalance : ℕ} {settled : Option ℕ}

theorem updateStakeAndPayRewards_time
    (h : updateStakeAndPayRewards cfg s staker info newStakedBalance = .ok (info', s')) :
    s'.staking.timeOfLastAllocation = s.now := by
  obtain ⟨u, st, st₁, stake', -, hrewards, hpaid, hrestaked, -⟩ := updateStakeAndPayRewards_eq_ok h
  rw [hrestaked.state_eq]
  rw [Staking.updateRewards_frame hrewards] at hpaid
  rcases hpaid with ⟨-, stake, pending, hpaid⟩ | ⟨-, -, hkept⟩
  · rw [hpaid.state_eq]
  · rw [hkept]

/-- A report allocates rewards at the current time, if at all. -/
theorem Reported.time_le {s₁ : State AccountId} {event : Event AccountId}
    (h : Reported cfg s staker settled info s₁ info' event s')
    (hinv : s.staking.timeOfLastAllocation ≤ s.now) :
    s'.staking.timeOfLastAllocation ≤ s.now := by
  have hend := h.invariant
    (fun after ↦ after.1.now = s.now ∧ after.1.staking.timeOfLastAllocation ≤ s.now) ?_ ⟨rfl, hinv⟩
  · rw [h.state_eq]
    exact hend.2
  · intro before after hbefore hmove
    refine ⟨(congrArg State.now hmove.frame :).trans hbefore.1, ?_⟩
    cases hmove with
    | settle hsettled hupdate =>
      rw [updateStakeAndPayRewards_time hupdate]
      exact hbefore.1.le
    | release hlocked htotal => exact hbefore.2
    | lock amount => exact hbefore.2
    | note startDate startVoteCount startVoteTally => exact hbefore.2

theorem StakingStep.time_le {input : Input AccountId} (h : StakingStep cfg s input s')
    (hinv : s.staking.timeOfLastAllocation ≤ s.now) :
    s'.staking.timeOfLastAllocation ≤ s.now := by
  cases h with
  | unchanged hstaking hbalance => rwa [hstaking]
  | rewarded hbalance hrewards hstaking =>
    rw [hstaking, Staking.updateRewards_frame hrewards]
  | submitted hstaker hledger hstaking =>
    rw [hstaking]
    exact hinv
  | reported haccepted hcall h => exact h.time_le hinv
  | withdrawn h =>
    rw [h.state_eq]
    exact hinv

/-- A payment that is protected leaves the minimum balance. -/
theorem RecordStep.minimum_le (hplain : PlainAsset cfg) {before after : State AccountId × StakeInfo}
    (h : RecordStep cfg staker settled before after)
    (hminimum : cfg.minimumBalance ≤ before.1.ledger cfg.stakingRewards) :
    cfg.minimumBalance ≤ after.1.ledger cfg.stakingRewards := by
  cases h with
  | settle hsettled h =>
    obtain ⟨u, st, st₁, stake', -, -, hpaid, -, -⟩ := updateStakeAndPayRewards_eq_ok h
    rcases hpaid with ⟨-, stake, pending, hpaid⟩ | ⟨-, hledger, -⟩
    · obtain ⟨⟨hcovered, -, hpermits⟩, hmoved⟩ := (transfer_eq_ok cfg).mp hpaid.transferred
      have hleft := (hplain.protects _ _ _ _ hminimum).mp hpermits
      have hadd := Ledger.move_add _ staker cfg.stakingRewards hcovered
      rw [hmoved, if_pos rfl] at hadd
      dsimp only at hleft ⊢
      omega
    · rwa [hledger]
  | release hlocked htotal => exact hminimum
  | lock amount => exact hminimum
  | note startDate startVoteCount startVoteTally => exact hminimum

theorem StakingStep.minimum_le {input : Input AccountId} (h : StakingStep cfg s input s')
    (hplain : PlainAsset cfg) (hminimum : cfg.minimumBalance ≤ s.ledger cfg.stakingRewards) :
    cfg.minimumBalance ≤ s'.ledger cfg.stakingRewards := by
  cases h with
  | unchanged hstaking hbalance => exact hminimum.trans hbalance
  | rewarded hbalance hrewards hstaking => exact hminimum.trans hbalance
  | submitted hstaker hledger hstaking => rwa [hledger]
  | reported haccepted hcall h =>
    have hend := h.invariant (fun after ↦ cfg.minimumBalance ≤ after.1.ledger cfg.stakingRewards)
      (fun _ _ hbefore hmove ↦ hmove.minimum_le hplain hbefore) hminimum
    rw [h.state_eq]
    exact hend
  | withdrawn h =>
    rw [h.state_eq]
    exact hminimum

/-- Registration leaves the minimum balance in the staking rewards account. -/
theorem register_minimum_le {send : Sender} {gasLimit : Option ℕ}
    (h : register cfg send s gasLimit = .ok s') :
    cfg.minimumBalance ≤ s'.ledger cfg.stakingRewards := by
  simp only [register, List.foldlM_cons, List.foldlM_nil, bind_eq_ok, pure_eq_ok,
    State.sendXcm_eq_ok] at h
  obtain ⟨_, ⟨first, -, second, hfunded, third, hlast, rfl⟩, location, -, interior, -, message, -, -,
    rfl⟩ := h
  have hkept : second cfg.stakingRewards ≤ third cfg.stakingRewards := by
    unfold fundAccount at hlast
    split at hlast
    · exact le_of_transfer hlast cfg.account_ne_stakingRewards.symm
    · rw [Except.ok.inj hlast]
  have hminimum : cfg.minimumBalance ≤ second cfg.stakingRewards := by
    unfold fundAccount at hfunded
    split at hfunded
    · rw [transfer_dest_eq hfunded cfg.account_ne_stakingRewards]
      exact Nat.le_add_left _ _
    · next henough =>
      rw [← Except.ok.inj hfunded]
      exact not_lt.mp henough
  exact hminimum.trans hkept

/-- In every state reached the rewards were allocated by now. -/
theorem Reachable.time_le (h : Reachable cfg s) : s.staking.timeOfLastAllocation ≤ s.now := by
  apply h.invariant fun s ↦ s.staking.timeOfLastAllocation ≤ s.now
  · rintro s₀ ⟨ledger, blockNumber, now, -, rfl⟩
    exact Nat.zero_le _
  · intro s₀ input s₁ hinv heffect
    have hnow : s₀.now ≤ s₁.now := heffect.roundInvariant (fun mid ↦ s₀.now ≤ mid.now)
      (fun _ _ hmid hmove ↦ hmid.trans hmove.now_le) le_rfl
    exact (heffect.stakingStep.time_le hinv).trans hnow

theorem Registered.reachable (h : Registered cfg s) : Reachable cfg s := by
  obtain ⟨s₀, send, gasLimit, hreachable, -, hrun⟩ := h
  have hadmitted : Admissible cfg s₀ (.extrinsic send .register (.register gasLimit)) :=
    fun _ _ hsigned ↦ nomatch hsigned
  obtain ⟨first, hgenesis, hreaches⟩ := hreachable.step cfg hadmitted
  exact ⟨first, hgenesis, hreaches.trans hrun⟩

theorem Registered.minimum_le (h : Registered cfg s) (hplain : PlainAsset cfg) :
    cfg.minimumBalance ≤ s.ledger cfg.stakingRewards := by
  obtain ⟨s₀, send, gasLimit, hreachable, haccepted, hrun⟩ := h
  have hstep : ∀ s input, cfg.minimumBalance ≤ s.ledger cfg.stakingRewards →
      Admissible cfg s input → cfg.minimumBalance ≤ (step cfg input s).ledger cfg.stakingRewards :=
    fun s input hminimum hadmitted ↦ (step_effect hadmitted).stakingStep.minimum_le hplain hminimum
  apply @Reaches.invariant _ _ _ _ (fun s ↦ cfg.minimumBalance ≤ s.ledger cfg.stakingRewards) hstep
    _ _ hrun
  obtain ⟨s₁, hdispatch⟩ := exists_eq_ok haccepted
  obtain ⟨_, -, hregister⟩ := bind_eq_ok.mp hdispatch
  change _ ≤ (applyCall cfg send s₀ .register (.register gasLimit)).ledger _
  rw [applyCall, hdispatch]
  exact register_minimum_le hregister

/-- After registration every stake is ready to be settled. -/
theorem Registered.settleable (h : Registered cfg s) (hplain : PlainAsset cfg) (staker : AccountId) :
    Settleable cfg s staker (s.stakerRecord staker) := by
  obtain ⟨hcount, htally⟩ := h.reachable.votesStarted.stakerRecord staker
  exact ⟨h.reachable.totals, h.reachable.debtsAccrued hplain.balanceMax_eq, h.reachable.time_le,
    h.minimum_le hplain, rfl, rfl, hcount, htally⟩

end Runs

theorem reportCovered_iff {cfg : Config AccountId} {s : State AccountId} {call : Call AccountId}
    {reporter : AccountId} (hcall : call.staker = some reporter) :
    ReportCovered cfg s call ↔ call.unlocked (s.stakerRecord reporter) ≤ s.staking.toWithdraw ∧
      ∀ balance ∈ call.settledBalance (s.stakerRecord reporter),
        RewardsCover cfg s reporter (s.stakerRecord reporter) balance := by
  constructor
  · intro hcovered
    exact ⟨hcovered.unlocked_le reporter hcall, hcovered.rewards reporter hcall⟩
  · rintro ⟨hunlocked, hrewards⟩
    refine ⟨fun other hother ↦ ?_, fun other hother ↦ ?_⟩
    · cases hcall.symm.trans hother
      exact hunlocked
    · cases hcall.symm.trans hother
      exact hrewards

/-- In every run in which the pallet was registered, a deposit, withdrawal request or slash that passes
its checks, with amounts that fit, is accepted exactly when the amount to withdraw covers what it
unlocks and the staking rewards account covers its settlement. -/
theorem report_accepted_iff {cfg : Config AccountId} (hplain : PlainAsset cfg)
    {s : State AccountId} (h : Registered cfg s) (send : Sender) {call : Call AccountId}
    (hchecks : call.PassesChecks s) (hfits : ReportFits cfg s call) :
    (dispatch cfg send s .staking call).isOk = true ↔ ReportCovered cfg s call := by
  rw [isOk_iff_exists]
  cases call with
  | reportStakeDeposited reporter amount address =>
    have haccepted := reportStakeDeposited_ok_iff hplain (h.settleable hplain reporter)
      (hfits.products reporter rfl _ rfl) hchecks
    rw [reportCovered_iff rfl]
    change (∃ s', reportStakeDeposited cfg s reporter amount address = .ok s') ↔ _
    rw [haccepted]
    simp [Call.unlocked, Call.settledBalance]
  | reportStakingWithdrawRequest reporter amount address =>
    obtain ⟨info, hinfo, haddress, hamount⟩ := hchecks
    have hrecord := stakerRecord_eq hinfo
    have haccepted := reportStakingWithdrawRequest_ok_iff hplain hinfo
      (hrecord ▸ h.settleable hplain reporter) (hrecord ▸ hfits.products reporter rfl _ rfl) haddress
      hamount (hrecord ▸ hfits.balances_le reporter rfl) (hrecord ▸ hfits.toWithdraw_le reporter rfl)
    rw [reportCovered_iff rfl, hrecord]
    change (∃ s', reportStakingWithdrawRequest cfg s reporter amount address = .ok s') ↔ _
    rw [haccepted]
    simp [Call.unlocked, Call.settledBalance]
  | reportSlash reporter amount =>
    obtain ⟨info, hinfo, hstake⟩ := hchecks
    have hrecord := stakerRecord_eq hinfo
    have haccepted := reportSlash_ok_iff hplain hinfo (hrecord ▸ h.settleable hplain reporter)
      (hrecord ▸ hfits.products reporter rfl) hstake (hrecord ▸ hfits.balances_le reporter rfl)
    rw [reportCovered_iff rfl, hrecord]
    exact haccepted
  | _ => exact hchecks.elim

namespace Mock

def registration : Input ℕ := .extrinsic send .register (.register none)

/-- After registration a staker deposits and rewards are added, some time before the next block. -/
def rewarded (amount seconds : ℕ) : List (Input ℕ) :=
  registration ::
    [deposit 7, .extrinsic send (.signed 5) (.addStakingRewards amount), block seconds]

/-- The staker then requests the withdrawal of one unit. -/
def request : Call ℕ := .reportStakingWithdrawRequest 7 1 9

theorem request_passesChecks {s : State ℕ} (h : ∃ info ∈ s.staking.stakerDetails.lookup 7,
    9 = info.address ∧ 1 ≤ info.stakedBalance) : request.PassesChecks s := h

theorem plainAsset : PlainAsset config := by
  refine ⟨rfl, fun ledger source dest amount hminimum ↦ ?_⟩
  change 1 ≤ ledger source at hminimum
  change decide _ = true ↔ 1 + amount ≤ ledger source
  rw [decide_eq_true_iff]
  constructor
  · rintro (hzero | ⟨-, hprotected⟩)
    · omega
    · have hleft := hprotected rfl
      omega
  · intro hleft
    by_cases hzero : amount = 0
    · exact Or.inl hzero
    · exact Or.inr ⟨by omega, fun _ ↦ by omega⟩

theorem registered_run (inputs : List (Input ℕ))
    (h : AdmitsAll (step config) (Admissible config) (registration :: inputs) genesis) :
    Registered config (run (step config) (registration :: inputs) genesis) := by
  have haccepted : (dispatch config send genesis .register (.register none)).isOk = true := by
    decide +kernel
  have hrun : Reaches (step config) (Admissible config) (step config registration genesis)
      (run (step config) inputs (step config registration genesis)) :=
    reaches_run inputs _ h.2
  rw [run, List.foldl_cons]
  exact ⟨genesis, send, none, reachableBy_run [] trivial, haccepted, hrun⟩

end Mock

/-- Ten days after the rewards were added, the request is accepted. -/
theorem report_accepted_request :
    (dispatch Mock.config Mock.send
      (run (step Mock.config) (Mock.rewarded (100 * (30 * days)) (10 * days)) Mock.genesis) .staking
      Mock.request).isOk = true :=
  (report_accepted_iff Mock.plainAsset (Mock.registered_run _ (by decide +kernel)) Mock.send
    (Mock.request_passesChecks (by decide +kernel)) (by decide +kernel)).mpr (by decide +kernel)

/-- A day after the rewards ran out the staker is owed the whole balance, and its request is refused. -/
theorem report_refused : ∃ s, PlainAsset Mock.config ∧ Registered Mock.config s ∧
    Mock.request.PassesChecks s ∧ ReportFits Mock.config s Mock.request ∧
      (dispatch Mock.config Mock.send s .staking Mock.request).isOk = false :=
  ⟨run (step Mock.config) (Mock.rewarded (100 * (30 * days) - 1) (31 * days)) Mock.genesis,
    Mock.plainAsset, Mock.registered_run _ (by decide +kernel),
    Mock.request_passesChecks (by decide +kernel), by decide +kernel, by decide +kernel⟩

end TellorPallet
