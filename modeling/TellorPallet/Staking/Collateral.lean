import TellorPallet.Governance.Runs
import TellorPallet.Staking.Runs
import TellorPallet.Staking.Slashing

/-!
# The stake behind a report

What is staked when a value is submitted cannot be withdrawn for the withdrawal period of seven days: a
request only locks it and restarts the period, and a deposit only moves it back. Until then the reporter can
lose the stake to slashes alone, so that the whole of it stays within reach of a dispute of the value.
-/

namespace TellorPallet

open Outcome Transition

variable {AccountId : Type} [DecidableEq AccountId]

/-- How long a requested withdrawal waits. -/
def withdrawalPeriod : ℕ := 7 * days

/-! ## Moves of one stake -/

/-- What an input can do to the stake in a staker's record, with the amount it slashes. -/
inductive StakeMove (now : ℕ) (info info' : StakeInfo) : ℕ → Prop where
  | kept (hstaked : info'.stakedBalance = info.stakedBalance)
      (hlocked : info'.lockedBalance = info.lockedBalance) (hdate : info'.startDate = info.startDate) :
      StakeMove now info info' 0
  /-- A deposit restakes locked tokens first. -/
  | deposited (amount : ℕ) (hstaked : info'.stakedBalance = info.stakedBalance + amount)
      (hlocked : info'.lockedBalance = info.lockedBalance - amount) (hdate : info'.startDate = now) :
      StakeMove now info info' 0
  | requested (amount : ℕ) (hstaked : info'.stakedBalance + amount = info.stakedBalance)
      (hlocked : info'.lockedBalance = info.lockedBalance + amount) (hdate : info'.startDate = now) :
      StakeMove now info info' 0
  | withdrawn (hperiod : info.startDate + withdrawalPeriod ≤ now)
      (hstaked : info'.stakedBalance = info.stakedBalance) (hdate : info'.startDate = info.startDate) :
      StakeMove now info info' 0
  | slashed (amount : ℕ) (hstaked : info.stakedBalance ≤ info'.stakedBalance + amount)
      (htotal : info.stakedBalance + info.lockedBalance ≤
        info'.stakedBalance + info'.lockedBalance + amount)
      (hdate : info'.startDate = info.startDate) : StakeMove now info info' amount

/-- At least `stake` was staked at the time `since`, of which `slashed` was slashed; the rest is staked, or
locked since that time. -/
structure Collateral (since stake slashed : ℕ) (info : StakeInfo) : Prop where
  covered : stake ≤ info.stakedBalance + info.lockedBalance + slashed
  held : stake ≤ info.stakedBalance + slashed ∨ since ≤ info.startDate

theorem Collateral.move {now since stake earlier slashed : ℕ} {info info' : StakeInfo}
    (hmove : StakeMove now info info' slashed) (hsince : since ≤ now)
    (hwithin : now < since + withdrawalPeriod) (h : Collateral since stake earlier info) :
    Collateral since stake (earlier + slashed) info' := by
  obtain ⟨hcovered, hheld⟩ := h
  cases hmove with
  | kept hstaked hlocked hdate =>
    rw [← hstaked, ← hlocked] at hcovered
    rw [← hstaked, ← hdate] at hheld
    exact ⟨hcovered, hheld⟩
  | deposited amount hstaked hlocked hdate => exact ⟨by omega, Or.inr (hdate ▸ hsince)⟩
  | requested amount hstaked hlocked hdate => exact ⟨by omega, Or.inr (hdate ▸ hsince)⟩
  | withdrawn hperiod hstaked hdate =>
    -- a period that has passed began before the time of the stake
    have hstill : stake ≤ info.stakedBalance + earlier := hheld.resolve_right (by omega)
    exact ⟨by omega, Or.inl (by omega)⟩
  | slashed amount hstaked htotal hdate => exact ⟨by omega, by omega⟩

/-! ## Moves of the machine -/

variable (cfg : Config AccountId)

/-- The amount that an input slashes a staker by: that of an accepted report, nothing otherwise. -/
def Input.slashes (staker : AccountId) (s : State AccountId) : Input AccountId → ℕ
  | .extrinsic send origin (.reportSlash reporter amount) =>
    if reporter = staker ∧ (dispatch cfg send s origin (.reportSlash reporter amount)).isOk then amount
    else 0
  | _ => 0

/-- The amounts a staker was slashed by during a run. -/
def slashing (staker : AccountId) : List (Input AccountId) → State AccountId → ℕ
  | [], _ => 0
  | input :: rest, s => input.slashes cfg staker s + slashing staker rest (step cfg input s)

section Steps

variable {cfg} {s s' : State AccountId} {staker reporter : AccountId} {info info' : StakeInfo} {amount : ℕ}

theorem updateStakeAndPayRewards_kept {newStakedBalance : ℕ}
    (h : updateStakeAndPayRewards cfg s reporter info newStakedBalance = .ok (info', s')) :
    info'.stakedBalance = newStakedBalance ∧ info'.lockedBalance = info.lockedBalance ∧
      info'.startDate = info.startDate ∧ s'.now = s.now ∧
      s'.staking.stakerDetails = s.staking.stakerDetails := by
  obtain ⟨-, hdetails⟩ := updateStakeAndPayRewards_toWithdraw h
  obtain ⟨u, st, st₁, stake', -, -, -, hrestaked, hstate⟩ := updateStakeAndPayRewards_eq_ok h
  refine ⟨(updateStakeAndPayRewards_totalStakeAmount h).1, updateStakeAndPayRewards_locked h, ?_, ?_,
    hdetails⟩
  · rw [hrestaked.info_eq]
  · rw [hstate]

/-- A report stores the record of its reporter and no other. -/
theorem stakerDetails_putStaker {s₁ : State AccountId} {event : Event AccountId}
    (hdetails : s₁.staking.stakerDetails = s.staking.stakerDetails) (staker : AccountId) :
    ((s₁.putStaker reporter info).depositEvent event).staking.stakerDetails.lookup staker =
      if staker = reporter then some info else s.staking.stakerDetails.lookup staker := by
  rw [← hdetails]
  exact FiniteMap.lookup_insert_ite _ _ _ _

theorem stakeMove_of_reportStakeDeposited {address : Address}
    (hinfo : s.staking.stakerDetails.lookup staker = some info)
    (h : reportStakeDeposited cfg s reporter amount address = .ok s') :
    ∃ info', s'.staking.stakerDetails.lookup staker = some info' ∧ StakeMove s.now info info' 0 := by
  simp only [reportStakeDeposited, bind_eq_ok, okOr_eq_ok, Checked.add_eq_some,
    useLockedBalance_eq_ok_iff] at h
  obtain ⟨_, -, _, ⟨-, rfl⟩, _, ⟨-, rfl⟩, ⟨settled, s₁⟩, hsettle, h⟩ := h
  cases h
  obtain ⟨hstaked, hlocked, -, hnow, hdetails⟩ := updateStakeAndPayRewards_kept hsettle
  rw [stakerDetails_putStaker hdetails]
  split
  · next heq =>
    rw [heq] at hinfo
    rw [hinfo, Option.getD_some, StakeInfo.relocked_stakedBalance] at hstaked
    rw [hinfo, Option.getD_some, StakeInfo.relocked_lockedBalance] at hlocked
    exact ⟨_, rfl, .deposited amount hstaked hlocked hnow⟩
  · exact ⟨info, hinfo, .kept rfl rfl rfl⟩

theorem stakeMove_of_reportStakingWithdrawRequest {address : Address}
    (hinfo : s.staking.stakerDetails.lookup staker = some info)
    (h : reportStakingWithdrawRequest cfg s reporter amount address = .ok s') :
    ∃ info', s'.staking.stakerDetails.lookup staker = some info' ∧ StakeMove s.now info info' 0 := by
  simp only [reportStakingWithdrawRequest, bind_eq_ok, okOr_eq_ok, guard_eq_ok, exists_const,
    Checked.add_eq_some] at h
  obtain ⟨found, hfound, -, hle, ⟨settled, s₁⟩, hsettle, _, ⟨-, rfl⟩, _, ⟨-, rfl⟩, h⟩ := h
  cases h
  obtain ⟨hstaked, hlocked, -, hnow, hdetails⟩ := updateStakeAndPayRewards_kept hsettle
  let s₂ : State AccountId :=
    { s₁ with staking := { s₁.staking with toWithdraw := s₁.staking.toWithdraw + amount } }
  let requested : StakeInfo :=
    { settled with startDate := s₁.now, lockedBalance := settled.lockedBalance + amount }
  let event : Event AccountId := .stakeWithdrawRequestReported reporter amount address
  have hkept : s₂.staking.stakerDetails = s.staking.stakerDetails := hdetails
  have hstored : ((s₂.putStaker reporter requested).depositEvent event).staking.stakerDetails.lookup
      staker = if staker = reporter then some requested else s.staking.stakerDetails.lookup staker :=
    stakerDetails_putStaker hkept staker
  rw [hstored]
  split
  · next heq =>
    rw [heq, hfound] at hinfo
    cases hinfo
    have hunstaked : requested.stakedBalance + amount = info.stakedBalance := by
      change settled.stakedBalance + amount = info.stakedBalance
      rw [hstaked, Nat.sub_add_cancel hle]
    have hmoved : requested.lockedBalance = info.lockedBalance + amount :=
      congrArg (· + amount) hlocked
    exact ⟨_, rfl, .requested amount hunstaked hmoved hnow⟩
  · exact ⟨info, hinfo, .kept rfl rfl rfl⟩

theorem stakeMove_of_reportStakeWithdrawn
    (hinfo : s.staking.stakerDetails.lookup staker = some info)
    (h : Withdrawn s reporter amount info' s') :
    ∃ info', s'.staking.stakerDetails.lookup staker = some info' ∧ StakeMove s.now info info' 0 := by
  rw [h.state_eq, stakerDetails_putStaker rfl]
  split
  · next heq =>
    rw [heq, h.record_eq] at hinfo
    cases hinfo
    exact ⟨_, rfl, .withdrawn h.period_passed rfl rfl⟩
  · exact ⟨info, hinfo, .kept rfl rfl rfl⟩

theorem slashBalances_startDate (h : slashBalances cfg s reporter amount info = .ok (info', s')) :
    info'.startDate = info.startDate := by
  unfold slashBalances at h
  split at h
  · obtain ⟨-, hr⟩ := releaseLocked_pair_eq_ok.mp h
    obtain ⟨rfl, rfl⟩ := Prod.mk.inj hr
    rfl
  · simp only [bind_eq_ok, okOr_eq_ok] at h
    obtain ⟨_, -, h⟩ := h
    split at h
    · simp only [bind_eq_ok, releaseLocked_eq_ok] at h
      obtain ⟨_, -, _, -, ⟨settled, s₁⟩, hsettle, _, -, h⟩ := h
      cases h
      exact (updateStakeAndPayRewards_kept hsettle).2.2.1
    · simp only [bind_eq_ok, releaseLocked_eq_ok] at h
      obtain ⟨_, -, ⟨settled, s₁⟩, hsettle, h⟩ := h
      cases h
      exact (updateStakeAndPayRewards_kept hsettle).2.2.1

theorem stakeMove_of_reportSlash (hinfo : s.staking.stakerDetails.lookup staker = some info)
    (h : reportSlash cfg s reporter amount = .ok s') :
    ∃ info', s'.staking.stakerDetails.lookup staker = some info' ∧
      StakeMove s.now info info' (if reporter = staker then amount else 0) := by
  simp only [reportSlash, bind_eq_ok, okOr_eq_ok, guard_eq_ok, exists_const] at h
  obtain ⟨found, hfound, _, -, -, ⟨slashed, s₁⟩, hslashed, h⟩ := h
  cases h
  obtain ⟨htaken, hdetails⟩ := slashBalances_taken hslashed
  rw [stakerDetails_putStaker hdetails]
  split
  · next heq =>
    rw [heq, hfound] at hinfo
    cases hinfo
    rw [if_pos heq.symm]
    have hlocked : slashed.lockedBalance + min info.lockedBalance amount = info.lockedBalance :=
      htaken.lockedBalance_eq
    have hstaked : slashed.stakedBalance +
        min info.stakedBalance (amount - min info.lockedBalance amount) = info.stakedBalance :=
      htaken.stakedBalance_eq
    have hloss : info.stakedBalance ≤ slashed.stakedBalance + amount := by omega
    have htotal : info.stakedBalance + info.lockedBalance ≤
        slashed.stakedBalance + slashed.lockedBalance + amount := by omega
    exact ⟨slashed, rfl, .slashed amount hloss htotal (slashBalances_startDate hslashed)⟩
  · next hne =>
    rw [if_neg (Ne.symm hne)]
    exact ⟨info, hinfo, .kept rfl rfl rfl⟩

/-- An input that is no report of the staking contract keeps all stakes. -/
theorem StakingStep.stakeMove {input : Input AccountId} (h : StakingStep cfg s input s')
    (hreport : ∀ send origin call, input = .extrinsic send origin call → call.reportsStake = false)
    (hinfo : s.staking.stakerDetails.lookup staker = some info) :
    ∃ info', s'.staking.stakerDetails.lookup staker = some info' ∧ StakeMove s.now info info' 0 := by
  cases h with
  | unchanged hstaking hbalance => exact ⟨info, by rw [hstaking, hinfo], .kept rfl rfl rfl⟩
  | rewarded hbalance hrewards hstaking hrate =>
    refine ⟨info, ?_, .kept rfl rfl rfl⟩
    rw [hstaking, Staking.updateRewards_frame hrewards]
    exact hinfo
  | @submitted _ _ reporter queryId found hfound hledger hstaking =>
    have hstored : s'.staking.stakerDetails =
        s.staking.stakerDetails.insert reporter (found.reported s.now) :=
      congrArg Staking.stakerDetails hstaking
    rw [hstored, FiniteMap.lookup_insert_ite]
    split
    · next heq =>
      rw [heq, hfound] at hinfo
      cases hinfo
      exact ⟨_, rfl, .kept rfl rfl rfl⟩
    · exact ⟨info, hinfo, .kept rfl rfl rfl⟩
  | @reported _ call _ _ _ _ _ _ haccepted hcall h =>
    have hnone := hreport _ _ _ rfl
    cases call with
    | reportStakeDeposited reporter amount address => cases hnone
    | reportStakingWithdrawRequest reporter amount address => cases hnone
    | reportSlash reporter amount => cases hnone
    | _ => cases hcall
  | withdrawn h => cases hreport _ _ _ rfl

theorem stakeMove_of_dispatch {send : Sender} {origin : Origin AccountId} {call : Call AccountId}
    (hadmits : Admissible cfg s (.extrinsic send origin call))
    (h : dispatch cfg send s origin call = .ok s')
    (hinfo : s.staking.stakerDetails.lookup staker = some info) :
    ∃ info', s'.staking.stakerDetails.lookup staker = some info' ∧
      StakeMove s.now info info' (Input.slashes cfg staker s (.extrinsic send origin call)) := by
  cases hreport : call.reportsStake with
  | false =>
    have hslashes : Input.slashes cfg staker s (.extrinsic send origin call) = 0 := by
      cases call with
      | reportSlash reporter amount => cases hreport
      | _ => rfl
    rw [hslashes]
    refine (dispatch_effect hadmits h).stakingStep.stakeMove (fun _ _ _ heq ↦ ?_) hinfo
    cases heq
    exact hreport
  | true =>
    cases call with
    | reportStakeDeposited reporter amount address =>
      obtain ⟨_, -, h⟩ := bind_eq_ok.mp h
      exact stakeMove_of_reportStakeDeposited hinfo h
    | reportStakingWithdrawRequest reporter amount address =>
      obtain ⟨_, -, h⟩ := bind_eq_ok.mp h
      exact stakeMove_of_reportStakingWithdrawRequest hinfo h
    | reportStakeWithdrawn reporter amount =>
      obtain ⟨_, -, h⟩ := bind_eq_ok.mp h
      obtain ⟨_, hwithdrawn⟩ := reportStakeWithdrawn_withdrawn h
      exact stakeMove_of_reportStakeWithdrawn hinfo hwithdrawn
    | reportSlash reporter amount =>
      have hslashes : Input.slashes cfg staker s (.extrinsic send origin (.reportSlash reporter amount)) =
          if reporter = staker then amount else 0 := by
        rw [Input.slashes, h]
        simp [Except.isOk, Except.toBool]
      rw [hslashes]
      obtain ⟨_, -, h⟩ := bind_eq_ok.mp h
      exact stakeMove_of_reportSlash hinfo h
    | _ => cases hreport

/-- Every input makes one move of each stake. -/
theorem stakeMove_of_step {input : Input AccountId} (hadmits : Admissible cfg s input)
    (hinfo : s.staking.stakerDetails.lookup staker = some info) :
    ∃ info', (step cfg input s).staking.stakerDetails.lookup staker = some info' ∧
      StakeMove s.now info info' (input.slashes cfg staker s) := by
  cases input with
  | newBlock blockNumber now => exact ⟨info, hinfo, .kept rfl rfl rfl⟩
  | onInitialize send => exact (step_effect hadmits).stakingStep.stakeMove (fun _ _ _ ↦ nofun) hinfo
  | external account balance => exact ⟨info, hinfo, .kept rfl rfl rfl⟩
  | extrinsic send origin call =>
    rw [step, applyCall]
    cases hdispatch : dispatch cfg send s origin call with
    | ok s' => exact stakeMove_of_dispatch hadmits hdispatch hinfo
    | error error =>
      have hslashes : Input.slashes cfg staker s (.extrinsic send origin call) = 0 := by
        cases call with
        | reportSlash reporter amount =>
          rw [Input.slashes, hdispatch]
          simp [Except.isOk, Except.toBool]
        | _ => rfl
      rw [hslashes]
      exact ⟨info, hinfo, .kept rfl rfl rfl⟩

theorem now_le_step {input : Input AccountId} (hadmits : Admissible cfg s input) :
    s.now ≤ (step cfg input s).now :=
  (step_effect hadmits).roundInvariant (fun mid ↦ s.now ≤ mid.now)
    (fun _ _ hmid hmove ↦ hmid.trans hmove.now_le) le_rfl

theorem now_le_run {inputs : List (Input AccountId)}
    (hadmits : AdmitsAll (step cfg) (Admissible cfg) inputs s) : s.now ≤ (run (step cfg) inputs s).now := by
  induction inputs generalizing s with
  | nil => exact le_rfl
  | cons input rest ih => exact (now_le_step hadmits.1).trans (ih hadmits.2)

/-- The collateral of a stake lasts for the withdrawal period. -/
theorem Collateral.of_run {since stake earlier : ℕ} {inputs : List (Input AccountId)}
    (hadmits : AdmitsAll (step cfg) (Admissible cfg) inputs s) (hsince : since ≤ s.now)
    (hwithin : (run (step cfg) inputs s).now < since + withdrawalPeriod)
    (hinfo : s.staking.stakerDetails.lookup staker = some info)
    (h : Collateral since stake earlier info) :
    ∃ info', (run (step cfg) inputs s).staking.stakerDetails.lookup staker = some info' ∧
      Collateral since stake (earlier + slashing cfg staker inputs s) info' := by
  induction inputs generalizing s info earlier with
  | nil => exact ⟨info, hinfo, h⟩
  | cons input rest ih =>
    have hlater : s.now ≤ (run (step cfg) (input :: rest) s).now := now_le_run hadmits
    obtain ⟨info', hinfo', hmove⟩ := stakeMove_of_step hadmits.1 hinfo
    have hmoved := h.move hmove hsince (hlater.trans_lt hwithin)
    obtain ⟨last, hlast, hcollateral⟩ := ih hadmits.2 (hsince.trans (now_le_step hadmits.1)) hwithin hinfo'
      hmoved
    rw [Nat.add_assoc] at hcollateral
    exact ⟨last, hlast, hcollateral⟩

/-- For seven days after a value is submitted, all that its reporter had staked then, which is at least the
stake amount, is still staked or locked, or was slashed. -/
theorem collateral_of_submission {send : Sender} {queryId : QueryId} {value : Value} {nonce : ℕ}
    {queryData : QueryData} {inputs : List (Input AccountId)}
    (h : dispatch cfg send s (.signed reporter) (.submitValue queryId value nonce queryData) = .ok s')
    (hadmits : AdmitsAll (step cfg) (Admissible cfg) inputs s')
    (hwithin : (run (step cfg) inputs s').now < s.now + withdrawalPeriod) :
    ∃ info info', s.staking.stakerDetails.lookup reporter = some info ∧
      s.prices.stakeAmount ≤ info.stakedBalance ∧
      (run (step cfg) inputs s').staking.stakerDetails.lookup reporter = some info' ∧
      info.stakedBalance ≤
        info'.stakedBalance + info'.lockedBalance + slashing cfg reporter inputs s' := by
  obtain ⟨account, horigin, hsubmit⟩ := bind_eq_ok.mp h
  cases horigin
  obtain ⟨info, hsubmission⟩ := submitValue_submission hsubmit
  have hnow : s'.now = s.now := (congrArg State.now hsubmission.state_eq :)
  have hinfo : s'.staking.stakerDetails.lookup reporter = some (info.reported s.now) := by
    rw [hsubmission.state_eq]
    exact Finmap.lookup_insert _
  have hstart : Collateral s'.now info.stakedBalance 0 (info.reported s.now) :=
    ⟨Nat.le_add_right _ _, Or.inl le_rfl⟩
  rw [← hnow] at hwithin
  obtain ⟨info', hinfo', hcollateral⟩ := hstart.of_run hadmits le_rfl hwithin hinfo
  rw [Nat.zero_add] at hcollateral
  exact ⟨info, info', hsubmission.staker_eq, hsubmission.stakeAmount_le, hinfo', hcollateral.covered⟩

/-- A reporter requests to withdraw 60 of 100 staked tokens and is slashed by 50 within the week. -/
theorem collateral_of_submission_slashed :
    let s := run (step Mock.config) [Mock.deposit 7, Mock.block 10] Mock.genesis
    let s' := step Mock.config (Mock.submit 7) s
    let inputs := [.extrinsic Mock.send .staking (.reportStakingWithdrawRequest 7 (60 * 10 ^ 18) 9),
      Mock.block (6 * days), .extrinsic Mock.send .staking (.reportSlash 7 (50 * 10 ^ 18))]
    slashing Mock.config 7 inputs s' = 50 * 10 ^ 18 ∧
      ∃ info info', s.staking.stakerDetails.lookup 7 = some info ∧
        s.prices.stakeAmount ≤ info.stakedBalance ∧
        (run (step Mock.config) inputs s').staking.stakerDetails.lookup 7 = some info' ∧
        info.stakedBalance ≤
          info'.stakedBalance + info'.lockedBalance + slashing Mock.config 7 inputs s' := by
  intro s s' inputs
  have haccepted : (dispatch Mock.config Mock.send s (.signed 7)
      (.submitValue Mock.queryId [1] 0 [])).isOk = true := by decide +kernel
  obtain ⟨later, hlater⟩ := isOk_iff_exists.mp haccepted
  have hstep : s' = later := by
    change applyCall Mock.config Mock.send s (.signed 7) (.submitValue Mock.queryId [1] 0 []) = later
    rw [applyCall, hlater]
  exact ⟨by decide +kernel, collateral_of_submission (hstep ▸ hlater) (by decide +kernel)
    (by decide +kernel)⟩

end Steps

end TellorPallet
