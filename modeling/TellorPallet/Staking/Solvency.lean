import TellorPallet.Runtime.Mock
import TellorPallet.Staking.Totals

/-!
# Solvency of the staking rewards

What the stakers could be owed against the balance of the staking rewards account. An update of the
accumulator never promises more than the account holds, and a settled stake starts from a debt equal
to what it has accrued, as long as that debt fits the cast it is stored through.
-/

namespace TellorPallet

open Outcome Transition

variable {AccountId : Type} [DecidableEq AccountId] {cfg : Config AccountId}

/-- What a stake has accrued at an accumulated reward per share. -/
def accruedAt (cfg : Config AccountId) (perShare stakedBalance : ℕ) : ℕ :=
  match convert cfg stakedBalance, unit cfg with
  | .ok stake, .ok unit => stake * perShare / unit
  | _, _ => 0

/-- What a staker could be owed. -/
def Staking.owed (cfg : Config AccountId) (st : Staking AccountId) (info : StakeInfo) : ℕ :=
  accruedAt cfg st.accumulatedRewardPerShare info.stakedBalance - info.rewardDebt

/-! ## Conversions -/

section Convert

omit [DecidableEq AccountId]

variable {amount stake u perShare : ℕ}

theorem unit_eq_ok (h : unit cfg = .ok u) : u = 10 ^ cfg.decimals := by
  simp only [unit, okOr_eq_ok, Checked.pow_eq_some] at h
  exact h.2.symm

theorem unit_pos (h : unit cfg = .ok u) : 0 < u := by
  rw [unit_eq_ok h]
  positivity

/-- A stake amount in the decimals of the local asset, rounded down. -/
def localAmount (decimals amount : ℕ) : ℕ :=
  if decimals < trbDecimals then amount / 10 ^ (trbDecimals - decimals)
  else amount * 10 ^ (decimals - trbDecimals)

theorem convert_eq_ok (h : convert cfg amount = .ok stake) : stake = localAmount cfg.decimals amount := by
  unfold convert convertToDecimals at h
  unfold localAmount
  split at h
  · next hzero =>
    cases h
    simp [hzero]
  · split at h
    · next hless =>
      simp only [bind_eq_ok, okOr_eq_ok, Checked.pow_eq_some] at h
      obtain ⟨_, ⟨-, rfl⟩, h⟩ := h
      cases h
      rw [if_pos hless]
    · next hless =>
      rw [if_neg hless]
      split at h
      · simp only [bind_eq_ok, okOr_eq_ok, Checked.pow_eq_some, Checked.mul_eq_some] at h
        obtain ⟨_, ⟨-, rfl⟩, -, rfl⟩ := h
        rfl
      · next hmore =>
        cases h
        simp [Nat.sub_eq_zero_of_le (not_lt.mp hmore)]

theorem localAmount_mono (decimals : ℕ) {amount' : ℕ} (h : amount ≤ amount') :
    localAmount decimals amount ≤ localAmount decimals amount' := by
  unfold localAmount
  split
  · exact Nat.div_le_div_right h
  · exact Nat.mul_le_mul_right _ h

theorem unit_ok (h : 10 ^ cfg.decimals ≤ u128Max) : unit cfg = .ok (10 ^ cfg.decimals) := by
  simp [unit, Checked.pow, h, okOr]

/-- An amount is converted when it fits afterwards. -/
theorem convert_ok (h : localAmount cfg.decimals amount ≤ u256Max) :
    convert cfg amount = .ok (localAmount cfg.decimals amount) := by
  unfold convert convertToDecimals
  unfold localAmount at h ⊢
  by_cases hzero : amount = 0
  · rw [if_pos hzero, hzero, Nat.zero_div, Nat.zero_mul, ite_self]
  · rw [if_neg hzero]
    by_cases hless : cfg.decimals < trbDecimals
    · rw [if_pos hless, if_pos hless]
      have hscale : 10 ^ (trbDecimals - cfg.decimals) ≤ u256Max := by
        calc 10 ^ (trbDecimals - cfg.decimals) ≤ 10 ^ trbDecimals :=
              Nat.pow_le_pow_right (by decide) (Nat.sub_le _ _)
          _ ≤ u256Max := by decide
      simp [Checked.pow, hscale, okOr]
    · rw [if_neg hless] at h ⊢
      rw [if_neg hless]
      by_cases hmore : trbDecimals < cfg.decimals
      · have hscale : 10 ^ (cfg.decimals - trbDecimals) ≤ u256Max :=
          (Nat.le_mul_of_pos_left _ (Nat.pos_of_ne_zero hzero)).trans h
        simp [if_pos hmore, Checked.pow, Checked.mul, hscale, h, okOr]
      · rw [if_neg hmore, Nat.sub_eq_zero_of_le (not_lt.mp hmore), pow_zero, Nat.mul_one]

theorem accruedAt_eq (perShare : ℕ) (hstake : convert cfg amount = .ok stake) (hunit : unit cfg = .ok u) :
    accruedAt cfg perShare amount = stake * perShare / u := by
  simp only [accruedAt, hstake, hunit]

theorem accruedAt_zero : accruedAt cfg perShare 0 = 0 := by
  unfold accruedAt
  split
  · next stake unit hstake _ =>
    cases hstake
    rw [Nat.zero_mul, Nat.zero_div]
  · rfl

theorem accruedAt_le :
    accruedAt cfg perShare amount ≤
      localAmount cfg.decimals amount * perShare / 10 ^ cfg.decimals := by
  unfold accruedAt
  split
  · next stake unit hstake hunit => rw [convert_eq_ok hstake, unit_eq_ok hunit]
  · exact Nat.zero_le _

theorem accruedAt_mono {perShare' : ℕ} (h : perShare ≤ perShare') :
    accruedAt cfg perShare amount ≤ accruedAt cfg perShare' amount := by
  unfold accruedAt
  split
  · exact Nat.div_le_div_right (Nat.mul_le_mul_left _ h)
  · exact le_rfl

/-- Stakes converted one by one are worth no more than their sum converted. -/
theorem total_localAmount_le [DecidableEq AccountId] (m : FiniteMap AccountId StakeInfo)
    (decimals : ℕ) :
    (FiniteMap.total m fun _ info ↦ localAmount decimals info.stakedBalance) ≤
      localAmount decimals (FiniteMap.total m fun _ info ↦ info.stakedBalance) := by
  unfold localAmount
  split
  · exact FiniteMap.total_div_le _ _ _
  · exact (FiniteMap.total_mul _ _ _).le

/-- What all stakers have accrued is at most what the converted total stake has. -/
theorem total_accruedAt_le_localAmount [DecidableEq AccountId] (m : FiniteMap AccountId StakeInfo)
    (perShare : ℕ) :
    (FiniteMap.total m fun _ info ↦ accruedAt cfg perShare info.stakedBalance) ≤
      localAmount cfg.decimals (FiniteMap.total m fun _ info ↦ info.stakedBalance) * perShare /
        10 ^ cfg.decimals := by
  calc (FiniteMap.total m fun _ info ↦ accruedAt cfg perShare info.stakedBalance)
      ≤ FiniteMap.total m fun _ info ↦
          localAmount cfg.decimals info.stakedBalance * perShare / 10 ^ cfg.decimals :=
        FiniteMap.total_mono fun _ _ _ ↦ accruedAt_le
    _ ≤ (FiniteMap.total m fun _ info ↦
          localAmount cfg.decimals info.stakedBalance * perShare) / 10 ^ cfg.decimals :=
        FiniteMap.total_div_le _ _ _
    _ = (FiniteMap.total m fun _ info ↦ localAmount cfg.decimals info.stakedBalance) * perShare /
          10 ^ cfg.decimals := by
        rw [FiniteMap.total_mul]
    _ ≤ _ := Nat.div_le_div_right (Nat.mul_le_mul_right _ (total_localAmount_le m cfg.decimals))

theorem total_accruedAt_le [DecidableEq AccountId] {m : FiniteMap AccountId StakeInfo}
    (hunit : unit cfg = .ok u)
    (hstake : convert cfg (FiniteMap.total m fun _ info ↦ info.stakedBalance) = .ok stake) :
    (FiniteMap.total m fun _ info ↦ accruedAt cfg perShare info.stakedBalance) ≤
      stake * perShare / u := by
  rw [convert_eq_ok hstake, unit_eq_ok hunit]
  exact total_accruedAt_le_localAmount m perShare

end Convert

/-! ## The accumulator -/

namespace Staking

variable {st st' : Staking AccountId} {now rewardsBalance : ℕ}

/-- A share of `pending` per unit of `stake` brings the accrued rewards of `stake` up by at most
`pending`. -/
theorem accrued_add_le (perShare : ℕ) {share stake pending u : ℕ} (hu : 0 < u)
    (hshare : share ≤ pending * u / stake) :
    stake * (perShare + share) / u ≤ perShare * stake / u + pending := by
  have hmul : share * stake ≤ pending * u :=
    (Nat.mul_le_mul_right stake hshare).trans (Nat.div_mul_le_self _ _)
  calc stake * (perShare + share) / u ≤ (perShare * stake + pending * u) / u := by
        apply Nat.div_le_div_right
        nlinarith
    _ = perShare * stake / u + pending := Nat.add_mul_div_right _ _ hu

omit [DecidableEq AccountId] in
/-- Where an update moves the accumulator, what the total stake has accrued at the new one is covered
by the balance and the debts. -/
theorem updateRewards_covered (h : st.updateRewards cfg now rewardsBalance = .ok st') :
    st'.accumulatedRewardPerShare = st.accumulatedRewardPerShare ∨
      ∃ stake u, convert cfg st.totalStakeAmount = .ok stake ∧ unit cfg = .ok u ∧
        stake * st'.accumulatedRewardPerShare / u ≤ rewardsBalance + st.totalRewardDebt := by
  unfold updateRewards at h
  split at h
  · cases h
    exact Or.inl rfl
  · obtain ⟨stake, hstake, h⟩ := bind_eq_ok.mp h
    split at h
    · cases h
      exact Or.inl rfl
    · simp only [bind_eq_ok, okOr_eq_ok, accruedReward_eq_ok, Checked.add_eq_some,
        Checked.mul_eq_some, Checked.sub_eq_some] at h
      obtain ⟨u, hunit, _, -, released, -, scaled, -, _, ⟨-, rfl⟩, _, ⟨-, -, hdebt, rfl⟩, h⟩ := h
      refine Or.inr ⟨stake, u, hstake, hunit, ?_⟩
      split at h
      · -- the rewards run out: what is left of the balance is shared out
        simp only [bind_eq_ok, okOr_eq_ok, accruedReward_eq_ok, Checked.add_eq_some,
          Checked.mul_eq_some, Checked.sub_eq_some] at h
        obtain ⟨_, ⟨-, -, howed, rfl⟩, pending, ⟨hle, hpending⟩, _, ⟨-, rfl⟩, perShare,
          ⟨-, hperShare⟩, h⟩ := h
        cases h
        have hadd := accrued_add_le st.accumulatedRewardPerShare (unit_pos hunit)
          (u256ToBalance_le cfg (pending * u / stake))
        rw [hperShare] at hadd
        dsimp only
        omega
      · next hless =>
        cases h
        have hcast := u256ToBalance_le cfg (st.accumulatedRewardPerShare + scaled / stake)
        have hmono : stake * u256ToBalance cfg (st.accumulatedRewardPerShare + scaled / stake) / u ≤
            (st.accumulatedRewardPerShare + scaled / stake) * stake / u := by
          apply Nat.div_le_div_right
          rw [Nat.mul_comm _ stake]
          exact Nat.mul_le_mul_left _ hcast
        dsimp only
        omega

omit [DecidableEq AccountId] in
/-- The accumulator never decreases, and stays within the width of a balance. -/
theorem updateRewards_mono (hmax : cfg.balanceMax = u128Max)
    (hbound : st.accumulatedRewardPerShare ≤ u128Max)
    (h : st.updateRewards cfg now rewardsBalance = .ok st') :
    st.accumulatedRewardPerShare ≤ st'.accumulatedRewardPerShare ∧
      st'.accumulatedRewardPerShare ≤ u128Max := by
  unfold updateRewards at h
  split at h
  · cases h
    exact ⟨le_rfl, hbound⟩
  · obtain ⟨stake, -, h⟩ := bind_eq_ok.mp h
    split at h
    · cases h
      exact ⟨le_rfl, hbound⟩
    · simp only [bind_eq_ok, okOr_eq_ok, Checked.add_eq_some] at h
      obtain ⟨u, -, _, -, released, -, scaled, -, _, ⟨-, rfl⟩, _, -, h⟩ := h
      split at h
      · simp only [bind_eq_ok, okOr_eq_ok, Checked.add_eq_some] at h
        obtain ⟨_, -, pending, -, _, -, perShare, ⟨hle, rfl⟩, h⟩ := h
        cases h
        exact ⟨Nat.le_add_right _ _, hmax ▸ hle⟩
      · cases h
        dsimp only
        rw [u256ToBalance_eq]
        exact ⟨le_min (Nat.le_add_right _ _) hbound, min_le_right _ _⟩

omit [DecidableEq AccountId] in
/-- The amount to withdraw plays no part in an update of the accumulator. -/
theorem updateRewards_setToWithdraw (toWithdraw : ℕ) :
    ({ st with toWithdraw := toWithdraw } : Staking AccountId).updateRewards cfg now rewardsBalance =
      (fun st' : Staking AccountId ↦ { st' with toWithdraw := toWithdraw }) <$>
        st.updateRewards cfg now rewardsBalance := by
  simp only [updateRewards, apply_ite (Functor.map _), map_bind]
  rfl

end Staking

/-- The accumulated reward per share that an update at the current time brings about. -/
def perShareNow (cfg : Config AccountId) (s : State AccountId) : ℕ :=
  match s.staking.updateRewards cfg s.now (s.ledger cfg.stakingRewards) with
  | .ok st => st.accumulatedRewardPerShare
  | .error _ => s.staking.accumulatedRewardPerShare

/-- The call an input makes on behalf of the staking contract. -/
def Input.stakingCall : Input AccountId → Option (Sender × Call AccountId)
  | .extrinsic send .staking call => some (send, call)
  | _ => none

/-- The input is an accepted report that settles its reporter's stake when the stake has accrued more
than the cast of the reward debt can represent. -/
def SaturatesDebt (cfg : Config AccountId) (s : State AccountId) (input : Input AccountId) : Prop :=
  ∃ report ∈ input.stakingCall, ∃ reporter ∈ report.2.staker,
    ∃ balance ∈ report.2.settledBalance
        ((s.staking.stakerDetails.lookup reporter).getD (StakeInfo.new 0)),
      (dispatch cfg report.1 s .staking report.2).isOk = true ∧
        u128Max < accruedAt cfg (perShareNow cfg s) balance

instance (s : State AccountId) (input : Input AccountId) : Decidable (SaturatesDebt cfg s input) :=
  inferInstanceAs (Decidable (∃ report ∈ input.stakingCall, ∃ reporter ∈ report.2.staker,
    ∃ balance ∈ report.2.settledBalance _, _ ∧ _))

/-! ## The invariant -/

/-- What the stakers have accrued is covered by the balance and the debts, and no debt exceeds what
its staker has accrued. -/
structure Solvent (cfg : Config AccountId) (s : State AccountId) : Prop where
  covered : (s.staking.sum fun info ↦
    accruedAt cfg s.staking.accumulatedRewardPerShare info.stakedBalance) ≤
      s.ledger cfg.stakingRewards + s.staking.totalRewardDebt
  debt_le : ∀ staker info, s.staking.stakerDetails.lookup staker = some info →
    info.rewardDebt ≤ accruedAt cfg s.staking.accumulatedRewardPerShare info.stakedBalance
  perShare_le : s.staking.accumulatedRewardPerShare ≤ u128Max

/-- Under the invariant the stakers are owed no more than the balance. -/
theorem Solvent.sum_owed_le {s : State AccountId} (h : Solvent cfg s) (htotals : s.staking.Totals) :
    s.staking.sum (s.staking.owed cfg) ≤ s.ledger cfg.stakingRewards := by
  have hsum : s.staking.sum (s.staking.owed cfg) + s.staking.sum StakeInfo.rewardDebt =
      s.staking.sum fun info ↦
        accruedAt cfg s.staking.accumulatedRewardPerShare info.stakedBalance :=
    FiniteMap.total_sub_add h.debt_le
  have hcovered := h.covered
  have hdebt := htotals.totalRewardDebt_eq
  omega

section Steps

variable {s s' : State AccountId} {staker : AccountId} {info info' : StakeInfo} {settled : Option ℕ}

/-- An update of the accumulator keeps the accrued rewards covered. -/
theorem updateRewards_sum_le {m : FiniteMap AccountId StakeInfo} {st st' : Staking AccountId}
    {now rewardsBalance : ℕ}
    (hstake : st.totalStakeAmount = FiniteMap.total m fun _ info ↦ info.stakedBalance)
    (hcovered : (FiniteMap.total m fun _ info ↦
      accruedAt cfg st.accumulatedRewardPerShare info.stakedBalance) ≤
        rewardsBalance + st.totalRewardDebt)
    (h : st.updateRewards cfg now rewardsBalance = .ok st') :
    (FiniteMap.total m fun _ info ↦
      accruedAt cfg st'.accumulatedRewardPerShare info.stakedBalance) ≤
        rewardsBalance + st.totalRewardDebt := by
  rcases Staking.updateRewards_covered h with hsame | ⟨stake, u, htotal, hunit, hnew⟩
  · rw [hsame]
    exact hcovered
  · rw [hstake] at htotal
    exact (total_accruedAt_le hunit htotal).trans hnew

/-- What settling a stake did to the rewards: the accumulator is updated to that of `st`, the staker is
paid at most what it had accrued beyond its debt, and its new debt is what its new stake has accrued,
through the cast. -/
structure RewardsSettled (cfg : Config AccountId) (s : State AccountId) (info : StakeInfo)
    (newStakedBalance : ℕ) (s' : State AccountId) (info' : StakeInfo) (st : Staking AccountId) :
    Prop where
  rewards_eq : s.staking.updateRewards cfg s.now (s.ledger cfg.stakingRewards) = .ok st
  perShare_eq : s'.staking.accumulatedRewardPerShare = st.accumulatedRewardPerShare
  time_eq : s'.staking.timeOfLastAllocation = s.now
  now_eq : s'.now = s.now
  stakedBalance_eq : info'.stakedBalance = newStakedBalance
  rewardDebt_eq : info'.rewardDebt =
    min (accruedAt cfg st.accumulatedRewardPerShare newStakedBalance) u128Max
  paid_le : s.ledger cfg.stakingRewards + info.rewardDebt ≤
    s'.ledger cfg.stakingRewards + accruedAt cfg st.accumulatedRewardPerShare info.stakedBalance

theorem Staking.Paid.paid_le {u stake pending : ℕ} {ledger ledger' : Ledger AccountId}
    {st st₁ : Staking AccountId} (h : Staking.Paid cfg staker info u ledger st ledger' st₁ stake pending)
    (hunit : unit cfg = .ok u) :
    ledger cfg.stakingRewards + info.rewardDebt ≤ ledger' cfg.stakingRewards +
      accruedAt cfg st.accumulatedRewardPerShare info.stakedBalance := by
  have hpending := h.pending_le
  have hdebt := h.debt_le_accrued
  have hmoved := le_add_of_transfer h.transferred cfg.stakingRewards
  rw [Nat.mul_comm, ← accruedAt_eq _ h.stake_eq hunit] at hpending hdebt
  omega

theorem rewardsSettled_of_update {newStakedBalance : ℕ}
    (hzero : info.stakedBalance = 0 → info.rewardDebt = 0)
    (h : updateStakeAndPayRewards cfg s staker info newStakedBalance = .ok (info', s')) :
    ∃ st, RewardsSettled cfg s info newStakedBalance s' info' st := by
  obtain ⟨u, st, st₁, stake', hunit, hrewards, hpaid, hrestaked, hframe⟩ :=
    updateStakeAndPayRewards_eq_ok h
  have hst := Staking.updateRewards_frame hrewards
  have hsame : st₁.accumulatedRewardPerShare = st.accumulatedRewardPerShare ∧
      st₁.timeOfLastAllocation = st.timeOfLastAllocation := by
    rcases hpaid with ⟨-, stake, pending, hpaid⟩ | ⟨-, -, rfl⟩
    · rw [hpaid.state_eq]
      exact ⟨rfl, rfl⟩
    · exact ⟨rfl, rfl⟩
  have hdebt : info'.rewardDebt = _ := congrArg StakeInfo.rewardDebt hrestaked.info_eq
  rw [hsame.1, u256ToBalance_eq, ← accruedAt_eq _ hrestaked.stake_eq hunit] at hdebt
  refine ⟨st, hrewards, ?_, ?_, ?_, congrArg StakeInfo.stakedBalance hrestaked.info_eq, hdebt, ?_⟩
  · rw [hrestaked.state_eq, hsame.1]
  · rw [hrestaked.state_eq, hsame.2, hst]
  · rw [hframe]
  · rcases hpaid with ⟨-, stake, pending, hpaid⟩ | ⟨hnone, hledger, -⟩
    · exact hpaid.paid_le hunit
    · rw [hledger, hzero hnone]
      exact Nat.add_le_add_left (Nat.zero_le _) _

/-- Settling a stake keeps the invariant, unless the new debt saturates. -/
theorem RewardsSettled.solvent {newStakedBalance : ℕ} {st : Staking AccountId}
    (h : RewardsSettled cfg s info newStakedBalance s' info' st) (hsettled : StakeSettled s info s' info')
    (hmax : cfg.balanceMax = u128Max) (htotals : (s.putStaker staker info).staking.Totals)
    (hinv : Solvent cfg (s.putStaker staker info))
    (hfits : accruedAt cfg st.accumulatedRewardPerShare newStakedBalance ≤ u128Max) :
    Solvent cfg (s'.putStaker staker info') := by
  have hperShare : s.staking.accumulatedRewardPerShare ≤ u128Max := hinv.perShare_le
  obtain ⟨hmono, hbound⟩ := Staking.updateRewards_mono hmax hperShare h.rewards_eq
  have hdebt := h.rewardDebt_eq
  rw [min_eq_left hfits] at hdebt
  refine ⟨?_, ?_, ?_⟩
  · have hstake : s.staking.totalStakeAmount = FiniteMap.total
        (s.staking.stakerDetails.insert staker info) fun _ info ↦ info.stakedBalance :=
      htotals.totalStakeAmount_eq
    have hbefore : (FiniteMap.total (s.staking.stakerDetails.insert staker info) fun _ info ↦
        accruedAt cfg s.staking.accumulatedRewardPerShare info.stakedBalance) ≤
          s.ledger cfg.stakingRewards + s.staking.totalRewardDebt := hinv.covered
    have hcovered := updateRewards_sum_le hstake hbefore h.rewards_eq
    have hsum := FiniteMap.total_insert_insert s.staking.stakerDetails staker info info'
      fun _ info ↦ accruedAt cfg st.accumulatedRewardPerShare info.stakedBalance
    have hdebts := hsettled.totalRewardDebt_eq
    have hpaid := h.paid_le
    rw [h.stakedBalance_eq, ← hdebt] at hsum
    change FiniteMap.total (s'.staking.stakerDetails.insert staker info')
        (fun _ info ↦ accruedAt cfg s'.staking.accumulatedRewardPerShare info.stakedBalance) ≤
      s'.ledger cfg.stakingRewards + s'.staking.totalRewardDebt
    rw [h.perShare_eq, hsettled.details_eq]
    omega
  · intro other otherInfo hother
    change otherInfo.rewardDebt ≤ accruedAt cfg s'.staking.accumulatedRewardPerShare _
    rw [h.perShare_eq]
    rw [State.putStaker, hsettled.details_eq, FiniteMap.lookup_insert_ite] at hother
    split at hother
    · cases hother
      rw [hdebt, h.stakedBalance_eq]
    · next hne =>
      have hbefore : (s.putStaker staker info).staking.stakerDetails.lookup other = some otherInfo := by
        rw [State.putStaker, FiniteMap.lookup_insert_ite, if_neg hne]
        exact hother
      exact (hinv.debt_le other otherInfo hbefore).trans (accruedAt_mono hmono)
  · change s'.staking.accumulatedRewardPerShare ≤ u128Max
    rw [h.perShare_eq]
    exact hbound

/-! ## One report -/

omit [DecidableEq AccountId] in
/-- What a report has for its staker depends on the address of a new record in no way. -/
theorem settledBalance_new (call : Call AccountId) (address : Address) :
    call.settledBalance (StakeInfo.new address) = call.settledBalance (StakeInfo.new 0) := by
  cases call <;> rfl

omit [DecidableEq AccountId] in
/-- Where nothing but the amount to withdraw differs, the accumulator is updated to the same. -/
theorem perShareNow_setToWithdraw (toWithdraw : ℕ) :
    perShareNow cfg { s with staking := { s.staking with toWithdraw := toWithdraw } } =
      perShareNow cfg s := by
  unfold perShareNow
  simp only [Staking.updateRewards_setToWithdraw]
  cases s.staking.updateRewards cfg s.now (s.ledger cfg.stakingRewards) <;> rfl

omit [DecidableEq AccountId] in
/-- After a stake was settled, an update at the same time changes nothing. -/
theorem RewardsSettled.perShareNow_eq {newStakedBalance : ℕ} {st : Staking AccountId}
    (h : RewardsSettled cfg s info newStakedBalance s' info' st) :
    perShareNow cfg s' = perShareNow cfg s ∧ perShareNow cfg s = st.accumulatedRewardPerShare := by
  have hbefore : perShareNow cfg s = st.accumulatedRewardPerShare := by
    simp only [perShareNow, h.rewards_eq]
  have hsame : s'.staking.timeOfLastAllocation = s'.now := h.time_eq.trans h.now_eq.symm
  refine ⟨?_, hbefore⟩
  rw [hbefore, ← h.perShare_eq, perShareNow, Staking.updateRewards, if_pos hsame]

/-- A record that agrees with the stored one on stake and debt keeps the invariant. -/
theorem Solvent.putStaker (h : Solvent cfg s)
    (hrecord : s.staking.stakerDetails.lookup staker = some info)
    (hstake : info'.stakedBalance = info.stakedBalance) (hdebt : info'.rewardDebt = info.rewardDebt) :
    Solvent cfg (s.putStaker staker info') := by
  refine ⟨?_, ?_, h.perShare_le⟩
  · have hput := sum_putStaker_putStaker s staker info info' fun info ↦
      accruedAt cfg s.staking.accumulatedRewardPerShare info.stakedBalance
    rw [sum_putStaker_self _ (Or.inl hrecord), hstake] at hput
    exact (Nat.add_right_cancel hput).trans_le h.covered
  · intro other otherInfo hother
    rw [State.putStaker, FiniteMap.lookup_insert_ite] at hother
    split at hother
    · cases hother
      rw [hstake, hdebt]
      exact h.debt_le staker info hrecord
    · exact h.debt_le other otherInfo hother

/-- The first record of a staker weighs nothing. -/
theorem Solvent.putNew {address : Address} (h : Solvent cfg s)
    (hnone : s.staking.stakerDetails.lookup staker = none) :
    Solvent cfg (s.putStaker staker (StakeInfo.new address)) := by
  refine ⟨?_, ?_, h.perShare_le⟩
  · have hself : ((s.putStaker staker (StakeInfo.new address)).staking.sum fun info ↦
        accruedAt cfg s.staking.accumulatedRewardPerShare info.stakedBalance) = _ :=
      sum_putStaker_self _ (Or.inr ⟨hnone, accruedAt_zero⟩)
    exact hself.trans_le h.covered
  · intro other otherInfo hother
    rw [State.putStaker, FiniteMap.lookup_insert_ite] at hother
    split at hother
    · cases hother
      exact Nat.zero_le _
    · exact h.debt_le other otherInfo hother

/-- What every move of a report preserves, on the state with the record stored in it. -/
structure MoveInvariant (cfg : Config AccountId) (staker : AccountId) (perShare : ℕ)
    (before : State AccountId × StakeInfo) : Prop where
  totals : (before.1.putStaker staker before.2).staking.Totals
  solvent : Solvent cfg (before.1.putStaker staker before.2)
  perShare_eq : perShareNow cfg before.1 = perShare

theorem RecordStep.moveInvariant {perShare : ℕ} {before after : State AccountId × StakeInfo}
    (h : RecordStep cfg staker settled before after) (hmax : cfg.balanceMax = u128Max)
    (hfits : ∀ balance, settled = some balance → accruedAt cfg perShare balance ≤ u128Max)
    (hinv : MoveInvariant cfg staker perShare before) : MoveInvariant cfg staker perShare after := by
  have htotals := h.totals hinv.totals
  have hlookup : (before.1.putStaker staker before.2).staking.stakerDetails.lookup staker =
      some before.2 := Finmap.lookup_insert _
  have hnoted : ∀ info : StakeInfo, info.stakedBalance = before.2.stakedBalance →
      info.rewardDebt = before.2.rewardDebt → Solvent cfg (before.1.putStaker staker info) := by
    intro info hstake hdebt
    have hput := hinv.solvent.putStaker hlookup hstake hdebt
    simpa only [State.putStaker, Finmap.insert_insert] using hput
  have hperShare := hinv.perShare_eq
  cases h with
  | @settle s _ info _ newStakedBalance hsettled h =>
    have hzero := hinv.totals.rewardDebt_eq_zero _ _ hlookup
    have hflag : info.staked.toNat ≤ s.staking.totalStakers := by
      have hle := le_sum_putStaker s staker info fun info ↦ info.staked.toNat
      rw [← count_eq_sum, ← hinv.totals.totalStakers_eq] at hle
      exact hle
    obtain ⟨st, hrewards⟩ := rewardsSettled_of_update hzero h
    obtain ⟨hafter, hupdated⟩ := hrewards.perShareNow_eq
    have hbalance := hfits newStakedBalance hsettled
    rw [← hperShare, hupdated] at hbalance
    exact ⟨htotals, hrewards.solvent (stakeSettled_of_update hzero hflag h) hmax hinv.totals
      hinv.solvent hbalance, hafter.trans hperShare⟩
  | @release s info amount hlocked htotal =>
    have hput := hnoted { info with lockedBalance := info.lockedBalance - amount } rfl rfl
    exact ⟨htotals, ⟨hput.covered, hput.debt_le, hput.perShare_le⟩,
      (perShareNow_setToWithdraw _).trans hperShare⟩
  | @lock s info amount =>
    have hput := hnoted { info with lockedBalance := info.lockedBalance + amount } rfl rfl
    exact ⟨htotals, ⟨hput.covered, hput.debt_le, hput.perShare_le⟩,
      (perShareNow_setToWithdraw _).trans hperShare⟩
  | note startDate startVoteCount startVoteTally =>
    exact ⟨htotals, hnoted _ rfl rfl, hperShare⟩

theorem Reported.solvent {s₁ : State AccountId} {event : Event AccountId}
    (h : Reported cfg s staker settled info s₁ info' event s') (hmax : cfg.balanceMax = u128Max)
    (hfits : ∀ balance, settled = some balance → accruedAt cfg (perShareNow cfg s) balance ≤ u128Max)
    (htotals : s.staking.Totals) (hinv : Solvent cfg s) : Solvent cfg s' := by
  have hstart : MoveInvariant cfg staker (perShareNow cfg s) (s, info) := by
    refine ⟨h.totals_putStaker htotals, ?_, rfl⟩
    rcases h.record_eq with hrecord | ⟨hnone, address, rfl⟩
    · exact hinv.putStaker hrecord rfl rfl
    · exact hinv.putNew hnone
  have hend := (h.invariant (MoveInvariant cfg staker (perShareNow cfg s))
    (fun _ _ hbefore hmove ↦ hmove.moveInvariant hmax hfits hbefore) hstart).solvent
  rw [h.state_eq]
  exact ⟨hend.covered, hend.debt_le, hend.perShare_le⟩

end Steps

/-! ## Runs -/

/-- An input that saturates no debt keeps the invariant. -/
theorem StakingStep.solvent {s s' : State AccountId} {input : Input AccountId}
    (h : StakingStep cfg s input s') (hmax : cfg.balanceMax = u128Max)
    (hfits : ¬SaturatesDebt cfg s input) (htotals : s.staking.Totals) (hinv : Solvent cfg s) :
    Solvent cfg s' := by
  cases h with
  | unchanged hstaking hbalance =>
    refine ⟨?_, hstaking ▸ hinv.debt_le, hstaking ▸ hinv.perShare_le⟩
    rw [hstaking]
    exact hinv.covered.trans (Nat.add_le_add_right hbalance _)
  | rewarded hbalance hrewards hstaking =>
    obtain ⟨hmono, hbound⟩ := Staking.updateRewards_mono hmax hinv.perShare_le hrewards
    have hcovered := updateRewards_sum_le htotals.totalStakeAmount_eq
      (hinv.covered.trans (Nat.add_le_add_right hbalance _)) hrewards
    have hframe := Staking.updateRewards_frame hrewards
    rw [hframe] at hstaking
    refine ⟨?_, ?_, ?_⟩
    · rw [hstaking]
      exact hcovered
    · intro staker info hinfo
      rw [hstaking] at hinfo ⊢
      exact (hinv.debt_le staker info hinfo).trans (accruedAt_mono hmono)
    · rw [hstaking]
      exact hbound
  | @submitted _ _ reporter queryId staker hstaker hledger hstaking =>
    have hput : Solvent cfg (s.putStaker reporter (staker.reported s.now)) :=
      hinv.putStaker hstaker rfl rfl
    refine ⟨?_, ?_, ?_⟩
    · rw [hstaking, hledger]
      exact hput.covered
    · rw [hstaking]
      exact hput.debt_le
    · rw [hstaking]
      exact hput.perShare_le
  | @reported send call reporter info info' event s₁ _ haccepted hcall h =>
    refine h.solvent hmax (fun balance hbalance ↦ ?_) htotals hinv
    by_contra hexceeds
    refine hfits ⟨(send, call), rfl, reporter, hcall, balance, ?_, ?_, not_le.mp hexceeds⟩
    · rcases h.record_eq with hrecord | ⟨hnone, address, rfl⟩
      · rw [hrecord]
        exact hbalance
      · rw [hnone]
        rw [settledBalance_new] at hbalance
        exact hbalance
    · rw [haccepted]
      rfl
  | @withdrawn _ reporter amount info _ h =>
    have hput : Solvent cfg (s.putStaker reporter
        { info with lockedBalance := info.lockedBalance - amount }) :=
      hinv.putStaker h.record_eq rfl rfl
    rw [h.state_eq]
    exact ⟨hput.covered, hput.debt_le, hput.perShare_le⟩

/-- In every run in which no report saturates a reward debt, the rewards the stakers could be owed
are at most the balance of the staking rewards account. -/
theorem sum_owed_le_stakingRewards (hmax : cfg.balanceMax = u128Max) {s : State AccountId}
    (h : ReachableBy cfg (fun s input ↦ Admissible cfg s input ∧ ¬SaturatesDebt cfg s input) s) :
    s.staking.sum (s.staking.owed cfg) ≤ s.ledger cfg.stakingRewards := by
  have hinv : s.staking.Totals ∧ Solvent cfg s := by
    refine h.invariant (fun s ↦ s.staking.Totals ∧ Solvent cfg s) (fun _ _ hadmits ↦ hadmits.1) ?_ ?_
    · intro s₀ hgenesis
      refine ⟨totals_genesis hgenesis, ?_⟩
      obtain ⟨ledger, blockNumber, now, -, rfl⟩ := hgenesis
      refine ⟨?_, ?_, Nat.zero_le _⟩
      · simp [State.genesis, Staking.sum]
      · simp [State.genesis]
    · intro s₀ input s₁ hinv hadmits heffect
      exact ⟨heffect.stakingStep.totals hinv.1,
        heffect.stakingStep.solvent hmax hadmits.2 hinv.1 hinv.2⟩
  exact hinv.2.sum_owed_le hinv.1

namespace Mock

/-- A staker deposits one token, rewards of 10^12 units a second are added, and a second later another
staker deposits `stake`. -/
def joining (stake : ℕ) : List (Input ℕ) :=
  [.extrinsic send .staking (.reportStakeDeposited 7 (10 ^ 18) 9),
    .extrinsic send (.signed 8) (.addStakingRewards (10 ^ 12 * (30 * days))),
    .newBlock 2 (start + 1),
    .extrinsic send .staking (.reportStakeDeposited 9 stake 10)]

end Mock

/-- A stake of 2^130 local units joins with a debt of 2^128 - 1, and is owed the rest at once. -/
theorem stakingRewards_lt_sum_owed :
    let s := run (step Mock.config) (Mock.joining (2 ^ 130 * 10 ^ 6)) Mock.genesis
    Reachable Mock.config s ∧
      s.ledger Mock.config.stakingRewards < s.staking.sum (s.staking.owed Mock.config) :=
  ⟨Mock.reachableBy_run _ (by decide +kernel), by decide +kernel⟩

theorem sum_owed_le_stakingRewards_joining :
    let s := run (step Mock.config) (Mock.joining (10 ^ 18)) Mock.genesis
    s.staking.sum (s.staking.owed Mock.config) ≤ s.ledger Mock.config.stakingRewards :=
  sum_owed_le_stakingRewards rfl (Mock.reachableBy_run (Mock.joining (10 ^ 18)) (by decide +kernel))

end TellorPallet
