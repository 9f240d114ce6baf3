import TellorPallet.Pallet.State

/-!
# Staking rewards

The reward accumulator and its settlement with a staker whose stake changes, as `update_rewards`,
`update_stake_and_pay_rewards` and `do_add_staking_rewards` compute them.
-/

namespace TellorPallet

open Outcome

variable {AccountId : Type} [DecidableEq AccountId] (cfg : Config AccountId)

/-- `convert_to_decimals`. -/
def convertToDecimals (amount decimals : ℕ) : Except DispatchError ℕ :=
  if amount = 0 then .ok amount
  else if decimals < trbDecimals then do
    let scale ← okOr (Checked.pow u256Max 10 (trbDecimals - decimals)) overflow
    .ok (amount / scale)
  else if trbDecimals < decimals then do
    let scale ← okOr (Checked.pow u256Max 10 (decimals - trbDecimals)) overflow
    okOr (Checked.mul u256Max amount scale) overflow
  else .ok amount

/-- `convert`: a stake amount in the decimals of the local asset. -/
def convert (stakeAmount : ℕ) : Except DispatchError ℕ :=
  convertToDecimals stakeAmount cfg.decimals

/-- `unit`: a unit in which balances are recorded. -/
def unit : Except DispatchError ℕ := okOr (Checked.pow u128Max 10 cfg.decimals) overflow

/-- The reward a stake has accrued at `perShare`, less the debt recorded against it. -/
def accruedReward (perShare stake unit debt : ℕ) : Except DispatchError ℕ := do
  let product ← okOr (Checked.mul u256Max perShare stake) overflow
  let accrued ← okOr (Checked.div product unit) divisionByZero
  okOr (Checked.sub accrued debt) underflow

namespace Staking

/-- `update_rewards`, at time `now` and with `rewardsBalance` in the staking rewards account. -/
def updateRewards (now : ℕ) (rewardsBalance : ℕ) (st : Staking AccountId) :
    Except DispatchError (Staking AccountId) :=
  if st.timeOfLastAllocation = now then .ok st
  else do
    let totalStakeAmount ← convert cfg st.totalStakeAmount
    if totalStakeAmount = 0 ∨ st.rewardRate = 0 then .ok { st with timeOfLastAllocation := now }
    else do
      let unit ← unit cfg
      let elapsed ← okOr (Checked.sub now st.timeOfLastAllocation) .panic
      let released ← okOr (Checked.mul u256Max elapsed st.rewardRate) overflow
      let scaled ← okOr (Checked.mul u256Max released unit) overflow
      let newPerShare ← okOr
        (Checked.add u256Max st.accumulatedRewardPerShare (scaled / totalStakeAmount)) .panic
      let accumulatedReward ← accruedReward newPerShare totalStakeAmount unit st.totalRewardDebt
      if rewardsBalance ≤ accumulatedReward then do
        let owed ← accruedReward st.accumulatedRewardPerShare totalStakeAmount unit st.totalRewardDebt
        let newPendingRewards ← okOr (Checked.sub rewardsBalance owed) underflow
        let scaled ← okOr (Checked.mul u256Max newPendingRewards unit) overflow
        let perShare ← okOr (Checked.add cfg.balanceMax st.accumulatedRewardPerShare
          (u256ToBalance cfg (scaled / totalStakeAmount))) overflow
        .ok { st with
          accumulatedRewardPerShare := perShare
          rewardRate := 0
          timeOfLastAllocation := now }
      else
        .ok { st with
          accumulatedRewardPerShare := u256ToBalance cfg newPerShare
          timeOfLastAllocation := now }

/-- The rate that spreads what `rewardsBalance` holds beyond the accrued rewards over 30 days. -/
def freshRewardRate (rewardsBalance : ℕ) (perShare totalStakeAmount unit totalRewardDebt : ℕ) :
    Except DispatchError ℕ := do
  let owed ← accruedReward perShare totalStakeAmount unit totalRewardDebt
  let available ← okOr (Checked.sub rewardsBalance owed) underflow
  .ok (u256ToBalance cfg (available / (30 * days)))

/-- The share of a pending reward that the staker's participation in votes since its first deposit
entitles it to. -/
def participationShare (governance : Governance AccountId) (staker : AccountId) (info : StakeInfo)
    (pendingReward : ℕ) : Except DispatchError ℕ := do
  let numberOfVotes ← okOr (Checked.sub governance.voteCount info.startVoteCount) underflow
  if 0 < numberOfVotes then do
    let voted ← okOr (Checked.sub (governance.voteTally staker) info.startVoteTally) underflow
    let product ← okOr (Checked.mul cfg.balanceMax pendingReward voted) overflow
    let share ← okOr (Checked.div product numberOfVotes) divisionByZero
    .ok (if share < pendingReward then share else pendingReward)
  else .ok pendingReward

/-- The part of `update_stake_and_pay_rewards` for a staker with a staked balance: pay the pending
reward and take the staker out of the totals. -/
def payPendingReward (governance : Governance AccountId) (staker : AccountId) (info : StakeInfo)
    (unit : ℕ) (ledger : Ledger AccountId) (st : Staking AccountId) :
    Except DispatchError (Ledger AccountId × Staking AccountId) := do
  let stake ← convert cfg info.stakedBalance
  let accrued ← accruedReward st.accumulatedRewardPerShare stake unit info.rewardDebt
  let pendingReward ← participationShare cfg governance staker info (u256ToBalance cfg accrued)
  let ledger ← transfer cfg ledger cfg.stakingRewards staker pendingReward .protect
  let totalRewardDebt ← okOr (Checked.sub st.totalRewardDebt info.rewardDebt) underflow
  let totalStakeAmount ← okOr (Checked.sub st.totalStakeAmount info.stakedBalance) underflow
  .ok (ledger, { st with totalRewardDebt := totalRewardDebt, totalStakeAmount := totalStakeAmount })

/-- The flag of a staker and the number of stakers once the staked balance is `stakedBalance`. -/
def countStaker (stakeAmount stakedBalance : ℕ) (staked : Bool) (totalStakers : ℕ) :
    Bool × ℕ :=
  if stakeAmount ≤ stakedBalance then
    (true, if staked then totalStakers else totalStakers + 1)
  else
    (false, if staked = true ∧ 0 < totalStakers then totalStakers - 1 else totalStakers)

/-- The rest of `update_stake_and_pay_rewards`: put the staker with its new balance back into the
totals, and restart the reward rate when it is zero. -/
def restake (stakeAmount newStakedBalance : ℕ) (rewardsBalance : ℕ) (unit : ℕ)
    (info : StakeInfo) (st : Staking AccountId) :
    Except DispatchError (StakeInfo × Staking AccountId) := do
  let (staked, totalStakers) := countStaker stakeAmount newStakedBalance info.staked st.totalStakers
  let stake ← convert cfg newStakedBalance
  let product ← okOr (Checked.mul u256Max stake st.accumulatedRewardPerShare) overflow
  let accrued ← okOr (Checked.div product unit) divisionByZero
  let rewardDebt := u256ToBalance cfg accrued
  let totalRewardDebt ← okOr (Checked.add cfg.balanceMax st.totalRewardDebt rewardDebt) overflow
  let totalStakeAmount ← okOr (Checked.add u256Max st.totalStakeAmount newStakedBalance) overflow
  let localStakeAmount ← convert cfg totalStakeAmount
  let rewardRate ← (if st.rewardRate = 0 then
      freshRewardRate cfg rewardsBalance st.accumulatedRewardPerShare localStakeAmount unit
        totalRewardDebt
    else .ok st.rewardRate)
  .ok ({ info with stakedBalance := newStakedBalance, staked := staked, rewardDebt := rewardDebt },
    { st with
      totalStakers := totalStakers
      totalRewardDebt := totalRewardDebt
      totalStakeAmount := totalStakeAmount
      rewardRate := rewardRate })

end Staking

/-- `update_stake_and_pay_rewards`: the staker's new record, with the ledger and the totals. The
record itself is stored by the caller. -/
def updateStakeAndPayRewards (s : State AccountId) (staker : AccountId) (info : StakeInfo)
    (newStakedBalance : ℕ) : Except DispatchError (StakeInfo × State AccountId) := do
  let st ← s.staking.updateRewards cfg s.now (s.ledger cfg.stakingRewards)
  let unit ← unit cfg
  let (ledger, st) ← (if 0 < info.stakedBalance then
      Staking.payPendingReward cfg s.governance staker info unit s.ledger st
    else .ok (s.ledger, st))
  let (info, st) ← Staking.restake cfg s.prices.stakeAmount newStakedBalance
    (ledger cfg.stakingRewards) unit info st
  .ok (info, { s with ledger := ledger, staking := st })

/-- `do_add_staking_rewards`. -/
def doAddStakingRewards (s : State AccountId) (source : AccountId) (amount : ℕ) :
    Except DispatchError (State AccountId) := do
  let ledger ← (if 0 < amount then
      transfer cfg s.ledger source cfg.stakingRewards amount .expendable
    else .ok s.ledger)
  let st ← s.staking.updateRewards cfg s.now (ledger cfg.stakingRewards)
  let totalStakeAmount ← convert cfg st.totalStakeAmount
  let unit ← unit cfg
  let rewardRate ← Staking.freshRewardRate cfg (ledger cfg.stakingRewards)
    st.accumulatedRewardPerShare totalStakeAmount unit st.totalRewardDebt
  .ok { s with ledger := ledger, staking := { st with rewardRate := rewardRate } }

/-! ## What a successful step did -/

section Effects

variable {cfg}

omit [DecidableEq AccountId] in
theorem accruedReward_eq_ok {perShare stake unit debt reward : ℕ} :
    accruedReward perShare stake unit debt = .ok reward ↔
      perShare * stake ≤ u256Max ∧ unit ≠ 0 ∧ debt ≤ perShare * stake / unit ∧
        perShare * stake / unit - debt = reward := by
  simp only [accruedReward, bind_eq_ok, okOr_eq_ok, Checked.mul_eq_some, Checked.div_eq_some,
    Checked.sub_eq_some]
  constructor
  · rintro ⟨_, ⟨hmul, rfl⟩, _, ⟨hunit, rfl⟩, hdebt, hreward⟩
    exact ⟨hmul, hunit, hdebt, hreward⟩
  · rintro ⟨hmul, hunit, hdebt, hreward⟩
    exact ⟨_, ⟨hmul, rfl⟩, _, ⟨hunit, rfl⟩, hdebt, hreward⟩

namespace Staking

variable {st st' : Staking AccountId} {now : ℕ} {rewardsBalance : ℕ}

omit [DecidableEq AccountId] in
/-- `update_rewards` moves the accumulator, the rate and the time of the last allocation only. -/
theorem updateRewards_frame (h : st.updateRewards cfg now rewardsBalance = .ok st') :
    st' = { st with
      accumulatedRewardPerShare := st'.accumulatedRewardPerShare
      rewardRate := st'.rewardRate
      timeOfLastAllocation := now } := by
  unfold updateRewards at h
  split at h
  · next hnow =>
    cases h
    rw [← hnow]
  · obtain ⟨total, -, h⟩ := bind_eq_ok.mp h
    split at h
    · cases h
      rfl
    · simp only [bind_eq_ok] at h
      obtain ⟨unit, -, elapsed, -, released, -, scaled, -, newPerShare, -, accumulated, -, h⟩ := h
      split at h
      · simp only [bind_eq_ok] at h
        obtain ⟨owed, -, pending, -, scaled, -, perShare, -, h⟩ := h
        cases h
        rfl
      · cases h
        rfl

/-- What paying the pending reward of a staker did. -/
structure Paid (cfg : Config AccountId) (staker : AccountId) (info : StakeInfo) (unit : ℕ)
    (ledger : Ledger AccountId) (st : Staking AccountId) (ledger' : Ledger AccountId)
    (st' : Staking AccountId) (stake pending : ℕ) : Prop where
  stake_eq : convert cfg info.stakedBalance = .ok stake
  debt_le_accrued : info.rewardDebt ≤ st.accumulatedRewardPerShare * stake / unit
  pending_le : pending ≤ st.accumulatedRewardPerShare * stake / unit - info.rewardDebt
  transferred : transfer cfg ledger cfg.stakingRewards staker pending .protect = .ok ledger'
  debt_le : info.rewardDebt ≤ st.totalRewardDebt
  stake_le : info.stakedBalance ≤ st.totalStakeAmount
  state_eq : st' = { st with
    totalRewardDebt := st.totalRewardDebt - info.rewardDebt
    totalStakeAmount := st.totalStakeAmount - info.stakedBalance }

theorem participationShare_le {governance : Governance AccountId} {staker : AccountId}
    {info : StakeInfo} {reward share : ℕ}
    (h : participationShare cfg governance staker info reward = .ok share) : share ≤ reward := by
  obtain ⟨votes, -, h⟩ := bind_eq_ok.mp h
  split at h
  · simp only [bind_eq_ok] at h
    obtain ⟨voted, -, product, -, share, -, h⟩ := h
    cases h
    split
    · next hlt => exact hlt.le
    · exact le_rfl
  · cases h
    exact le_rfl

omit [DecidableEq AccountId] in
/-- A rate is converted to a balance, which clamps it to 128 bits. -/
theorem freshRewardRate_le {perShare stake unit debt rate : ℕ}
    (h : freshRewardRate cfg rewardsBalance perShare stake unit debt = .ok rate) :
    rate ≤ u128Max := by
  simp only [freshRewardRate, bind_eq_ok, Except.ok.injEq] at h
  obtain ⟨owed, -, available, -, rfl⟩ := h
  rw [u256ToBalance_eq]
  exact min_le_right _ _

theorem payPendingReward_paid {governance : Governance AccountId} {staker : AccountId}
    {info : StakeInfo} {unit : ℕ} {ledger ledger' : Ledger AccountId}
    (h : payPendingReward cfg governance staker info unit ledger st = .ok (ledger', st')) :
    ∃ stake pending, Paid cfg staker info unit ledger st ledger' st' stake pending := by
  simp only [payPendingReward, bind_eq_ok, okOr_eq_ok, accruedReward_eq_ok,
    Checked.sub_eq_some] at h
  obtain ⟨stake, hstake, accrued, ⟨-, -, hdebtAccrued, haccrued⟩, pending, hpending,
    paid, htransfer, debt, ⟨hdebt, rfl⟩, total, ⟨htotal, rfl⟩, h⟩ := h
  cases h
  have hbound : pending ≤ u256ToBalance cfg accrued := participationShare_le hpending
  exact ⟨stake, pending, hstake, hdebtAccrued,
    hbound.trans ((u256ToBalance_le cfg accrued).trans haccrued.ge), htransfer, hdebt, htotal, rfl⟩

/-- What putting a staker with a new balance back into the totals did. -/
structure Restaked (cfg : Config AccountId) (stakeAmount newStakedBalance : ℕ) (unit : ℕ)
    (info : StakeInfo) (st : Staking AccountId) (info' : StakeInfo) (st' : Staking AccountId)
    (stake : ℕ) : Prop where
  stake_eq : convert cfg newStakedBalance = .ok stake
  info_eq : info' = { info with
    stakedBalance := newStakedBalance
    staked := decide (stakeAmount ≤ newStakedBalance)
    rewardDebt := u256ToBalance cfg (stake * st.accumulatedRewardPerShare / unit) }
  debt_le : st.totalRewardDebt + info'.rewardDebt ≤ cfg.balanceMax
  state_eq : st' = { st with
    totalStakers := (countStaker stakeAmount newStakedBalance info.staked st.totalStakers).2
    totalRewardDebt := st.totalRewardDebt + info'.rewardDebt
    totalStakeAmount := st.totalStakeAmount + newStakedBalance
    rewardRate := st'.rewardRate }

omit [DecidableEq AccountId] in
theorem countStaker_fst (stakeAmount stakedBalance : ℕ) (staked : Bool) (totalStakers : ℕ) :
    (countStaker stakeAmount stakedBalance staked totalStakers).1 =
      decide (stakeAmount ≤ stakedBalance) := by
  unfold countStaker
  split <;> simp_all

omit [DecidableEq AccountId] in
theorem restake_restaked {stakeAmount newStakedBalance : ℕ} {unit : ℕ}
    {info info' : StakeInfo}
    (h : restake cfg stakeAmount newStakedBalance rewardsBalance unit info st = .ok (info', st')) :
    ∃ stake, Restaked cfg stakeAmount newStakedBalance unit info st info' st' stake := by
  simp only [restake, bind_eq_ok, okOr_eq_ok, Checked.mul_eq_some, Checked.div_eq_some,
    Checked.add_eq_some] at h
  obtain ⟨stake, hstake, _, ⟨-, rfl⟩, _, ⟨-, rfl⟩, _, ⟨hdebt, rfl⟩, _, ⟨-, rfl⟩, _, -, rate, -, h⟩ := h
  cases h
  refine ⟨stake, hstake, ?_, hdebt, rfl⟩
  rw [countStaker_fst]

end Staking

variable {s s' : State AccountId} {staker source : AccountId} {info info' : StakeInfo}
  {newStakedBalance : ℕ} {amount : ℕ}

/-- The steps of a successful `update_stake_and_pay_rewards`: the accumulator is updated to `st`,
the pending reward of a staker with a balance is paid, which leaves `st₁`, and the staker re-enters
the totals. -/
theorem updateStakeAndPayRewards_eq_ok
    (h : updateStakeAndPayRewards cfg s staker info newStakedBalance = .ok (info', s')) :
    ∃ u st st₁ stake', unit cfg = .ok u ∧
      s.staking.updateRewards cfg s.now (s.ledger cfg.stakingRewards) = .ok st ∧
      ((0 < info.stakedBalance ∧ ∃ stake pending,
          Staking.Paid cfg staker info u s.ledger st s'.ledger st₁ stake pending) ∨
        (info.stakedBalance = 0 ∧ s'.ledger = s.ledger ∧ st₁ = st)) ∧
      Staking.Restaked cfg s.prices.stakeAmount newStakedBalance u info st₁ info' s'.staking stake' ∧
      s' = { s with ledger := s'.ledger, staking := s'.staking } := by
  simp only [updateStakeAndPayRewards, bind_eq_ok] at h
  obtain ⟨st, hrewards, u, hunit, ⟨ledger, st₁⟩, hpaid, ⟨restaked, st₂⟩, hrestake, h⟩ := h
  cases h
  obtain ⟨stake', hrestaked⟩ := Staking.restake_restaked hrestake
  refine ⟨u, st, st₁, stake', hunit, hrewards, ?_, hrestaked, rfl⟩
  split at hpaid
  · next hpositive => exact Or.inl ⟨hpositive, Staking.payPendingReward_paid hpaid⟩
  · next hzero =>
    cases hpaid
    exact Or.inr ⟨Nat.eq_zero_of_not_pos hzero, rfl, rfl⟩

theorem updateStakeAndPayRewards_locked
    (h : updateStakeAndPayRewards cfg s staker info newStakedBalance = .ok (info', s')) :
    info'.lockedBalance = info.lockedBalance := by
  obtain ⟨u, st, st₁, stake', -, -, -, hrestaked, -⟩ := updateStakeAndPayRewards_eq_ok h
  rw [hrestaked.info_eq]

/-- An update replaces the staker's balance in the total stake. -/
theorem updateStakeAndPayRewards_totalStakeAmount
    (h : updateStakeAndPayRewards cfg s staker info newStakedBalance = .ok (info', s')) :
    info'.stakedBalance = newStakedBalance ∧ info.stakedBalance ≤ s.staking.totalStakeAmount ∧
      s'.staking.totalStakeAmount + info.stakedBalance =
        s.staking.totalStakeAmount + newStakedBalance := by
  obtain ⟨u, st, st₁, stake', -, hrewards, hpaid, hrestaked, -⟩ := updateStakeAndPayRewards_eq_ok h
  have hst := Staking.updateRewards_frame hrewards
  have hleft : info.stakedBalance ≤ s.staking.totalStakeAmount ∧
      st₁.totalStakeAmount + info.stakedBalance = s.staking.totalStakeAmount := by
    rcases hpaid with ⟨-, stake, pending, hpaid⟩ | ⟨hzero, -, rfl⟩
    · have hstakeLe := hpaid.stake_le
      rw [hpaid.state_eq]
      rw [hst] at hstakeLe ⊢
      exact ⟨hstakeLe, Nat.sub_add_cancel hstakeLe⟩
    · rw [hst, hzero]
      exact ⟨Nat.zero_le _, rfl⟩
  refine ⟨congrArg StakeInfo.stakedBalance hrestaked.info_eq, hleft.1, ?_⟩
  rw [hrestaked.state_eq, ← hleft.2]
  exact Nat.add_right_comm _ _ _

/-- The locked balance plays no part in an update. -/
theorem updateStakeAndPayRewards_setLocked (lockedBalance : ℕ)
    (h : updateStakeAndPayRewards cfg s staker info newStakedBalance = .ok (info', s')) :
    updateStakeAndPayRewards cfg s staker { info with lockedBalance := lockedBalance }
      newStakedBalance = .ok ({ info' with lockedBalance := lockedBalance }, s') := by
  simp only [updateStakeAndPayRewards, bind_eq_ok] at h ⊢
  obtain ⟨st, hrewards, u, hunit, ⟨ledger, st₁⟩, hpaid, ⟨restaked, st₂⟩, hrestake, h⟩ := h
  cases h
  refine ⟨st, hrewards, u, hunit, ⟨ledger, st₁⟩, hpaid,
    ⟨{ restaked with lockedBalance := lockedBalance }, st₂⟩, ?_, rfl⟩
  simp only [Staking.restake, bind_eq_ok] at hrestake ⊢
  obtain ⟨stake, hstake, product, hproduct, accrued, haccrued, debt, hdebt, total, htotal, localStake,
    hlocal, rate, hrate, h⟩ := hrestake
  cases h
  exact ⟨stake, hstake, product, hproduct, accrued, haccrued, debt, hdebt, total, htotal, localStake,
    hlocal, rate, hrate, rfl⟩

/-- The steps of a successful `do_add_staking_rewards`. -/
theorem doAddStakingRewards_eq_ok (h : doAddStakingRewards cfg s source amount = .ok s') :
    ∃ st rewardRate,
      (if 0 < amount then transfer cfg s.ledger source cfg.stakingRewards amount .expendable
        else .ok s.ledger) = .ok s'.ledger ∧
      s.staking.updateRewards cfg s.now (s'.ledger cfg.stakingRewards) = .ok st ∧
      s' = { s with ledger := s'.ledger, staking := { st with rewardRate := rewardRate } } := by
  simp only [doAddStakingRewards, bind_eq_ok] at h
  obtain ⟨ledger, hledger, st, hrewards, total, -, u, -, rate, -, h⟩ := h
  cases h
  exact ⟨st, rate, hledger, hrewards, rfl⟩

theorem doAddStakingRewards_rewardRate_le (h : doAddStakingRewards cfg s source amount = .ok s') :
    s'.staking.rewardRate ≤ u128Max := by
  simp only [doAddStakingRewards, bind_eq_ok] at h
  obtain ⟨ledger, -, st, -, total, -, u, -, rate, hrate, h⟩ := h
  cases h
  exact Staking.freshRewardRate_le hrate

theorem doAddStakingRewards_frame (h : doAddStakingRewards cfg s source amount = .ok s') :
    s' = { s with ledger := s'.ledger, staking := s'.staking } := by
  obtain ⟨st, rate, -, -, hstate⟩ := doAddStakingRewards_eq_ok h
  rw [hstate]

end Effects

end TellorPallet
