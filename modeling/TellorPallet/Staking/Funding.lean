import TellorPallet.Staking.Accrual

/-!
# Added rewards and the past

`do_add_staking_rewards` moves the funds before it brings the accumulator up to now. As long as the
old funds last, the update does not depend on the balance; once they have run out it shares out
whatever the balance is, the funds just added included, for the time before they were there. The rate
is set anew on every call, also on one that adds nothing.
-/

namespace TellorPallet

open Outcome Transition

variable {AccountId : Type} {cfg : Config AccountId}

namespace Staking

variable {st : Staking AccountId} {now rewardsBalance amount : ℕ}

/-- While the rewards last, the accumulator does not depend on the balance. -/
theorem perShareAt_add_of_lt
    (h : st.owedAt cfg (st.accumulatedRewardPerShare + st.accrual cfg now) < rewardsBalance) :
    st.perShareAt cfg now (rewardsBalance + amount) = st.perShareAt cfg now rewardsBalance := by
  have hmore : st.owedAt cfg (st.accumulatedRewardPerShare + st.accrual cfg now) <
      rewardsBalance + amount := h.trans_le (Nat.le_add_right _ _)
  unfold perShareAt
  rw [if_neg (not_le.mpr h), if_neg (not_le.mpr hmore)]

/-- Once the rewards have run out, a larger balance leads to the same accumulator only when its share
is the same. -/
theorem perShareAt_add_eq_iff (haccrues : ¬st.Idle cfg now)
    (h : rewardsBalance ≤ st.owedAt cfg (st.accumulatedRewardPerShare + st.accrual cfg now)) :
    st.perShareAt cfg now (rewardsBalance + amount) = st.perShareAt cfg now rewardsBalance ↔
      if rewardsBalance + amount ≤
          st.owedAt cfg (st.accumulatedRewardPerShare + st.accrual cfg now) then
        u256ToBalance cfg (st.remainingShare cfg (rewardsBalance + amount)) =
          u256ToBalance cfg (st.remainingShare cfg rewardsBalance)
      else u256ToBalance cfg (st.accumulatedRewardPerShare + st.accrual cfg now) =
        st.accumulatedRewardPerShare + u256ToBalance cfg (st.remainingShare cfg rewardsBalance) := by
  unfold perShareAt
  rw [if_neg haccrues, if_neg haccrues, if_pos h]
  split
  · exact Nat.add_left_cancel_iff
  · exact Iff.rfl

end Staking

/-- The old funds suffice for the rewards due by now, or there are none due, or the new funds make no
difference: none are added, they come from the account itself, or the share they add, of all of them
or of as much as is due, is lost in rounding. -/
def AccruesAsBefore (cfg : Config AccountId) (s : State AccountId) (source : AccountId)
    (amount : ℕ) : Prop :=
  let st := s.staking
  let balance := s.ledger cfg.stakingRewards
  let due := st.owedAt cfg (st.accumulatedRewardPerShare + st.accrual cfg s.now)
  due < balance ∨ st.Idle cfg s.now ∨ amount = 0 ∨ source = cfg.stakingRewards ∨
    if balance + amount ≤ due then
      u256ToBalance cfg (st.remainingShare cfg (balance + amount)) =
        u256ToBalance cfg (st.remainingShare cfg balance)
    else u256ToBalance cfg (st.accumulatedRewardPerShare + st.accrual cfg s.now) =
      st.accumulatedRewardPerShare + u256ToBalance cfg (st.remainingShare cfg balance)

variable [DecidableEq AccountId]

/-- The balance of the staking rewards account once rewards were added. -/
theorem stakingRewards_of_doAddStakingRewards {s s' : State AccountId} {source : AccountId}
    {amount : ℕ} (h : doAddStakingRewards cfg s source amount = .ok s') :
    s'.ledger cfg.stakingRewards =
      s.ledger cfg.stakingRewards + if source = cfg.stakingRewards then 0 else amount := by
  obtain ⟨st, rate, hledger, -, -⟩ := doAddStakingRewards_eq_ok h
  split at hledger
  · have hadd := transfer_add hledger cfg.stakingRewards
    rw [if_pos rfl] at hadd
    by_cases hsource : source = cfg.stakingRewards
    · rw [if_pos hsource]
      rw [if_pos hsource.symm] at hadd
      exact Nat.add_right_cancel hadd
    · rw [if_neg hsource]
      rw [if_neg (Ne.symm hsource)] at hadd
      exact hadd
  · next hzero =>
    rw [← Except.ok.inj hledger, Nat.eq_zero_of_not_pos hzero, ite_self]
    rfl

/-- Adding rewards brings the accumulator to what an update alone brings it to exactly when the old
funds suffice for what is due, or the new ones make no difference. -/
theorem perShare_doAddStakingRewards_eq_iff {s s' : State AccountId} {source : AccountId} {amount : ℕ}
    {st : Staking AccountId} (hadd : doAddStakingRewards cfg s source amount = .ok s')
    (hupdate : s.staking.updateRewards cfg s.now (s.ledger cfg.stakingRewards) = .ok st) :
    s'.staking.accumulatedRewardPerShare = st.accumulatedRewardPerShare ↔
      AccruesAsBefore cfg s source amount := by
  obtain ⟨st', rate, -, hrewards, hstate⟩ := doAddStakingRewards_eq_ok hadd
  have hafter : s'.staking.accumulatedRewardPerShare =
      s.staking.perShareAt cfg s.now (s'.ledger cfg.stakingRewards) := by
    have hstaking := congrArg State.staking hstate
    rw [hstaking]
    exact (Staking.updateRewards_broughtUp hrewards).perShare_eq
  rw [hafter, stakingRewards_of_doAddStakingRewards hadd,
    (Staking.updateRewards_broughtUp hupdate).perShare_eq]
  unfold AccruesAsBefore
  dsimp only
  by_cases hlasts : s.staking.owedAt cfg
      (s.staking.accumulatedRewardPerShare + s.staking.accrual cfg s.now) <
        s.ledger cfg.stakingRewards
  · exact iff_of_true (Staking.perShareAt_add_of_lt hlasts) (Or.inl hlasts)
  by_cases hidle : s.staking.Idle cfg s.now
  · apply iff_of_true _ (Or.inr (Or.inl hidle))
    unfold Staking.perShareAt
    rw [if_pos hidle, if_pos hidle]
  by_cases hsource : source = cfg.stakingRewards
  · apply iff_of_true _ (Or.inr (Or.inr (Or.inr (Or.inl hsource))))
    rw [if_pos hsource, Nat.add_zero]
  by_cases hamount : amount = 0
  · apply iff_of_true _ (Or.inr (Or.inr (Or.inl hamount)))
    rw [hamount, ite_self, Nat.add_zero]
  rw [if_neg hsource, Staking.perShareAt_add_eq_iff hidle (not_lt.mp hlasts)]
  simp only [hlasts, hidle, hsource, hamount, false_or]

namespace Mock

/-- The mock runtime over a plain ledger: a transfer that the balances cover succeeds. -/
def plain : Config ℕ := { config with permits := fun _ _ _ _ _ ↦ true }

theorem isGenesis_plain : IsGenesis plain genesis := isGenesis_of_eq rfl rfl rfl

/-- One staker, rewards of 10^12 units a second for 30 days, and a number of days later. -/
def funded (number : ℕ) : List (Input ℕ) :=
  [deposit 7, .extrinsic send (.signed 8) (.addStakingRewards (10 ^ 12 * (30 * days))),
    block (number * days)]

end Mock

/-- A day after the rewards ran out, the rewards of one more day are added: the staker has accrued
them at once. -/
theorem perShare_doAddStakingRewards_ne :
    let s := run (step Mock.plain) (Mock.funded 31) Mock.genesis
    Reachable Mock.plain s ∧
      (doAddStakingRewards Mock.plain s 8 (10 ^ 12 * days)).toOption.map
        (fun s' ↦ s'.staking.accumulatedRewardPerShare) = some 26784000000000000 ∧
      (s.staking.updateRewards Mock.plain s.now (s.ledger Mock.plain.stakingRewards)).toOption.map
        (fun st ↦ st.accumulatedRewardPerShare) = some 25920000000000000 :=
  ⟨⟨Mock.genesis, Mock.isGenesis_plain, reaches_run (Mock.funded 31) _ (by decide +kernel)⟩,
    by decide +kernel, by decide +kernel⟩

/-- Ten days after the rewards were added, they still suffice. -/
theorem perShare_doAddStakingRewards_eq_funded :
    let s := run (step Mock.plain) (Mock.funded 10) Mock.genesis
    ∃ s' st, doAddStakingRewards Mock.plain s 8 (10 ^ 12 * days) = .ok s' ∧
      s'.staking.accumulatedRewardPerShare = st.accumulatedRewardPerShare ∧
      s.staking.updateRewards Mock.plain s.now (s.ledger Mock.plain.stakingRewards) = .ok st := by
  intro s
  have haccepted : (doAddStakingRewards Mock.plain s 8 (10 ^ 12 * days)).isOk = true ∧
      (s.staking.updateRewards Mock.plain s.now (s.ledger Mock.plain.stakingRewards)).isOk = true := by
    decide +kernel
  obtain ⟨s', hadd⟩ := exists_eq_ok haccepted.1
  obtain ⟨st, hupdate⟩ := exists_eq_ok haccepted.2
  exact ⟨s', st, hadd, (perShare_doAddStakingRewards_eq_iff hadd hupdate).mpr
    (Or.inl (by decide +kernel)), hupdate⟩

/-! ## The rate -/

namespace Staking

/-- The rate that spreads what the balance holds beyond what the stakers are owed over 30 days. -/
def spreadRate (cfg : Config AccountId) (rewardsBalance : ℕ) (st : Staking AccountId) : ℕ :=
  u256ToBalance cfg
    ((rewardsBalance - st.owedAt cfg st.accumulatedRewardPerShare) / (30 * days))

omit [DecidableEq AccountId] in
theorem freshRewardRate_eq_ok {st : Staking AccountId} {rewardsBalance rewardRate : ℕ}
    (h : freshRewardRate cfg rewardsBalance st.accumulatedRewardPerShare (st.localStake cfg)
      (10 ^ cfg.decimals) st.totalRewardDebt = .ok rewardRate) :
    st.owedAt cfg st.accumulatedRewardPerShare ≤ rewardsBalance ∧
      rewardRate = st.spreadRate cfg rewardsBalance := by
  simp only [freshRewardRate, bind_eq_ok, okOr_eq_ok, Checked.sub_eq_some] at h
  obtain ⟨owed, howed, _, ⟨hcovered, rfl⟩, h⟩ := h
  rw [accruedReward_owedAt howed] at hcovered h
  exact ⟨hcovered, (Except.ok.inj h).symm⟩

end Staking

/-- Adding no rewards is an update, and spreads what is left of the rewards over 30 days again. -/
theorem doAddStakingRewards_zero {s s' : State AccountId} {source : AccountId}
    (h : doAddStakingRewards cfg s source 0 = .ok s') :
    ∃ st, s.staking.updateRewards cfg s.now (s.ledger cfg.stakingRewards) = .ok st ∧
      st.owedAt cfg st.accumulatedRewardPerShare ≤ s.ledger cfg.stakingRewards ∧
      s' = { s with staking :=
        { st with rewardRate := st.spreadRate cfg (s.ledger cfg.stakingRewards) } } := by
  simp only [doAddStakingRewards, bind_eq_ok] at h
  obtain ⟨ledger, hledger, st, hrewards, total, htotal, u, hunit, rate, hrate, h⟩ := h
  rw [if_neg (lt_irrefl 0)] at hledger
  cases hledger
  rw [show total = st.localStake cfg from convert_eq_ok htotal, unit_eq_ok hunit] at hrate
  obtain ⟨hcovered, hspread⟩ := Staking.freshRewardRate_eq_ok hrate
  rw [hspread] at h
  exact ⟨st, hrewards, hcovered, (Except.ok.inj h).symm⟩

/-- Adding no rewards once more, at the same time, changes nothing. -/
theorem doAddStakingRewards_zero_twice {s s' : State AccountId} {source source' : AccountId}
    (h : doAddStakingRewards cfg s source 0 = .ok s') :
    doAddStakingRewards cfg s' source' 0 = .ok s' := by
  simp only [doAddStakingRewards, bind_eq_ok] at h
  obtain ⟨ledger, hledger, st, hrewards, total, htotal, u, hunit, rate, hrate, h⟩ := h
  rw [if_neg (lt_irrefl 0)] at hledger
  cases hledger
  cases h
  have hnow : st.timeOfLastAllocation = s.now := by
    rw [Staking.updateRewards_frame hrewards]
  have hsettled : Staking.updateRewards cfg s.now (s.ledger cfg.stakingRewards)
      { st with rewardRate := rate } = .ok { st with rewardRate := rate } := if_pos hnow
  simp only [doAddStakingRewards, bind_eq_ok]
  exact ⟨_, if_neg (lt_irrefl 0), _, hsettled, total, htotal, u, hunit, rate, hrate, rfl⟩

/-- Adding no rewards is an update, except for the rate: this spreads what is left of the rewards over
30 days again. It is the one that the update leaves when that already does, as it does after a call
that adds none at the same time. -/
theorem rewardRate_addStakingRewards_zero {send : Sender} {s s' : State AccountId}
    {source : AccountId}
    (h : dispatch cfg send s (.signed source) (.addStakingRewards 0) = .ok s') :
    ∃ st, s.staking.updateRewards cfg s.now (s.ledger cfg.stakingRewards) = .ok st ∧
      st.owedAt cfg st.accumulatedRewardPerShare ≤ s.ledger cfg.stakingRewards ∧
      s' = { s with staking :=
        { st with rewardRate := st.spreadRate cfg (s.ledger cfg.stakingRewards) } } ∧
      (s'.staking.rewardRate = st.rewardRate ↔
        st.spreadRate cfg (s.ledger cfg.stakingRewards) = st.rewardRate) ∧
      ∀ send' source', dispatch cfg send' s' (.signed source') (.addStakingRewards 0) = .ok s' := by
  have hadd : doAddStakingRewards cfg s source 0 = .ok s' := by
    have hcall : addStakingRewards cfg s source 0 = .ok s' := h
    obtain ⟨s₁, hadd, hs'⟩ := bind_eq_ok.mp hcall
    rw [if_neg (lt_irrefl 0)] at hs'
    rwa [Except.ok.inj hs'] at hadd
  obtain ⟨st, hrewards, hcovered, hstate⟩ := doAddStakingRewards_zero hadd
  refine ⟨st, hrewards, hcovered, hstate, ?_, fun send' source' ↦ ?_⟩
  · rw [congrArg State.staking hstate]
  · have hagain : doAddStakingRewards cfg s' source' 0 = .ok s' := doAddStakingRewards_zero_twice hadd
    change addStakingRewards cfg s' source' 0 = .ok s'
    exact bind_eq_ok.mpr ⟨s', hagain, by rw [if_neg (lt_irrefl 0)]⟩

/-- Ten days into 30, a call that adds nothing takes the rate of the rewards to two thirds. -/
theorem rewardRate_addStakingRewards_zero_ne :
    let s := run (step Mock.plain) (Mock.funded 10) Mock.genesis
    Reachable Mock.plain s ∧
      (dispatch Mock.plain Mock.send s (.signed 9) (.addStakingRewards 0)).toOption.map
        (fun s' ↦ s'.staking.rewardRate) = some 666666666666 ∧
      (s.staking.updateRewards Mock.plain s.now (s.ledger Mock.plain.stakingRewards)).toOption.map
        (fun st ↦ st.rewardRate) = some (10 ^ 12) :=
  ⟨⟨Mock.genesis, Mock.isGenesis_plain, reaches_run (Mock.funded 10) _ (by decide +kernel)⟩,
    by decide +kernel, by decide +kernel⟩

/-- The same call, made again by another account. -/
theorem rewardRate_addStakingRewards_zero_funded :
    let s := run (step Mock.plain) (Mock.funded 10) Mock.genesis
    ∃ s', dispatch Mock.plain Mock.send s (.signed 9) (.addStakingRewards 0) = .ok s' ∧
      dispatch Mock.plain Mock.send s' (.signed 7) (.addStakingRewards 0) = .ok s' := by
  intro s
  have haccepted : (dispatch Mock.plain Mock.send s (.signed 9) (.addStakingRewards 0)).isOk =
      true := by decide +kernel
  obtain ⟨s', h⟩ := exists_eq_ok haccepted
  obtain ⟨st, -, -, -, -, hagain⟩ := rewardRate_addStakingRewards_zero h
  exact ⟨s', h, hagain Mock.send 7⟩

end TellorPallet
