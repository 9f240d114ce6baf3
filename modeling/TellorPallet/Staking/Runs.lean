import TellorPallet.Runtime.Effects

/-!
# Stakes and staking rewards along runs

Of all inputs, only a report of the staking contract, a submission and an addition of rewards touch
the stakes, and only a settled stake takes funds out of the staking rewards account.
-/

namespace TellorPallet

open Outcome

variable {AccountId : Type} [DecidableEq AccountId] {cfg : Config AccountId}

/-- What an input does to the stakes and the staking rewards account. -/
inductive StakingStep (cfg : Config AccountId) (s : State AccountId) :
    Input AccountId → State AccountId → Prop where
  | unchanged {input : Input AccountId} {s' : State AccountId} (hstaking : s'.staking = s.staking)
      (hbalance : s.ledger cfg.stakingRewards ≤ s'.ledger cfg.stakingRewards) :
      StakingStep cfg s input s'
  | rewarded {input : Input AccountId} {s' : State AccountId} {st : Staking AccountId}
      {rewardRate : ℕ} (hbalance : s.ledger cfg.stakingRewards ≤ s'.ledger cfg.stakingRewards)
      (hrewards : s.staking.updateRewards cfg s.now (s'.ledger cfg.stakingRewards) = .ok st)
      (hstaking : s'.staking = { st with rewardRate := rewardRate }) (hrate : rewardRate ≤ u128Max) :
      StakingStep cfg s input s'
  | submitted {input : Input AccountId} {s' : State AccountId} {reporter : AccountId}
      {queryId : QueryId} {staker : StakeInfo}
      (hstaker : s.staking.stakerDetails.lookup reporter = some staker)
      (hledger : s'.ledger = s.ledger)
      (hstaking : s'.staking = s.staking.countReport reporter queryId (staker.reported s.now)) :
      StakingStep cfg s input s'
  | reported {send : Sender} {call : Call AccountId} {reporter : AccountId} {info info' : StakeInfo}
      {event : Event AccountId} {s₁ s' : State AccountId}
      (haccepted : dispatch cfg send s .staking call = .ok s') (hcall : call.staker = some reporter)
      (h : Reported cfg s reporter (call.settledBalance info) info s₁ info' event s') :
      StakingStep cfg s (.extrinsic send .staking call) s'
  | withdrawn {send : Sender} {reporter : AccountId} {amount : ℕ} {info : StakeInfo}
      {s' : State AccountId} (h : Withdrawn s reporter amount info s') :
      StakingStep cfg s (.extrinsic send .staking (.reportStakeWithdrawn reporter amount)) s'

theorem Minor.staking_eq {s s' : State AccountId} (h : Minor cfg s s') :
    s'.staking = s.staking := by
  cases h with
  | funded haccount h => rfl
  | registered hevent h =>
    obtain ⟨-, rfl⟩ := State.sendXcm_eq_ok.mp h
    rfl
  | priced h hquiet => rw [h]
  | voted h => rw [h.state_eq]
  | sent hpending h => rw [h.state_eq]

/-- No minor move takes from an account other than the pallet's main account. -/
theorem Minor.ledger_le {s s' : State AccountId} (h : Minor cfg s s') {account : AccountId}
    (hne : account ≠ cfg.account) : s.ledger account ≤ s'.ledger account := by
  cases h with
  | funded haccount h => exact le_of_transfer h hne
  | registered hevent h =>
    obtain ⟨-, rfl⟩ := State.sendXcm_eq_ok.mp h
    exact le_rfl
  | priced h hquiet => rw [h]
  | voted h => rw [h.state_eq]
  | sent hpending h => rw [h.state_eq]

theorem minor_staking_eq {s s' : State AccountId} (h : Relation.ReflTransGen (Minor cfg) s s') :
    s'.staking = s.staking := by
  induction h with
  | refl => rfl
  | tail _ hlast ih => exact hlast.staking_eq.trans ih

theorem minor_ledger_le {s s' : State AccountId} (h : Relation.ReflTransGen (Minor cfg) s s')
    {account : AccountId} (hne : account ≠ cfg.account) : s.ledger account ≤ s'.ledger account := by
  induction h with
  | refl => exact le_rfl
  | tail _ hlast ih => exact ih.trans (hlast.ledger_le hne)

/-- Adding rewards takes from their source only. -/
theorem le_of_doAddStakingRewards {s s' : State AccountId} {source account : AccountId} {amount : ℕ}
    (hne : account ≠ source) (h : doAddStakingRewards cfg s source amount = .ok s') :
    s.ledger account ≤ s'.ledger account := by
  obtain ⟨st, rate, hledger, -, -⟩ := doAddStakingRewards_eq_ok h
  split at hledger
  · exact le_of_transfer hledger hne
  · rw [Except.ok.inj hledger]

/-- Paying a claimed reward takes from the tips account only. -/
theorem le_of_payReward {s s' : State AccountId} {reporter account : AccountId} {reward : ℕ}
    (hne : account ≠ cfg.tips) (h : payReward cfg s reporter reward = .ok s') :
    s.ledger account ≤ s'.ledger account := by
  obtain ⟨fee, ledger, -, -, htransfer, hadd⟩ := payReward_eq_ok h
  exact (le_of_transfer htransfer hne).trans (le_of_doAddStakingRewards hne hadd)

/-- Added rewards come from another account. -/
theorem stakingStep_of_doAddStakingRewards {s s₀ s₁ s' : State AccountId} {input : Input AccountId}
    {source : AccountId} {amount : ℕ} (hsource : cfg.stakingRewards ≠ source)
    (hstaking : s₀.staking = s.staking) (hnow : s₀.now = s.now)
    (hbalance : s.ledger cfg.stakingRewards ≤ s₀.ledger cfg.stakingRewards)
    (h : doAddStakingRewards cfg s₀ source amount = .ok s₁) (hledger' : s'.ledger = s₁.ledger)
    (hstaking' : s'.staking = s₁.staking) : StakingStep cfg s input s' := by
  have hle := le_of_doAddStakingRewards hsource h
  have hrateLe := doAddStakingRewards_rewardRate_le h
  obtain ⟨st, rate, hledger, hrewards, hstate⟩ := doAddStakingRewards_eq_ok h
  rw [hstaking, hnow, ← hledger'] at hrewards
  rw [← hledger'] at hle
  have hrate : s'.staking = { st with rewardRate := rate } := by
    rw [hstaking', hstate]
  rw [← hstaking', hrate] at hrateLe
  exact .rewarded (hbalance.trans hle) hrewards hrate hrateLe

theorem stakingStep_of_payReward {s s₁ s' : State AccountId} {input : Input AccountId}
    {a : AutoPay AccountId} {reporter : AccountId} {reward : ℕ}
    (h : payReward cfg { s with autoPay := a } reporter reward = .ok s₁)
    (hledger' : s'.ledger = s₁.ledger) (hstaking' : s'.staking = s₁.staking) :
    StakingStep cfg s input s' := by
  obtain ⟨fee, ledger, -, -, htransfer, hadd⟩ := payReward_eq_ok h
  have hne := cfg.tips_ne_stakingRewards.symm
  refine stakingStep_of_doAddStakingRewards hne ?_ ?_ (le_of_transfer htransfer hne) hadd hledger'
    hstaking' <;> rfl

/-- Paying the fees of a dispute takes from the dispute fees account only. -/
theorem ledger_le_of_payRounds {g : Governance AccountId} {disputeId : DisputeId}
    {finalVoteRound voteRound : ℕ} {finalVote : Vote AccountId} {result : VoteResult}
    {disputedReporter account : AccountId} {ledger ledger' : Ledger AccountId}
    (h : payRounds cfg g disputeId finalVoteRound finalVote result disputedReporter voteRound ledger =
      .ok ledger') (hne : account ≠ cfg.disputeFees) : ledger account ≤ ledger' account := by
  induction voteRound generalizing ledger with
  | zero =>
    cases h
    exact le_rfl
  | succ voteRound ih =>
    obtain ⟨vote, -, h⟩ := bind_eq_ok.mp h
    obtain ⟨paid, hpaid, h⟩ := bind_eq_ok.mp h
    exact (le_of_transfer hpaid hne).trans (ih h)

/-- A move of a report takes from the staking rewards account only. -/
theorem RecordStep.ledger_le {reporter account : AccountId} {settled : Option ℕ}
    {before after : State AccountId × StakeInfo} (hne : account ≠ cfg.stakingRewards)
    (h : RecordStep cfg reporter settled before after) :
    before.1.ledger account ≤ after.1.ledger account := by
  cases h with
  | settle hsettled h =>
    obtain ⟨u, st, st₁, stake', -, -, hpaid, -, -⟩ := updateStakeAndPayRewards_eq_ok h
    rcases hpaid with ⟨-, stake, pending, hpaid⟩ | ⟨-, hledger, -⟩
    · exact le_of_transfer hpaid.transferred hne
    · exact (congrFun hledger _).ge
  | release hlocked htotal => exact le_rfl
  | lock amount => exact le_rfl
  | note startDate startVoteCount startVoteTally => exact le_rfl

theorem Reported.ledger_le {s s₁ s' : State AccountId} {reporter account : AccountId}
    {settled : Option ℕ} {info info' : StakeInfo} {event : Event AccountId}
    (hne : account ≠ cfg.stakingRewards) (h : Reported cfg s reporter settled info s₁ info' event s') :
    s.ledger account ≤ s'.ledger account := by
  have hle := h.invariant (fun after ↦ s.ledger account ≤ after.1.ledger account)
    (fun _ _ hbefore hmove ↦ hbefore.trans (hmove.ledger_le hne)) le_rfl
  exact hle.trans (congrFun (congrArg State.ledger h.state_eq) account).ge

/-- A change of balance from outside takes nothing from the pallet's accounts. -/
theorem ledger_le_of_external {s : State AccountId} {account other : AccountId} {balance : ℕ}
    (hmem : other ∈ palletAccounts cfg)
    (hpallet : account ∈ palletAccounts cfg → s.ledger account ≤ balance) :
    s.ledger other ≤ Function.update s.ledger account balance other := by
  by_cases haccount : other = account
  · rw [haccount] at hmem ⊢
    simpa using hpallet hmem
  · rw [Function.update_of_ne haccount]

theorem Effect.stakingStep {s s' : State AccountId} {input : Input AccountId}
    (h : Effect cfg s input s') : StakingStep cfg s input s' := by
  have hmem : cfg.stakingRewards ∈ palletAccounts cfg := by simp [palletAccounts]
  cases h with
  | refused => exact .unchanged rfl le_rfl
  | minor hinput h =>
    exact .unchanged (minor_staking_eq h) (minor_ledger_le h cfg.account_ne_stakingRewards.symm)
  | newBlock h => exact .unchanged rfl le_rfl
  | external hbound hpallet => exact .unchanged rfl (ledger_le_of_external hmem hpallet)
  | tipped hsigner h =>
    exact .unchanged (by rw [h.frame])
      (le_of_transfer h.transferred (ne_of_mem_of_not_mem hmem hsigner))
  | feedSetUp hbalance h => exact .unchanged (by rw [h.frame]) (by rw [h.frame])
  | feedSetUpFunded hsigner hbalance h hfunded =>
    refine .unchanged (by rw [hfunded.frame, h.frame]) ?_
    have hle := le_of_transfer hfunded.transferred (ne_of_mem_of_not_mem hmem hsigner)
    rwa [h.frame] at hle
  | feedFunded hsigner h =>
    exact .unchanged (by rw [h.frame])
      (le_of_transfer h.transferred (ne_of_mem_of_not_mem hmem hsigner))
  | onetimeClaimed hsigner h =>
    have hledger := congrArg State.ledger h.state_eq
    have hstaking := congrArg State.staking h.state_eq
    exact stakingStep_of_payReward h.paid hledger hstaking
  | feedClaimed hsigner h =>
    have hledger := congrArg State.ledger h.state_eq
    have hstaking := congrArg State.staking h.state_eq
    exact stakingStep_of_payReward h.paid hledger hstaking
  | rewardsAdded hsigner h hevents hquiet =>
    have hsource := ne_of_mem_of_not_mem hmem hsigner
    have hledger := congrArg State.ledger hevents
    have hstaking := congrArg State.staking hevents
    exact stakingStep_of_doAddStakingRewards hsource rfl rfl le_rfl h hledger hstaking
  | submitted hevent h =>
    exact .submitted h.staker_eq (by rw [h.state_eq]) (by rw [h.state_eq])
  | @disputed _ _ _ _ _ _ _ _ s₁ _ hsigner hround hmax hprepared hopened =>
    have hsame : s₁.staking = s.staking ∧ s₁.ledger = s.ledger := by
      rcases hprepared with ⟨-, iterations, hfirst⟩ | ⟨-, rfl, -⟩
      · rw [hfirst.state_eq]
        exact ⟨rfl, rfl⟩
      · exact ⟨rfl, rfl⟩
    refine .unchanged (by rw [hopened.state_eq, ← hsame.1]) ?_
    rw [← hsame.2]
    exact le_of_transfer hopened.transferred (ne_of_mem_of_not_mem hmem hsigner)
  | tallied h => exact .unchanged (by rw [h.state_eq]) (by rw [h.state_eq])
  | executed h =>
    exact .unchanged (by rw [h.state_eq])
      (ledger_le_of_payRounds h.paid cfg.stakingRewards_ne_disputeFees)
  | reported hevent haccepted hcall h => exact .reported haccepted hcall h
  | withdrawn h => exact .withdrawn h

end TellorPallet
