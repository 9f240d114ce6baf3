import TellorPallet.Staking.Runs

/-!
# Vote rounds along runs

Of all inputs, only the governance calls touch the vote rounds, the dispute fees and the events by
which a round is sent or a dispute executed. Each input makes a sequence of the moves below; opening
a round is the only one that adds a vote, the others update the vote they find.
-/

namespace TellorPallet

open Outcome Transition

variable {AccountId : Type} [DecidableEq AccountId] {cfg : Config AccountId}

/-- What opening a round did to the rounds of a dispute. -/
structure Opened (cfg : Config AccountId) (s : State AccountId) (disputeId : DisputeId)
    (voteRound fee : ℕ) (initiator : AccountId) (s' : State AccountId) : Prop where
  round_eq : voteRound = s.governance.rounds disputeId + 1
  round_le : voteRound ≤ maxVoteRounds
  previous : voteRound = 1 ∨ ∃ prevVote,
    s.governance.voteInfo.lookup (disputeId, voteRound - 1) = some prevVote ∧
      prevVote.tallyDate ≤ s.now ∧ s.now < prevVote.tallyDate + days ∧ prevVote.executed = false
  initiator_ne : initiator ≠ cfg.disputeFees
  transferred : transfer cfg s.ledger initiator cfg.disputeFees fee .protect = .ok s'.ledger
  dispute : ∃ dispute, s'.governance.disputeInfo.lookup disputeId = some dispute
  dispute_eq : ∀ other dispute, s.governance.disputeInfo.lookup other = some dispute →
    other ≠ disputeId ∨ voteRound ≠ 1 → s'.governance.disputeInfo.lookup other = some dispute
  rounds_eq : s'.governance.voteRounds = s.governance.voteRounds.insert disputeId voteRound
  pendingVotes_eq : s'.governance.pendingVotes =
    s.governance.pendingVotes.insert disputeId (voteRound, s.now + 11 * hours)
  voteInfo_eq : s'.governance.voteInfo = s.governance.voteInfo.insert (disputeId, voteRound)
    (newVote s disputeId voteRound fee initiator)
  now_eq : s'.now = s.now
  quiet : s'.voteEvents = s.voteEvents

/-- The moves an input is made of, as far as vote rounds are concerned. -/
inductive RoundStep (cfg : Config AccountId) (s : State AccountId) : State AccountId → Prop where
  /-- Nothing about the rounds changes. -/
  | quiet {s' : State AccountId} (hgovernance : s'.governance = s.governance)
      (hnow : s.now ≤ s'.now) (hbalance : s.ledger cfg.disputeFees ≤ s'.ledger cfg.disputeFees)
      (hquiet : s'.voteEvents = s.voteEvents) : RoundStep cfg s s'
  | voted {voter : AccountId} {disputeId : DisputeId} {supports : Option Bool}
      {vote : Vote AccountId} {s' : State AccountId}
      (h : VoteCast cfg s voter disputeId supports vote s') : RoundStep cfg s s'
  | sent {send : Sender} {disputeId : DisputeId} {pending : ℕ × ℕ} {vote : Vote AccountId}
      {message : Message} {s' : State AccountId}
      (hpending : s.governance.pendingVotes.lookup disputeId = some pending)
      (h : VoteSent cfg send s disputeId pending.1 vote message s') : RoundStep cfg s s'
  | opened {disputeId : DisputeId} {voteRound fee : ℕ} {initiator : AccountId}
      {s' : State AccountId} (h : Opened cfg s disputeId voteRound fee initiator s') :
      RoundStep cfg s s'
  | tallied {disputeId : DisputeId} {result : VoteResult} {vote : Vote AccountId}
      {dispute : Dispute AccountId} {s' : State AccountId}
      (h : VoteTallied s disputeId result vote dispute s') : RoundStep cfg s s'
  | executed {disputeId : DisputeId} {vote : Vote AccountId} {result : VoteResult}
      {dispute : Dispute AccountId} {s' : State AccountId}
      (h : VoteExecuted cfg s disputeId vote result dispute s') : RoundStep cfg s s'

theorem Minor.roundStep {s s' : State AccountId} (h : Minor cfg s s') : RoundStep cfg s s' := by
  cases h with
  | funded haccount h => exact .quiet rfl le_rfl (le_of_transfer h cfg.account_ne_disputeFees.symm) rfl
  | registered hevent h =>
    obtain ⟨-, rfl⟩ := State.sendXcm_eq_ok.mp h
    exact .quiet rfl le_rfl le_rfl (by simp [State.voteEvents, hevent])
  | priced h hquiet =>
    exact .quiet (congrArg State.governance h :) (congrArg State.now h :).ge
      (congrFun (congrArg State.ledger h :) _).ge hquiet
  | voted h => exact .voted h
  | sent hpending h => exact .sent hpending h

omit [DecidableEq AccountId] in
/-- An event that is no vote event leaves the vote events alone. -/
theorem voteEvents_append {s s' : State AccountId} {event : Event AccountId}
    (h : s'.events = s.events ++ [event]) (hevent : event.isVoteEvent = false) :
    s'.voteEvents = s.voteEvents := by
  simp [State.voteEvents, h, hevent]

theorem opened_of_prepared {s s₁ s' : State AccountId} {disputeId : DisputeId} {voteRound fee : ℕ}
    {initiator : AccountId} {queryId : QueryId} {timestamp : ℕ} {dispute : Dispute AccountId}
    {events : List (Event AccountId)} (hinitiator : initiator ≠ cfg.disputeFees)
    (hround : voteRound = s.governance.rounds disputeId + 1) (hmax : voteRound ≤ maxVoteRounds)
    (hprepared : RoundPrepared cfg s queryId timestamp disputeId voteRound dispute s₁)
    (hopened : RoundOpened cfg s₁ disputeId voteRound fee initiator events s')
    (hevents : ∀ event ∈ events, event.isVoteEvent = false) :
    Opened cfg s disputeId voteRound fee initiator s' := by
  have hquiet : s'.voteEvents = s₁.voteEvents := by
    have hnone : events.filter Event.isVoteEvent = [] := by
      rw [List.filter_eq_nil_iff]
      intro event hevent
      simp [hevents event hevent]
    rw [State.voteEvents, hopened.state_eq]
    simp [State.voteEvents, hnone]
  have hstate := hopened.state_eq
  have htransferred := hopened.transferred
  rcases hprepared with ⟨hfirst, iterations, h⟩ | ⟨hlater, rfl, prevVote, h⟩
  · have hprepare := h.state_eq
    have hquiet₁ : s₁.voteEvents = s.voteEvents :=
      voteEvents_append (congrArg State.events hprepare :) rfl
    have hledger : s₁.ledger = s.ledger := (congrArg State.ledger hprepare :)
    rw [hledger] at htransferred
    refine ⟨hround, hmax, Or.inl hfirst, hinitiator, htransferred, ⟨dispute, ?_⟩, ?_, ?_, ?_, ?_, ?_,
      hquiet.trans hquiet₁⟩
    · rw [hstate, hprepare]
      exact Finmap.lookup_insert _
    · intro other otherDispute hother hne
      rw [hstate, hprepare]
      rcases hne with hne | hne
      · exact (Finmap.lookup_insert_of_ne _ hne).trans hother
      · exact absurd hfirst hne
    · rw [hstate, hprepare]
    · rw [hstate, hprepare]
    · rw [hstate, hprepare]
      rfl
    · rw [hstate, hprepare]
  · have hday := h.within_day
    have hle := h.tallied_le
    refine ⟨hround, hmax, Or.inr ⟨prevVote, h.previous_eq, hle, by omega, h.not_executed⟩, hinitiator,
      htransferred, ⟨dispute, ?_⟩, ?_, ?_, ?_, ?_, ?_, hquiet⟩
    · rw [hstate]
      exact h.dispute_eq
    · intro other otherDispute hother _
      rw [hstate]
      exact hother
    · rw [hstate]
    · rw [hstate]
    · rw [hstate]
    · rw [hstate]

/-- Every input is a sequence of such moves. -/
theorem Effect.roundSteps {s s' : State AccountId} {input : Input AccountId}
    (h : Effect cfg s input s') : Relation.ReflTransGen (RoundStep cfg) s s' := by
  have hmem : cfg.disputeFees ∈ palletAccounts cfg := by simp [palletAccounts]
  have hquiet : ∀ {s'' : State AccountId}, s''.governance = s.governance → s''.now = s.now →
      s.ledger cfg.disputeFees ≤ s''.ledger cfg.disputeFees → s''.voteEvents = s.voteEvents →
      Relation.ReflTransGen (RoundStep cfg) s s'' :=
    fun hgovernance hnow hbalance hevents ↦
      Relation.ReflTransGen.single (.quiet hgovernance hnow.ge hbalance hevents)
  cases h with
  | refused => exact Relation.ReflTransGen.refl
  | minor hinput h => exact Relation.ReflTransGen.mono (fun _ _ hminor ↦ hminor.roundStep) _ _ h
  | newBlock h => exact Relation.ReflTransGen.single (.quiet rfl h le_rfl rfl)
  | external hbound hpallet => exact hquiet rfl rfl (ledger_le_of_external hmem hpallet) rfl
  | tipped hsigner h =>
    exact hquiet (congrArg State.governance h.frame :) (congrArg State.now h.frame :)
      (le_of_transfer h.transferred (ne_of_mem_of_not_mem hmem hsigner)) h.quiet
  | feedSetUp hbalance h =>
    exact hquiet (congrArg State.governance h.frame :) (congrArg State.now h.frame :)
      (congrFun (congrArg State.ledger h.frame :) _).ge h.quiet
  | feedSetUpFunded hsigner hbalance h hfunded =>
    have hle := le_of_transfer hfunded.transferred (ne_of_mem_of_not_mem hmem hsigner)
    rw [congrArg State.ledger h.frame] at hle
    exact hquiet ((congrArg State.governance hfunded.frame :).trans (congrArg State.governance h.frame :))
      ((congrArg State.now hfunded.frame :).trans (congrArg State.now h.frame :)) hle
      (hfunded.quiet.trans h.quiet)
  | feedFunded hsigner h =>
    exact hquiet (congrArg State.governance h.frame :) (congrArg State.now h.frame :)
      (le_of_transfer h.transferred (ne_of_mem_of_not_mem hmem hsigner)) h.quiet
  | onetimeClaimed hsigner h =>
    have hle := le_of_payReward cfg.tips_ne_disputeFees.symm h.paid
    rw [← congrArg State.ledger h.state_eq] at hle
    exact hquiet (congrArg State.governance h.frame :) (congrArg State.now h.frame :) hle
      (voteEvents_append (congrArg State.events h.frame :) rfl)
  | feedClaimed hsigner h =>
    have hle := le_of_payReward cfg.tips_ne_disputeFees.symm h.paid
    rw [← congrArg State.ledger h.state_eq] at hle
    exact hquiet (congrArg State.governance h.frame :) (congrArg State.now h.frame :) hle
      (voteEvents_append (congrArg State.events h.frame :) rfl)
  | rewardsAdded hsigner h hevents hquiet' =>
    have hframe := doAddStakingRewards_frame h
    have hle := le_of_doAddStakingRewards (ne_of_mem_of_not_mem hmem hsigner) h
    rw [← congrArg State.ledger hevents] at hle
    refine hquiet ((congrArg State.governance hevents :).trans (congrArg State.governance hframe :))
      ((congrArg State.now hevents :).trans (congrArg State.now hframe :)) hle (hquiet'.trans ?_)
    rw [State.voteEvents, congrArg State.events hframe, State.voteEvents]
  | submitted hevent h =>
    exact hquiet (congrArg State.governance h.state_eq :) (congrArg State.now h.state_eq :)
      (congrFun (congrArg State.ledger h.state_eq :) _).ge
      (voteEvents_append (congrArg State.events h.state_eq :) hevent)
  | disputed hsigner hround hmax hprepared hopened =>
    have hinitiator := (ne_of_mem_of_not_mem hmem hsigner).symm
    refine Relation.ReflTransGen.single
      (.opened (opened_of_prepared hinitiator hround hmax hprepared hopened ?_))
    simp [Event.isVoteEvent]
  | tallied h => exact Relation.ReflTransGen.single (.tallied h)
  | executed h => exact Relation.ReflTransGen.single (.executed h)
  | reported hevent haccepted hcall h =>
    exact hquiet (congrArg State.governance h.frame :) (congrArg State.now h.frame :)
      (h.ledger_le cfg.stakingRewards_ne_disputeFees.symm)
      (voteEvents_append (congrArg State.events h.frame :) hevent)
  | withdrawn h =>
    exact hquiet (congrArg State.governance h.state_eq :) (congrArg State.now h.state_eq :)
      (congrFun (congrArg State.ledger h.state_eq :) _).ge
      (voteEvents_append (congrArg State.events h.state_eq :) rfl)

theorem RoundStep.now_le {s s' : State AccountId} (h : RoundStep cfg s s') : s.now ≤ s'.now := by
  cases h with
  | quiet hgovernance hnow hbalance hquiet => exact hnow
  | voted h => exact (congrArg State.now h.state_eq :).ge
  | sent hpending h => exact (congrArg State.now h.state_eq :).ge
  | opened h => exact h.now_eq.ge
  | tallied h => exact (congrArg State.now h.state_eq :).ge
  | executed h => exact (congrArg State.now h.state_eq :).ge

/-- What every move preserves, every input preserves. -/
theorem Effect.roundInvariant {s s' : State AccountId} {input : Input AccountId}
    (inv : State AccountId → Prop) (h : Effect cfg s input s')
    (hmove : ∀ s s', inv s → RoundStep cfg s s' → inv s') (hinv : inv s) : inv s' := by
  have hmoves := h.roundSteps
  clear h
  induction hmoves with
  | refl => exact hinv
  | tail _ hlast ih => exact hmove _ _ ih hlast

theorem Reachable.roundInvariant {s : State AccountId} (inv : State AccountId → Prop)
    (h : Reachable cfg s) (hgenesis : ∀ s, IsGenesis cfg s → inv s)
    (hmove : ∀ s s', inv s → RoundStep cfg s s' → inv s') : inv s :=
  h.invariant inv hgenesis fun _ _ _ hinv heffect ↦ heffect.roundInvariant inv hmove hinv

/-! ## Inputs that touch votes and disputes -/

/-- What an input does to votes and disputes: minor moves, the effect of the one governance call it
makes, or nothing. -/
inductive GovernanceStep (cfg : Config AccountId) (s : State AccountId) :
    Input AccountId → State AccountId → Prop where
  | unchanged {input : Input AccountId} {s' : State AccountId}
      (hgovernance : s'.governance = s.governance) : GovernanceStep cfg s input s'
  | minor {input : Input AccountId} {s' : State AccountId}
      (h : Relation.ReflTransGen (Minor cfg) s s') : GovernanceStep cfg s input s'
  | disputed {input : Input AccountId} {initiator : AccountId} {queryId : QueryId} {timestamp : ℕ}
      {disputeId : DisputeId} {voteRound fee : ℕ} {dispute : Dispute AccountId}
      {s₁ s' : State AccountId} {events : List (Event AccountId)}
      (h : Opened cfg s disputeId voteRound fee initiator s')
      (hprepared : RoundPrepared cfg s queryId timestamp disputeId voteRound dispute s₁)
      (hopened : RoundOpened cfg s₁ disputeId voteRound fee initiator events s') :
      GovernanceStep cfg s input s'
  | tallied {send : Sender} {disputeId : DisputeId} {result : VoteResult} {vote : Vote AccountId}
      {dispute : Dispute AccountId} {s' : State AccountId}
      (h : VoteTallied s disputeId result vote dispute s') :
      GovernanceStep cfg s (.extrinsic send .governance (.reportVoteTallied disputeId result)) s'
  | executed {input : Input AccountId} {disputeId : DisputeId} {vote : Vote AccountId}
      {result : VoteResult} {dispute : Dispute AccountId} {s' : State AccountId}
      (h : VoteExecuted cfg s disputeId vote result dispute s') : GovernanceStep cfg s input s'

theorem Effect.governanceStep {s s' : State AccountId} {input : Input AccountId}
    (h : Effect cfg s input s') : GovernanceStep cfg s input s' := by
  cases h with
  | refused => exact .unchanged rfl
  | minor hinput h => exact .minor h
  | newBlock h => exact .unchanged rfl
  | external hbound hpallet => exact .unchanged rfl
  | tipped hsigner h => exact .unchanged (congrArg State.governance h.frame :)
  | feedSetUp hbalance h => exact .unchanged (congrArg State.governance h.frame :)
  | feedSetUpFunded hsigner hbalance h hfunded =>
    exact .unchanged ((congrArg State.governance hfunded.frame :).trans
      (congrArg State.governance h.frame :))
  | feedFunded hsigner h => exact .unchanged (congrArg State.governance h.frame :)
  | onetimeClaimed hsigner h => exact .unchanged (congrArg State.governance h.frame :)
  | feedClaimed hsigner h => exact .unchanged (congrArg State.governance h.frame :)
  | rewardsAdded hsigner h hevents hquiet =>
    exact .unchanged ((congrArg State.governance hevents :).trans
      (congrArg State.governance (doAddStakingRewards_frame h) :))
  | submitted hevent h => exact .unchanged (congrArg State.governance h.state_eq :)
  | disputed hsigner hround hmax hprepared hopened =>
    have hmem : cfg.disputeFees ∈ palletAccounts cfg := by simp [palletAccounts]
    refine .disputed (opened_of_prepared ?_ hround hmax hprepared hopened ?_) hprepared hopened
    · exact (ne_of_mem_of_not_mem hmem hsigner).symm
    · simp [Event.isVoteEvent]
  | tallied h => exact .tallied h
  | executed h => exact .executed h
  | reported hevent haccepted hcall h => exact .unchanged (congrArg State.governance h.frame :)
  | withdrawn h => exact .unchanged (congrArg State.governance h.state_eq :)

/-- No vote is taken out of the counts. -/
structure VotesCounted (g g' : Governance AccountId) : Prop where
  voteCount_le : g.voteCount ≤ g'.voteCount
  voteTally_le : ∀ voter, g.voteTally voter ≤ g'.voteTally voter

theorem VotesCounted.refl (g : Governance AccountId) : VotesCounted g g := ⟨le_rfl, fun _ ↦ le_rfl⟩

theorem VotesCounted.trans {g g' g'' : Governance AccountId} (h : VotesCounted g g')
    (h' : VotesCounted g' g'') : VotesCounted g g'' :=
  ⟨h.voteCount_le.trans h'.voteCount_le, fun voter ↦ (h.voteTally_le voter).trans (h'.voteTally_le voter)⟩

theorem Minor.votesCounted {s s' : State AccountId} (h : Minor cfg s s') :
    VotesCounted s.governance s'.governance := by
  cases h with
  | funded haccount h => exact .refl _
  | registered hevent h =>
    obtain ⟨-, rfl⟩ := State.sendXcm_eq_ok.mp h
    exact .refl _
  | priced h hquiet =>
    rw [h]
    exact .refl _
  | @voted voter _ _ _ _ h =>
    rw [h.state_eq]
    refine ⟨le_rfl, fun other ↦ ?_⟩
    change _ ≤ FiniteMap.read (s.governance.voteTallyByAddress.insert voter _) 0 other
    rw [FiniteMap.read_insert]
    split
    · next heq =>
      rw [heq]
      exact Nat.le_succ _
    · exact le_rfl
  | sent hpending h =>
    rw [h.state_eq]
    exact ⟨le_rfl, fun _ ↦ le_rfl⟩

theorem Effect.votesCounted {s s' : State AccountId} {input : Input AccountId}
    (h : Effect cfg s input s') : VotesCounted s.governance s'.governance := by
  have hstep := h.governanceStep
  clear h
  cases hstep with
  | unchanged hgovernance =>
    rw [hgovernance]
    exact .refl _
  | minor h =>
    induction h with
    | refl => exact .refl _
    | tail _ hlast ih => exact ih.trans hlast.votesCounted
  | disputed h hprepared hopened =>
    rw [hopened.state_eq]
    rcases hprepared with ⟨-, iterations, hfirst⟩ | ⟨-, rfl, -⟩
    · rw [hfirst.state_eq]
      exact ⟨Nat.le_succ _, fun _ ↦ le_rfl⟩
    · exact ⟨Nat.le_succ _, fun _ ↦ le_rfl⟩
  | tallied h =>
    rw [h.state_eq]
    exact ⟨le_rfl, fun _ ↦ le_rfl⟩
  | executed h =>
    rw [h.state_eq]
    exact ⟨le_rfl, fun _ ↦ le_rfl⟩

/-! ## Updates of one vote -/

/-- A move that updates one vote of a round that exists, and neither its dispute nor what the round
was opened with. -/
structure VoteUpdated (s s' : State AccountId) (disputeId : DisputeId) (voteRound : ℕ)
    (vote vote' : Vote AccountId) : Prop where
  vote_eq : s.governance.voteInfo.lookup (disputeId, voteRound) = some vote
  voteInfo_eq : s'.governance.voteInfo = s.governance.voteInfo.insert (disputeId, voteRound) vote'
  rounds_eq : s'.governance.voteRounds = s.governance.voteRounds
  disputeInfo_eq : s'.governance.disputeInfo = s.governance.disputeInfo
  now_eq : s'.now = s.now
  voteRound_eq : vote'.voteRound = vote.voteRound
  startDate_eq : vote'.startDate = vote.startDate
  fee_eq : vote'.fee = vote.fee
  initiator_eq : vote'.initiator = vote.initiator

section Updates

variable {s s' : State AccountId} {disputeId : DisputeId} {vote : Vote AccountId}

theorem VoteCast.voteUpdated {voter : AccountId} {supports : Option Bool}
    (h : VoteCast cfg s voter disputeId supports vote s') :
    VoteUpdated s s' disputeId (s.governance.rounds disputeId) vote { vote with
      reporters := vote.reporters.accrue u128Max supports
        ((s.staking.stakerDetails.lookup voter).elim 0 StakeInfo.reportsSubmitted)
      users := vote.users.accrue cfg.balanceMax supports (s.autoPay.tipsByAddress voter) } := by
  have hstate := h.state_eq
  have hvote := h.vote_eq
  subst hstate
  exact ⟨hvote, rfl, rfl, rfl, rfl, rfl, rfl, rfl, rfl⟩

omit [DecidableEq AccountId] in
theorem VoteSent.voteUpdated {send : Sender} {voteRound : ℕ} {message : Message}
    (h : VoteSent cfg send s disputeId voteRound vote message s') :
    VoteUpdated s s' disputeId voteRound vote { vote with sent := true } := by
  have hstate := h.state_eq
  have hvote := h.vote_eq
  subst hstate
  exact ⟨hvote, rfl, rfl, rfl, rfl, rfl, rfl, rfl, rfl⟩

omit [DecidableEq AccountId] in
theorem VoteTallied.voteUpdated {result : VoteResult} {dispute : Dispute AccountId}
    (h : VoteTallied s disputeId result vote dispute s') :
    VoteUpdated s s' disputeId (s.governance.rounds disputeId) vote
      { vote with result := some result, tallyDate := s.now } := by
  have hstate := h.state_eq
  have hvote := h.vote_eq
  subst hstate
  exact ⟨hvote, rfl, rfl, rfl, rfl, rfl, rfl, rfl, rfl⟩

theorem VoteExecuted.voteUpdated {result : VoteResult} {dispute : Dispute AccountId}
    (h : VoteExecuted cfg s disputeId vote result dispute s') :
    VoteUpdated s s' disputeId (s.governance.rounds disputeId) vote { vote with executed := true } := by
  have hstate := h.state_eq
  have hvote := h.vote_eq
  rw [hstate]
  exact ⟨hvote, rfl, rfl, rfl, rfl, rfl, rfl, rfl, rfl⟩

omit [DecidableEq AccountId] in
theorem VoteUpdated.rounds {voteRound : ℕ} {vote' : Vote AccountId}
    (h : VoteUpdated s s' disputeId voteRound vote vote') (other : DisputeId) :
    s'.governance.rounds other = s.governance.rounds other := by
  simp only [Governance.rounds, h.rounds_eq]

omit [DecidableEq AccountId] in
/-- The vote found after an update is the updated one, or the one that was there. -/
theorem VoteUpdated.lookup {voteRound : ℕ} {vote' : Vote AccountId}
    (h : VoteUpdated s s' disputeId voteRound vote vote') (d : DisputeId) (r : ℕ) :
    s'.governance.voteInfo.lookup (d, r) =
      if d = disputeId ∧ r = voteRound then some vote'
      else s.governance.voteInfo.lookup (d, r) := by
  rw [h.voteInfo_eq, FiniteMap.lookup_insert_ite]
  simp only [Prod.mk.injEq]

theorem Opened.rounds {voteRound fee : ℕ} {initiator : AccountId}
    (h : Opened cfg s disputeId voteRound fee initiator s') (other : DisputeId) :
    s'.governance.rounds other =
      if other = disputeId then s.governance.rounds disputeId + 1 else s.governance.rounds other := by
  simp only [Governance.rounds, h.rounds_eq, FiniteMap.read_insert]
  split
  · rw [h.round_eq]
    rfl
  · rfl

theorem Opened.lookup {voteRound fee : ℕ} {initiator : AccountId}
    (h : Opened cfg s disputeId voteRound fee initiator s') (d : DisputeId) (r : ℕ) :
    s'.governance.voteInfo.lookup (d, r) =
      if d = disputeId ∧ r = voteRound then some (newVote s disputeId voteRound fee initiator)
      else s.governance.voteInfo.lookup (d, r) := by
  rw [h.voteInfo_eq, FiniteMap.lookup_insert_ite]
  simp only [Prod.mk.injEq]

end Updates

end TellorPallet
