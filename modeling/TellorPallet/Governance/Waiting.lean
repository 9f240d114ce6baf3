import TellorPallet.Foundation.Service
import TellorPallet.Governance.Delivery

/-!
# How long a vote waits to be sent

The hook of every block sends the earliest pending votes, up to a number a block. A round that is opened
later is due later, so once a vote is due no other can get ahead of it: it waits for the votes that were
due before it and for nothing else, whatever is called in between.
-/

namespace TellorPallet

open Outcome Transition

variable {AccountId : Type} [DecidableEq AccountId] {cfg : Config AccountId}

/-- Whether an input is the hook of a block. -/
def Input.isHook : Input AccountId → Bool
  | .onInitialize _ => true
  | _ => false

/-- A hook finds the sender willing to take the messages that it attempts. -/
def AcceptsDue (cfg : Config AccountId) (s : State AccountId) : Input AccountId → Prop
  | .onInitialize send => ∀ entry ∈ (s.governance.dueVotes s.now).take maxAggregateVotesSentPerBlock,
    (acceptedMessage cfg send s.governance entry).isSome = true
  | _ => True

instance (s : State AccountId) : (input : Input AccountId) → Decidable (AcceptsDue cfg s input)
  | .onInitialize send =>
    inferInstanceAs (Decidable (∀ entry ∈ (s.governance.dueVotes s.now).take maxAggregateVotesSentPerBlock,
      (acceptedMessage cfg send s.governance entry).isSome = true))
  | .newBlock .. => .isTrue trivial
  | .external .. => .isTrue trivial
  | .extrinsic .. => .isTrue trivial

/-- From one state to a later one, no vote has come to be due by a time. -/
def NoneAdded (timestamp : ℕ) (s s' : State AccountId) : Prop :=
  ∀ entry ∈ s'.governance.dueVotes timestamp, entry ∈ s.governance.dueVotes timestamp

/-- A round was sent, or the dispute moved on from it. -/
def Governance.IsPast (g : Governance AccountId) (disputeId : DisputeId) (voteRound : ℕ) : Prop :=
  g.isSent disputeId voteRound = true ∨ voteRound < g.rounds disputeId

section Steps

variable {s s' : State AccountId} {timestamp : ℕ} {disputeId : DisputeId} {voteRound due : ℕ}

/-! ## Nothing gets ahead -/

omit [DecidableEq AccountId] in
theorem NoneAdded.of_eq (h : s'.governance.pendingVotes = s.governance.pendingVotes) :
    NoneAdded timestamp s s' := by
  intro entry hentry
  rwa [Governance.dueVotes, h] at hentry

/-- A round that is opened is due after every time that has come. -/
theorem RoundStep.noneAdded (h : RoundStep cfg s s') (htime : timestamp ≤ s.now) :
    NoneAdded timestamp s s' := by
  cases h with
  | quiet hgovernance hnow hbalance hquiet =>
    apply NoneAdded.of_eq
    rw [hgovernance]
  | voted h => exact .of_eq (congrArg (fun s ↦ s.governance.pendingVotes) h.state_eq :)
  | tallied h => exact .of_eq (congrArg (fun s ↦ s.governance.pendingVotes) h.state_eq :)
  | executed h => exact .of_eq (congrArg (fun s ↦ s.governance.pendingVotes) h.state_eq :)
  | sent hpending h =>
    rintro ⟨d, pending⟩ hentry
    rw [mem_dueVotes, h.pendingVotes_lookup] at hentry
    obtain ⟨hlookup, hdue⟩ := hentry
    split at hlookup
    · cases hlookup
    · exact mem_dueVotes.mpr ⟨hlookup, hdue⟩
  | opened h =>
    rintro ⟨d, pending⟩ hentry
    rw [mem_dueVotes, h.pendingVotes_eq, FiniteMap.lookup_insert_ite] at hentry
    obtain ⟨hlookup, hdue⟩ := hentry
    split at hlookup
    · cases hlookup
      have hpositive : 0 < 11 * hours := by decide
      exact absurd (hdue.trans htime) (not_le.mpr (Nat.lt_add_of_pos_right hpositive))
    · exact mem_dueVotes.mpr ⟨hlookup, hdue⟩

theorem Effect.noneAdded {input : Input AccountId} (h : Effect cfg s input s')
    (htime : timestamp ≤ s.now) : timestamp ≤ s'.now ∧ NoneAdded timestamp s s' :=
  h.roundInvariant (fun mid ↦ timestamp ≤ mid.now ∧ NoneAdded timestamp s mid)
    (fun _ _ hmid hmove ↦ ⟨hmid.1.trans hmove.now_le,
      fun entry hentry ↦ hmid.2 entry (hmove.noneAdded hmid.1 entry hentry)⟩)
    ⟨htime, fun _ ↦ id⟩

omit [DecidableEq AccountId] in
/-- The disputes of one list among those of another. -/
theorem length_dueVotes_le {g : Governance AccountId} {entries : List (DisputeId × ℕ × ℕ)}
    (h : ∀ entry ∈ g.dueVotes timestamp, entry ∈ entries) :
    (g.dueVotes timestamp).length ≤ entries.length :=
  (List.subperm_of_subset (List.Nodup.of_map Prod.fst nodup_dueVotes) h).length_le

/-! ## The hook -/

omit [DecidableEq AccountId] in
/-- Of the votes due by now, those due by an earlier time. -/
theorem length_filter_dueVotes {g : Governance AccountId} {now : ℕ} (htime : timestamp ≤ now) :
    ((g.dueVotes now).filter fun entry ↦ entry.2.2 ≤ timestamp).length =
      (g.dueVotes timestamp).length := by
  have hboth : ∀ entry : DisputeId × ℕ × ℕ,
      (decide (entry.2.2 ≤ timestamp) && decide (entry.2.2 ≤ now)) = decide (entry.2.2 ≤ timestamp) := by
    intro entry
    rw [Bool.and_eq_left_iff_imp, decide_eq_true_iff, decide_eq_true_iff]
    exact fun hle ↦ hle.trans htime
  rw [Governance.dueVotes, Governance.dueVotes, List.length_insertionSort]
  refine ((List.perm_insertionSort _ _).filter _).length_eq.trans ?_
  rw [List.filter_filter]
  simp only [hboth]

/-- A hook whose messages are accepted takes the earliest votes off the queue. -/
theorem onInitialize_dueVotes {send : Sender} (hinv : QueueInvariant cfg s) (htime : timestamp ≤ s.now)
    (haccepts : AcceptsDue cfg s (.onInitialize send)) :
    ((onInitialize cfg send s).governance.dueVotes timestamp).length ≤
      (s.governance.dueVotes timestamp).length - maxAggregateVotesSentPerBlock := by
  have hgovernance : (updatePrices cfg s).governance = s.governance := updatePrices_frame s
  have hsends : SendsDue cfg send (updatePrices cfg s) s.now maxAggregateVotesSentPerBlock
      (onInitialize cfg send s) :=
    doSendVotes_sendsDue send _ _ (updatePrices_queueInvariant hinv).queued
  have hpending := hsends.drained.pendingVotes
  rw [hgovernance] at hpending
  have hattempted : (acceptedRounds cfg send s.governance
      ((s.governance.dueVotes s.now).take maxAggregateVotesSentPerBlock)).map Prod.fst =
        ((s.governance.dueVotes s.now).take maxAggregateVotesSentPerBlock).map Prod.fst := by
    rw [acceptedRounds, List.filter_eq_self.mpr haccepts, List.map_map]
    rfl
  rw [hattempted] at hpending
  calc
    _ ≤ (((s.governance.dueVotes s.now).drop maxAggregateVotesSentPerBlock).filter
        fun entry ↦ entry.2.2 ≤ timestamp).length := by
      apply length_dueVotes_le
      rintro ⟨d, pending⟩ hentry
      obtain ⟨hlookup, hdue⟩ := mem_dueVotes.mp hentry
      rw [hpending] at hlookup
      split at hlookup
      · cases hlookup
      · next hleft =>
        have hmem : (d, pending) ∈ s.governance.dueVotes s.now :=
          mem_dueVotes.mpr ⟨hlookup, hdue.trans htime⟩
        rw [← List.take_append_drop maxAggregateVotesSentPerBlock (s.governance.dueVotes s.now),
          List.mem_append] at hmem
        refine List.mem_filter.mpr ⟨hmem.resolve_left fun htaken ↦ hleft ?_, decide_eq_true hdue⟩
        exact List.mem_map_of_mem htaken
    _ ≤ ((s.governance.dueVotes s.now).filter fun entry ↦ entry.2.2 ≤ timestamp).length -
        maxAggregateVotesSentPerBlock := length_filter_drop_le pairwise_dueVotes _ _
    _ = _ := by rw [length_filter_dueVotes htime]

/-! ## What becomes of a pending vote -/

omit [DecidableEq AccountId] in
theorem VoteUpdated.isSent_of {d : DisputeId} {r : ℕ} {vote vote' : Vote AccountId}
    (h : VoteUpdated s s' d r vote vote') (hsent : vote.sent = true → vote'.sent = true)
    (hbefore : s.governance.isSent disputeId voteRound = true) :
    s'.governance.isSent disputeId voteRound = true := by
  rw [Governance.isSent] at hbefore ⊢
  rw [h.lookup]
  split
  · next heq =>
    rw [heq.1, heq.2, h.vote_eq] at hbefore
    exact hsent hbefore
  · exact hbefore

theorem RoundStep.isPast (h : RoundStep cfg s s') (hinv : QueueInvariant cfg s)
    (hbefore : s.governance.IsPast disputeId voteRound) : s'.governance.IsPast disputeId voteRound := by
  rcases hbefore with hsent | hover
  · left
    cases h with
    | quiet hgovernance hnow hbalance hquiet => rwa [hgovernance]
    | voted h => exact h.voteUpdated.isSent_of id hsent
    | sent hpending h => exact h.voteUpdated.isSent_of (fun _ ↦ rfl) hsent
    | tallied h => exact h.voteUpdated.isSent_of id hsent
    | executed h => exact h.voteUpdated.isSent_of id hsent
    | @opened d r fee initiator _ h =>
      rw [Governance.isSent] at hsent ⊢
      rw [h.lookup, if_neg]
      · exact hsent
      · rintro ⟨rfl, rfl⟩
        rw [h.round_eq, (hinv.indexed _).not_defined] at hsent
        cases hsent
  · exact Or.inr (hover.trans_le (h.earlierKept hinv).rounds_le)

/-- A pending vote stays pending for the same time until its round is past. -/
theorem RoundStep.pending_or_isPast (h : RoundStep cfg s s') (hinv : QueueInvariant cfg s)
    (hpending : s.governance.pendingVotes.lookup disputeId = some (voteRound, due)) :
    s'.governance.pendingVotes.lookup disputeId = some (voteRound, due) ∨
      s'.governance.IsPast disputeId voteRound := by
  have hround : voteRound = s.governance.rounds disputeId := by
    rw [(hinv.queued disputeId).pending] at hpending
    obtain ⟨_, -, -, heq⟩ := Governance.unsentVote_eq_some.mp hpending
    exact (Prod.mk.inj heq).1
  have hkept : s'.governance.pendingVotes = s.governance.pendingVotes →
      s'.governance.pendingVotes.lookup disputeId = some (voteRound, due) := by
    intro heq
    rw [heq, hpending]
  cases h with
  | quiet hgovernance hnow hbalance hquiet => exact Or.inl (hkept (congrArg _ hgovernance))
  | voted h => exact Or.inl (hkept (congrArg (fun s ↦ s.governance.pendingVotes) h.state_eq :))
  | tallied h => exact Or.inl (hkept (congrArg (fun s ↦ s.governance.pendingVotes) h.state_eq :))
  | executed h => exact Or.inl (hkept (congrArg (fun s ↦ s.governance.pendingVotes) h.state_eq :))
  | @sent send d pending vote message _ hsent h =>
    by_cases hd : disputeId = d
    · subst hd
      rw [hpending] at hsent
      cases hsent
      right
      left
      rw [Governance.isSent, h.voteUpdated.lookup, if_pos ⟨rfl, rfl⟩]
      rfl
    · left
      rw [h.pendingVotes_lookup, if_neg hd, hpending]
  | @opened d r fee initiator _ h =>
    by_cases hd : disputeId = d
    · right
      right
      rw [h.rounds, if_pos hd, hround, hd]
      exact Nat.lt_succ_self _
    · left
      rw [h.pendingVotes_eq, FiniteMap.lookup_insert_ite, if_neg hd, hpending]

/-- Whether a vote that was pending is still so or its round is past, from any move to the next. -/
theorem Effect.pending_or_isPast {input : Input AccountId} (h : Effect cfg s input s')
    (hinv : QueueInvariant cfg s)
    (hbefore : s.governance.pendingVotes.lookup disputeId = some (voteRound, due) ∨
      s.governance.IsPast disputeId voteRound) :
    s'.governance.pendingVotes.lookup disputeId = some (voteRound, due) ∨
      s'.governance.IsPast disputeId voteRound := by
  have hboth := h.roundInvariant (fun mid ↦ QueueInvariant cfg mid ∧
      (mid.governance.pendingVotes.lookup disputeId = some (voteRound, due) ∨
        mid.governance.IsPast disputeId voteRound))
    (fun mid last hmid hmove ↦ ⟨hmove.queueInvariant _ _ hmid.1, ?_⟩) ⟨hinv, hbefore⟩
  · exact hboth.2
  · rcases hmid.2 with hpending | hpast
    · exact hmove.pending_or_isPast hmid.1 hpending
    · exact Or.inr (hmove.isPast hmid.1 hpast)

end Steps

/-! ## Runs -/

section Runs

variable {s : State AccountId} {timestamp : ℕ} {inputs : List (Input AccountId)}

theorem Admissible.queueInvariant {input : Input AccountId} (h : Admissible cfg s input)
    (hinv : QueueInvariant cfg s) : QueueInvariant cfg (step cfg input s) :=
  (step_effect h).roundInvariant (QueueInvariant cfg) RoundStep.queueInvariant hinv

theorem length_dueVotes_run (hinv : QueueInvariant cfg s) (htime : timestamp ≤ s.now)
    (hinputs : AdmitsAll (step cfg) (fun s input ↦ Admissible cfg s input ∧ AcceptsDue cfg s input)
      inputs s) :
    ((run (step cfg) inputs s).governance.dueVotes timestamp).length ≤
      (s.governance.dueVotes timestamp).length -
        maxAggregateVotesSentPerBlock * inputs.countP Input.isHook := by
  refine backlog_run_le (fun s : State AccountId ↦ QueueInvariant cfg s ∧ timestamp ≤ s.now)
    (fun s ↦ (s.governance.dueVotes timestamp).length) (fun s input hs hadmits ↦ ?_)
    (fun s input hs hadmits ↦ ?_) (fun s input hs hadmits hhook ↦ ?_) hinputs ⟨hinv, htime⟩
  · exact ⟨hadmits.1.queueInvariant hs.1, ((step_effect hadmits.1).noneAdded hs.2).1⟩
  · exact length_dueVotes_le ((step_effect hadmits.1).noneAdded hs.2).2
  · cases input with
    | onInitialize send => exact onInitialize_dueVotes hs.1 hs.2 hadmits.2
    | _ => cases hhook

/-- In any run from a reachable state, whatever is called in between, every hook whose messages are
accepted takes three votes off those that were due by a time that had come. So a vote is sent, or its
dispute has moved on, after a third as many blocks as votes were due no later. -/
theorem isPast_of_hooks (h : Reachable cfg s) (timestamp : ℕ) (htime : timestamp ≤ s.now)
    (inputs : List (Input AccountId))
    (hinputs : AdmitsAll (step cfg) (fun s input ↦ Admissible cfg s input ∧ AcceptsDue cfg s input)
      inputs s) :
    ((run (step cfg) inputs s).governance.dueVotes timestamp).length ≤
        (s.governance.dueVotes timestamp).length -
          maxAggregateVotesSentPerBlock * inputs.countP Input.isHook ∧
      ((s.governance.dueVotes timestamp).length ≤
          maxAggregateVotesSentPerBlock * inputs.countP Input.isHook →
        ∀ entry ∈ s.governance.dueVotes timestamp,
          (run (step cfg) inputs s).governance.IsPast entry.1 entry.2.1) := by
  have hbacklog := length_dueVotes_run h.queueInvariant htime hinputs
  refine ⟨hbacklog, ?_⟩
  rintro henough ⟨d, r, due⟩ hentry
  obtain ⟨hpending, hdue⟩ := mem_dueVotes.mp hentry
  have hstep : ∀ s input,
      QueueInvariant cfg s ∧ (s.governance.pendingVotes.lookup d = some (r, due) ∨
        s.governance.IsPast d r) →
      Admissible cfg s input ∧ AcceptsDue cfg s input →
      QueueInvariant cfg (step cfg input s) ∧
        ((step cfg input s).governance.pendingVotes.lookup d = some (r, due) ∨
          (step cfg input s).governance.IsPast d r) :=
    fun s input hs hadmits ↦ ⟨hadmits.1.queueInvariant hs.1,
      (step_effect hadmits.1).pending_or_isPast hs.1 hs.2⟩
  have hlater := Reaches.invariant hstep (reaches_run inputs s hinputs)
    ⟨h.queueInvariant, Or.inl hpending⟩
  refine hlater.2.resolve_left fun hstill ↦ ?_
  -- nothing is due by that time any more
  have hmem := mem_dueVotes.mpr ⟨hstill, hdue⟩
  rw [Nat.sub_eq_zero_of_le henough, Nat.le_zero, List.length_eq_zero_iff] at hbacklog
  rw [hbacklog] at hmem
  cases hmem

end Runs

/-- The vote on the mock runtime's dispute is sent by the first hook after eleven hours, though another
report is submitted before. -/
theorem isPast_of_hooks_reports :
    (run (step Mock.config) [Mock.submit 8, .onInitialize Mock.send]
      (run (step Mock.config) (Mock.reports ++ [Mock.block (12 * hours)])
        Mock.genesis)).governance.IsPast Mock.disputeId 1 :=
  (isPast_of_hooks (Mock.reachableBy_run (Mock.reports ++ [Mock.block (12 * hours)]) (by decide +kernel))
    (Mock.start + 12 * hours) (by decide +kernel) [Mock.submit 8, .onInitialize Mock.send]
    (by decide +kernel)).2 (by decide +kernel) (Mock.disputeId, 1, Mock.start + 30 + 11 * hours)
    (by decide +kernel)

end TellorPallet
