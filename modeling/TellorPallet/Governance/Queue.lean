import TellorPallet.Governance.Rounds

/-!
# The queue of pending votes

Opening a round queues it, over the round before it if that one was never sent; sending it takes it
off the queue. Both the extrinsic and the hook drain the queue as far as they may and drop the errors
of single votes, so each attempt has to leave the queue, the vote and the accepted messages in step.
-/

namespace TellorPallet

open Outcome Transition

variable {AccountId : Type} [DecidableEq AccountId] {cfg : Config AccountId}

/-- Whether a round of a dispute was sent. -/
def Governance.isSent (g : Governance AccountId) (disputeId : DisputeId) (voteRound : ℕ) : Bool :=
  (g.voteInfo.lookup (disputeId, voteRound)).elim false Vote.sent

/-- The current round of a dispute while it is not sent, with the time it is due. -/
def Governance.unsentVote (g : Governance AccountId) (disputeId : DisputeId) : Option (ℕ × ℕ) :=
  (g.voteInfo.lookup (disputeId, g.rounds disputeId)).bind fun vote ↦
    if vote.sent = true then none else some (g.rounds disputeId, vote.startDate + 11 * hours)

/-- How often the sender accepted a round of a dispute. -/
def State.timesSent (cfg : Config AccountId) (s : State AccountId) (disputeId : DisputeId)
    (voteRound : ℕ) : ℕ :=
  s.events.count (.voteSent cfg.governance.paraId cfg.governance.address disputeId voteRound)

/-- The queue holds the current round of a dispute exactly while it is not sent, and no round was sent
more often than its flag says. -/
structure Queued (cfg : Config AccountId) (s : State AccountId) (disputeId : DisputeId) : Prop where
  pending : s.governance.pendingVotes.lookup disputeId = s.governance.unsentVote disputeId
  sent : ∀ r, s.timesSent cfg disputeId r = (s.governance.isSent disputeId r).toNat

theorem State.timesSent_eq (s : State AccountId) (disputeId : DisputeId) (voteRound : ℕ) :
    s.timesSent cfg disputeId voteRound = s.voteEvents.count
      (.voteSent cfg.governance.paraId cfg.governance.address disputeId voteRound) :=
  (List.count_filter rfl).symm

section Steps

variable {s s' : State AccountId} {disputeId : DisputeId}

omit [DecidableEq AccountId] in
theorem Governance.unsentVote_eq_some {g : Governance AccountId} {entry : ℕ × ℕ} :
    g.unsentVote disputeId = some entry ↔
      ∃ vote, g.voteInfo.lookup (disputeId, g.rounds disputeId) = some vote ∧ vote.sent = false ∧
        entry = (g.rounds disputeId, vote.startDate + 11 * hours) := by
  rw [Governance.unsentVote, Option.bind_eq_some_iff]
  refine exists_congr fun vote ↦ and_congr_right fun _ ↦ ?_
  cases vote.sent <;> simp [eq_comm]

/-- An update that keeps the flag of its vote keeps the queue. -/
theorem VoteUpdated.queued {d : DisputeId} {r : ℕ} {vote vote' : Vote AccountId}
    (h : VoteUpdated s s' d r vote vote') (hsent : vote'.sent = vote.sent)
    (hpending : s'.governance.pendingVotes = s.governance.pendingVotes)
    (htimes : ∀ i, s'.timesSent cfg disputeId i = s.timesSent cfg disputeId i)
    (hinv : Queued cfg s disputeId) : Queued cfg s' disputeId := by
  have hvote := h.vote_eq
  refine ⟨?_, fun i ↦ ?_⟩
  · rw [hpending, hinv.pending, Governance.unsentVote, Governance.unsentVote, h.rounds, h.lookup]
    split
    · next heq =>
      rw [heq.1, heq.2] at *
      rw [hvote, Option.bind_some, Option.bind_some, hsent, h.startDate_eq]
    · rfl
  · rw [htimes, hinv.sent, Governance.isSent, Governance.isSent, h.lookup]
    split
    · next heq =>
      rw [heq.1, heq.2, hvote, Option.elim_some, Option.elim_some, hsent]
    · rfl

theorem VoteSent.queued {send : Sender} {d : DisputeId} {pending : ℕ × ℕ} {vote : Vote AccountId}
    {message : Message} (h : VoteSent cfg send s d pending.1 vote message s')
    (hpending : s.governance.pendingVotes.lookup d = some pending)
    (hqueued : Queued cfg s d) (hinv : Queued cfg s disputeId) : Queued cfg s' disputeId := by
  have hupdated := h.voteUpdated
  -- what is pending is the current round
  have hround : pending.1 = s.governance.rounds d := by
    rw [hqueued.pending] at hpending
    obtain ⟨_, -, -, rfl⟩ := Governance.unsentVote_eq_some.mp hpending
    rfl
  refine ⟨?_, fun i ↦ ?_⟩
  · rw [h.pendingVotes_lookup, Governance.unsentVote, hupdated.rounds, hupdated.lookup, hround]
    by_cases hd : disputeId = d
    · subst hd
      simp
    · rw [if_neg hd, if_neg fun heq ↦ hd heq.1]
      exact hinv.pending
  · have hevents : s'.events = s.events ++
        [.voteSent cfg.governance.paraId cfg.governance.address d pending.1] :=
      (congrArg State.events h.state_eq :)
    rw [State.timesSent, hevents, List.count_append, Governance.isSent, hupdated.lookup]
    split
    · next heq =>
      have hzero := hinv.sent i
      rw [State.timesSent, Governance.isSent, heq.1, heq.2, h.vote_eq, Option.elim_some,
        h.not_sent] at hzero
      rw [heq.1, heq.2, hzero, List.count_singleton_self]
      rfl
    · next hne =>
      have hother : List.count
          (Event.voteSent cfg.governance.paraId cfg.governance.address disputeId i : Event AccountId)
          [.voteSent cfg.governance.paraId cfg.governance.address d pending.1] = 0 := by
        rw [List.count_eq_zero, List.mem_singleton]
        intro heq
        injection heq with _ _ hd hi
        exact hne ⟨hd, hi⟩
      rw [hother]
      exact hinv.sent i

/-- Opening a round queues it, whatever was queued before. -/
theorem Opened.queued {d : DisputeId} {r fee : ℕ} {initiator : AccountId}
    (h : Opened cfg s d r fee initiator s') (hindexed : RoundsIndexed s.governance disputeId)
    (hinv : Queued cfg s disputeId) : Queued cfg s' disputeId := by
  have hround := h.round_eq
  refine ⟨?_, fun i ↦ ?_⟩
  · rw [h.pendingVotes_eq, FiniteMap.lookup_insert_ite, Governance.unsentVote, h.rounds, h.lookup]
    by_cases hd : disputeId = d
    · subst hd
      rw [if_pos rfl, if_pos rfl, if_pos ⟨rfl, hround.symm⟩, hround]
      rfl
    · rw [if_neg hd, if_neg hd, if_neg fun heq ↦ hd heq.1]
      exact hinv.pending
  · rw [State.timesSent_eq, h.quiet, ← State.timesSent_eq, hinv.sent, Governance.isSent,
      Governance.isSent, h.lookup]
    split
    · next heq =>
      rw [heq.1] at hindexed
      rw [heq.1, heq.2, hround, hindexed.not_defined]
      rfl
    · rfl

theorem RoundStep.queued (h : RoundStep cfg s s') (hindexed : RoundsIndexed s.governance disputeId)
    (hinv : ∀ disputeId, Queued cfg s disputeId) : Queued cfg s' disputeId := by
  cases h with
  | quiet hgovernance hnow hbalance hquiet =>
    refine ⟨?_, fun i ↦ ?_⟩
    · rw [hgovernance]
      exact (hinv disputeId).pending
    · rw [State.timesSent_eq, hquiet, ← State.timesSent_eq, hgovernance]
      exact (hinv disputeId).sent i
  | voted h =>
    refine h.voteUpdated.queued rfl (congrArg (fun s ↦ s.governance.pendingVotes) h.state_eq :)
      (fun i ↦ ?_) (hinv disputeId)
    rw [State.timesSent, congrArg State.events h.state_eq]
    simp [State.timesSent]
  | @sent send d pending vote message _ hpending h =>
    exact h.queued hpending (hinv d) (hinv disputeId)
  | opened h => exact h.queued hindexed (hinv disputeId)
  | tallied h =>
    refine h.voteUpdated.queued rfl (congrArg (fun s ↦ s.governance.pendingVotes) h.state_eq :)
      (fun i ↦ ?_) (hinv disputeId)
    rw [State.timesSent, congrArg State.events h.state_eq]
    simp [State.timesSent]
  | executed h =>
    refine h.voteUpdated.queued rfl (congrArg (fun s ↦ s.governance.pendingVotes) h.state_eq :)
      (fun i ↦ ?_) (hinv disputeId)
    rw [State.timesSent, congrArg State.events h.state_eq]
    simp [State.timesSent]

/-- The rounds of all disputes are in order, and so is the queue. -/
structure QueueInvariant (cfg : Config AccountId) (s : State AccountId) : Prop where
  indexed : ∀ disputeId, RoundsIndexed s.governance disputeId
  queued : ∀ disputeId, Queued cfg s disputeId

theorem RoundStep.queueInvariant (s s' : State AccountId) (hinv : QueueInvariant cfg s)
    (h : RoundStep cfg s s') : QueueInvariant cfg s' :=
  ⟨fun d ↦ h.roundsIndexed (hinv.indexed d), fun d ↦ h.queued (hinv.indexed d) hinv.queued⟩

theorem Reachable.queueInvariant (h : Reachable cfg s) : QueueInvariant cfg s := by
  refine h.roundInvariant (QueueInvariant cfg)
    (fun s₀ hgenesis ↦ ⟨fun d ↦ roundsIndexed_genesis hgenesis, fun d ↦ ?_⟩) RoundStep.queueInvariant
  obtain ⟨ledger, blockNumber, now, -, rfl⟩ := hgenesis
  exact ⟨by simp [State.genesis, Governance.unsentVote],
    fun r ↦ by simp [State.genesis, State.timesSent, Governance.isSent]⟩

/-- The price update of the hook leaves the queue in order. -/
theorem updatePrices_queueInvariant (hinv : QueueInvariant cfg s) :
    QueueInvariant cfg (updatePrices cfg s) := by
  have heffect : Effect cfg s (.onInitialize fun _ ↦ .ok ()) (updatePrices cfg s) :=
    .minor rfl (minor_updatePrices s)
  exact heffect.roundInvariant (QueueInvariant cfg) RoundStep.queueInvariant hinv

end Steps

/-! ## Draining the queue -/

section Drain

/-- The message of a pending vote, when the sender accepts it. -/
def acceptedMessage (cfg : Config AccountId) (send : Sender) (g : Governance AccountId)
    (entry : DisputeId × ℕ × ℕ) : Option Message := do
  let vote ← g.voteInfo.lookup (entry.1, entry.2.1)
  let message ← (voteMessage cfg entry.1 vote).toOption
  if (send message).isOk = true then some message else none

/-- The rounds among the attempted ones whose message the sender accepts. -/
def acceptedRounds (cfg : Config AccountId) (send : Sender) (g : Governance AccountId)
    (attempts : List (DisputeId × ℕ × ℕ)) : List (DisputeId × ℕ) :=
  (attempts.filter fun entry ↦ (acceptedMessage cfg send g entry).isSome).map
    fun entry ↦ (entry.1, entry.2.1)

/-- A number of attempts sent and dequeued exactly the rounds whose message was accepted. -/
structure Drained (cfg : Config AccountId) (send : Sender) (s : State AccountId)
    (attempts : List (DisputeId × ℕ × ℕ)) (s' : State AccountId) : Prop where
  pendingVotes : ∀ d, s'.governance.pendingVotes.lookup d =
    if d ∈ (acceptedRounds cfg send s.governance attempts).map Prod.fst then none
    else s.governance.pendingVotes.lookup d
  voteInfo : ∀ d r, s'.governance.voteInfo.lookup (d, r) =
    (s.governance.voteInfo.lookup (d, r)).map fun vote ↦
      if (d, r) ∈ acceptedRounds cfg send s.governance attempts then { vote with sent := true }
      else vote
  sentMessages : s'.sentMessages =
    s.sentMessages ++ attempts.filterMap (acceptedMessage cfg send s.governance)
  events : s'.events = s.events ++ (acceptedRounds cfg send s.governance attempts).map fun round ↦
    .voteSent cfg.governance.paraId cfg.governance.address round.1 round.2
  frame : s' = { s with
    governance := { s.governance with
      pendingVotes := s'.governance.pendingVotes
      voteInfo := s'.governance.voteInfo }
    sentMessages := s'.sentMessages
    events := s'.events }

variable {send : Sender} {s s' : State AccountId}

omit [DecidableEq AccountId] in
theorem acceptedMessage_eq_some {g : Governance AccountId} {entry : DisputeId × ℕ × ℕ}
    {message : Message} :
    acceptedMessage cfg send g entry = some message ↔
      ∃ vote, g.voteInfo.lookup (entry.1, entry.2.1) = some vote ∧
        voteMessage cfg entry.1 vote = .ok message ∧ send message = .ok () := by
  simp only [acceptedMessage, Option.bind_eq_bind, Option.bind_eq_some_iff]
  refine exists_congr fun vote ↦ and_congr_right fun _ ↦ ?_
  cases voteMessage cfg entry.1 vote with
  | error e => simp [Except.toOption]
  | ok found =>
    cases hsend : send found with
    | error e =>
      simp only [Except.toOption, Option.some.injEq, exists_eq_left', hsend, Except.isOk,
        Except.toBool, Except.ok.injEq]
      constructor
      · nofun
      · rintro ⟨rfl, h⟩
        rw [hsend] at h
        cases h
    | ok u =>
      simp only [Except.toOption, Option.some.injEq, exists_eq_left', hsend, Except.isOk,
        Except.toBool, if_true, Except.ok.injEq]
      exact ⟨fun h ↦ ⟨h, h ▸ hsend⟩, fun h ↦ h.1⟩

omit [DecidableEq AccountId] in
/-- Other rounds do not matter for whether a message is accepted. -/
theorem acceptedMessage_congr {g g' : Governance AccountId} {entry : DisputeId × ℕ × ℕ}
    (h : g'.voteInfo.lookup (entry.1, entry.2.1) = g.voteInfo.lookup (entry.1, entry.2.1)) :
    acceptedMessage cfg send g' entry = acceptedMessage cfg send g entry := by
  rw [acceptedMessage, acceptedMessage, h]

omit [DecidableEq AccountId] in
/-- One attempt at a vote that is not sent yet: it is sent when its message is accepted. -/
theorem trySendVote_eq {entry : DisputeId × ℕ × ℕ} {vote : Vote AccountId}
    (hvote : s.governance.voteInfo.lookup (entry.1, entry.2.1) = some vote)
    (hsent : vote.sent = false) :
    (∃ message, acceptedMessage cfg send s.governance entry = some message ∧
        VoteSent cfg send s entry.1 entry.2.1 vote message (trySendVote cfg send s entry)) ∨
      (acceptedMessage cfg send s.governance entry = none ∧ trySendVote cfg send s entry = s) := by
  cases haccepted : acceptedMessage cfg send s.governance entry with
  | some message =>
    left
    obtain ⟨found, hfound, hmessage, hsend⟩ := acceptedMessage_eq_some.mp haccepted
    rw [hvote] at hfound
    cases hfound
    refine ⟨message, rfl, ?_⟩
    obtain ⟨s₁, hs₁⟩ : ∃ s₁, VoteSent cfg send s entry.1 entry.2.1 vote message s₁ :=
      ⟨_, hvote, hsent, hmessage, hsend, rfl⟩
    rw [trySendVote, sendVote_eq_ok.mpr ⟨vote, message, hs₁⟩]
    exact hs₁
  | none =>
    right
    refine ⟨rfl, ?_⟩
    rcases trySendVote_cases cfg send s entry with ⟨found, message, h⟩ | heq
    · have hsome := acceptedMessage_eq_some.mpr ⟨found, h.vote_eq, h.message_eq, h.accepted⟩
      rw [haccepted] at hsome
      cases hsome
    · exact heq

omit [DecidableEq AccountId] in
/-- An attempt whose message is refused changes nothing. -/
theorem Drained.skip {entry : DisputeId × ℕ × ℕ} {rest : List (DisputeId × ℕ × ℕ)}
    (hrefused : acceptedMessage cfg send s.governance entry = none) (h : Drained cfg send s rest s') :
    Drained cfg send s (entry :: rest) s' := by
  have hrounds : acceptedRounds cfg send s.governance (entry :: rest) =
      acceptedRounds cfg send s.governance rest := by
    rw [acceptedRounds, List.filter_cons_of_neg (by rw [hrefused]; exact Bool.false_ne_true),
      acceptedRounds]
  refine ⟨?_, ?_, ?_, ?_, h.frame⟩
  · rw [hrounds]
    exact h.pendingVotes
  · rw [hrounds]
    exact h.voteInfo
  · rw [List.filterMap_cons_none hrefused]
    exact h.sentMessages
  · rw [hrounds]
    exact h.events

omit [DecidableEq AccountId] in
/-- An attempt whose message is accepted sends its round; the later attempts are at other disputes. -/
theorem Drained.cons {entry : DisputeId × ℕ × ℕ} {rest : List (DisputeId × ℕ × ℕ)}
    {vote : Vote AccountId} {message : Message} {s₁ : State AccountId}
    (haccepted : acceptedMessage cfg send s.governance entry = some message)
    (hsent : VoteSent cfg send s entry.1 entry.2.1 vote message s₁)
    (hrest : entry.1 ∉ rest.map Prod.fst) (h : Drained cfg send s₁ rest s') :
    Drained cfg send s (entry :: rest) s' := by
  have hupdated := hsent.voteUpdated
  have hsame : ∀ other ∈ rest, acceptedMessage cfg send s₁.governance other =
      acceptedMessage cfg send s.governance other := by
    intro other hother
    refine acceptedMessage_congr ?_
    rw [hupdated.lookup, if_neg]
    rintro ⟨heq, -⟩
    exact hrest (heq ▸ List.mem_map_of_mem hother)
  have hlater : acceptedRounds cfg send s₁.governance rest =
      acceptedRounds cfg send s.governance rest := by
    rw [acceptedRounds, acceptedRounds,
      List.filter_congr fun other hother ↦ congrArg Option.isSome (hsame other hother)]
  have hrounds : acceptedRounds cfg send s.governance (entry :: rest) =
      (entry.1, entry.2.1) :: acceptedRounds cfg send s₁.governance rest := by
    rw [hlater, acceptedRounds, List.filter_cons_of_pos (by rw [haccepted]; rfl), List.map_cons,
      acceptedRounds]
  have hnotMem : ∀ r, (entry.1, r) ∉ acceptedRounds cfg send s₁.governance rest := by
    intro r hmem
    obtain ⟨other, hother, heq⟩ := List.mem_map.mp hmem
    injection heq with hd
    exact hrest (hd ▸ List.mem_map_of_mem (List.mem_filter.mp hother).1)
  refine ⟨fun d ↦ ?_, fun d r ↦ ?_, ?_, ?_, ?_⟩
  · rw [h.pendingVotes, hsent.pendingVotes_lookup, hrounds, List.map_cons]
    by_cases hd : d = entry.1
    · rw [if_pos hd, ite_self, if_pos (List.mem_cons.mpr (Or.inl hd))]
    · have hmem : d ∈ (entry.1, entry.2.1).1 :: (acceptedRounds cfg send s₁.governance rest).map Prod.fst ↔
          d ∈ (acceptedRounds cfg send s₁.governance rest).map Prod.fst :=
        List.mem_cons.trans (or_iff_right hd)
      rw [if_neg hd]
      exact (if_congr hmem rfl rfl).symm
  · rw [h.voteInfo, hupdated.lookup, hrounds]
    by_cases heq : d = entry.1 ∧ r = entry.2.1
    · obtain ⟨rfl, rfl⟩ := heq
      rw [if_pos ⟨rfl, rfl⟩, hsent.vote_eq, Option.map_some, Option.map_some, if_neg (hnotMem _),
        if_pos List.mem_cons_self]
    · have hmem : (d, r) ∈ (entry.1, entry.2.1) :: acceptedRounds cfg send s₁.governance rest ↔
          (d, r) ∈ acceptedRounds cfg send s₁.governance rest := by
        rw [List.mem_cons, Prod.mk.injEq]
        exact or_iff_right heq
      rw [if_neg heq]
      simp only [hmem]
  · rw [h.sentMessages, congrArg State.sentMessages hsent.state_eq, List.filterMap_cons_some haccepted,
      List.append_assoc, List.filterMap_congr hsame]
    rfl
  · rw [h.events, congrArg State.events hsent.state_eq, hrounds, List.map_cons, List.append_assoc]
    rfl
  · rw [h.frame, hsent.state_eq]
    rfl

omit [DecidableEq AccountId] in
/-- Attempts at votes of distinct disputes that are not sent yet. -/
theorem drained_foldl (attempts : List (DisputeId × ℕ × ℕ))
    (hnodup : (attempts.map Prod.fst).Nodup) (s : State AccountId)
    (hvotes : ∀ entry ∈ attempts, ∃ vote,
      s.governance.voteInfo.lookup (entry.1, entry.2.1) = some vote ∧ vote.sent = false) :
    Drained cfg send s attempts (attempts.foldl (trySendVote cfg send) s) := by
  induction attempts generalizing s with
  | nil =>
    have hrounds : acceptedRounds cfg send s.governance [] = [] := rfl
    exact ⟨by simp [hrounds], by simp [hrounds], by simp, by simp [hrounds], rfl⟩
  | cons entry rest ih =>
    rw [List.map_cons, List.nodup_cons] at hnodup
    obtain ⟨hentry, hrest⟩ := List.forall_mem_cons.mp hvotes
    obtain ⟨vote, hvote, hsent⟩ := hentry
    rw [List.foldl_cons]
    rcases trySendVote_eq hvote hsent with ⟨message, haccepted, hvoteSent⟩ | ⟨hrefused, heq⟩
    · refine Drained.cons haccepted hvoteSent hnodup.1 (ih hnodup.2 _ fun other hother ↦ ?_)
      obtain ⟨otherVote, hlookup, hotherSent⟩ := hrest other hother
      refine ⟨otherVote, ?_, hotherSent⟩
      rw [hvoteSent.voteUpdated.lookup, if_neg]
      · exact hlookup
      · rintro ⟨heq, -⟩
        exact hnodup.1 (heq ▸ List.mem_map_of_mem hother)
    · rw [heq]
      exact (ih hnodup.2 s hrest).skip hrefused

/-- What `do_send_votes` did: it attempted the earliest of the votes that are due, as many as it may,
and sent and dequeued exactly those whose message was accepted. -/
structure SendsDue (cfg : Config AccountId) (send : Sender) (s : State AccountId)
    (timestamp max : ℕ) (s' : State AccountId) : Prop where
  due : ∀ d pending, (d, pending) ∈ s.governance.dueVotes timestamp ↔
    s.governance.pendingVotes.lookup d = some pending ∧ pending.2 ≤ timestamp
  nodup : ((s.governance.dueVotes timestamp).map Prod.fst).Nodup
  ordered : (s.governance.dueVotes timestamp).Pairwise fun left right ↦ left.2.2 ≤ right.2.2
  attempted : ((s.governance.dueVotes timestamp).take max).length =
    min max (s.governance.dueVotes timestamp).length
  drained : Drained cfg send s ((s.governance.dueVotes timestamp).take max) s'

theorem doSendVotes_sendsDue (send : Sender) (timestamp max : ℕ)
    (hqueued : ∀ disputeId, Queued cfg s disputeId) :
    SendsDue cfg send s timestamp max (doSendVotes cfg send s timestamp max) := by
  refine ⟨fun _ _ ↦ mem_dueVotes, nodup_dueVotes, pairwise_dueVotes, List.length_take, ?_⟩
  refine drained_foldl _ (nodup_dueVotes.sublist ((List.take_sublist _ _).map _)) s
    fun entry hentry ↦ ?_
  have hpending := (mem_dueVotes.mp (List.mem_of_mem_take hentry)).1
  rw [(hqueued entry.1).pending] at hpending
  obtain ⟨vote, hvote, hsent, heq⟩ := Governance.unsentVote_eq_some.mp hpending
  rw [heq]
  exact ⟨vote, hvote, hsent⟩

end Drain

omit [DecidableEq AccountId] in
theorem updatePrices_frame (s : State AccountId) :
    (updatePrices cfg s).governance = s.governance := by
  unfold updatePrices
  split
  · split
    · next updated hupdated => exact (congrArg State.governance (updateStakeAmount_frame hupdated).1 :)
    · rfl
  · rfl

/-- In every reachable state a dispute is queued exactly while its current round is not sent, for
eleven hours after the start of that round. A call, or the hook, attempts the earliest votes that are
due and sends and dequeues exactly those whose message the sender accepts; so no round is accepted
twice. -/
theorem pendingVotes_of_reachable {s : State AccountId} (h : Reachable cfg s) :
    (∀ d pending, s.governance.pendingVotes.lookup d = some pending ↔
        1 ≤ s.governance.rounds d ∧
          ∃ vote, s.governance.voteInfo.lookup (d, s.governance.rounds d) = some vote ∧
            vote.sent = false ∧ pending = (s.governance.rounds d, vote.startDate + 11 * hours)) ∧
      (∀ send timestamp max,
        SendsDue cfg send s timestamp max (doSendVotes cfg send s timestamp max)) ∧
      (∀ send, (updatePrices cfg s).governance = s.governance ∧
        SendsDue cfg send (updatePrices cfg s) s.now maxAggregateVotesSentPerBlock
          (onInitialize cfg send s)) ∧
      ∀ d r, s.events.count
          (.voteSent cfg.governance.paraId cfg.governance.address d r) =
            (s.governance.isSent d r).toNat ∧
        s.events.count (.voteSent cfg.governance.paraId cfg.governance.address d r) ≤ 1 := by
  have hinv := h.queueInvariant
  refine ⟨fun d pending ↦ ?_, fun send timestamp max ↦ ?_, fun send ↦ ⟨updatePrices_frame s, ?_⟩,
    fun d r ↦ ⟨(hinv.queued d).sent r, ?_⟩⟩
  · rw [(hinv.queued d).pending, Governance.unsentVote_eq_some]
    constructor
    · rintro ⟨vote, hvote, hunsent⟩
      exact ⟨(((hinv.indexed d).defined _).mp ⟨vote, hvote⟩).1, vote, hvote, hunsent⟩
    · rintro ⟨-, hunsent⟩
      exact hunsent
  · exact doSendVotes_sendsDue send timestamp max hinv.queued
  · exact doSendVotes_sendsDue send _ _ (updatePrices_queueInvariant hinv).queued
  · have hsent := (hinv.queued d).sent r
    rw [State.timesSent] at hsent
    rw [hsent]
    exact Bool.toNat_le _

/-- The second round of the mock runtime's dispute is queued, for eleven hours after its start. -/
theorem pendingVotes_of_reachable_rounds :
    1 ≤ (run (step Mock.config) Mock.rounds Mock.genesis).governance.rounds Mock.disputeId ∧
      ∃ vote, (run (step Mock.config) Mock.rounds Mock.genesis).governance.voteInfo.lookup
          (Mock.disputeId,
            (run (step Mock.config) Mock.rounds Mock.genesis).governance.rounds Mock.disputeId) =
          some vote ∧ vote.sent = false ∧
        (2, Mock.start + days + 60 + 11 * hours) =
          ((run (step Mock.config) Mock.rounds Mock.genesis).governance.rounds Mock.disputeId,
            vote.startDate + 11 * hours) :=
  ((pendingVotes_of_reachable (Mock.reachableBy_run Mock.rounds (by decide +kernel))).1
    Mock.disputeId (2, Mock.start + days + 60 + 11 * hours)).mp (by decide +kernel)

end TellorPallet
