import TellorPallet.Governance.Casting

/-!
# Tallies

The six tallies of a round are the saturating sums of the weights of the votes cast in it, one vote
for each account. Once the round is sent or tallied they stay as they are, so that the message that
carried them carried the final ones.
-/

namespace TellorPallet

open Outcome Transition

variable {AccountId : Type} [DecidableEq AccountId] {cfg : Config AccountId}

/-- The side of a tally that a vote supports. -/
def Tally.of (tally : Tally) : Option Bool → ℕ
  | none => tally.invalidQuery
  | some true => tally.doesSupport
  | some false => tally.against

/-- An account contributes to a round of a dispute. -/
def Cast.key (cast : Cast AccountId) : DisputeId × ℕ × AccountId :=
  (cast.disputeId, cast.voteRound, cast.voter)

/-- The weight of the votes of one kind cast in a round. -/
def castWeight (casts : List (Cast AccountId)) (disputeId : DisputeId) (voteRound : ℕ)
    (supports : Option Bool) (weight : Cast AccountId → ℕ) : ℕ :=
  ((casts.filter fun cast ↦ cast.disputeId = disputeId ∧ cast.voteRound = voteRound ∧
    cast.supports = supports).map weight).sum

/-- The tallies of every round are those of the votes cast, each by an account that is marked to have
voted. -/
structure CastsCounted (cfg : Config AccountId) (g : Governance AccountId)
    (casts : List (Cast AccountId)) : Prop where
  counted : ∀ d r vote, g.voteInfo.lookup (d, r) = some vote → ∀ supports,
    vote.users.of supports = min cfg.balanceMax (castWeight casts d r supports Cast.userTips) ∧
      vote.reporters.of supports = min u128Max (castWeight casts d r supports Cast.reports)
  defined : ∀ cast ∈ casts, ∃ vote,
    g.voteInfo.lookup (cast.disputeId, cast.voteRound) = some vote
  voted : ∀ cast ∈ casts, g.didVote cast.disputeId cast.voteRound cast.voter = true
  once : (casts.map Cast.key).Nodup

/-- No vote is counted any more. -/
def Vote.Closed (vote : Vote AccountId) : Prop := vote.sent = true ∨ 0 < vote.tallyDate

/-- From one state to a later one, the tallies of the closed rounds stay as they are. -/
def TalliesKept (s s' : State AccountId) : Prop :=
  ∀ d r vote, s.governance.voteInfo.lookup (d, r) = some vote → vote.Closed →
    ∃ vote', s'.governance.voteInfo.lookup (d, r) = some vote' ∧ vote'.Closed ∧
      vote'.users = vote.users ∧ vote'.reporters = vote.reporters

/-- From one state to a later one, a round became sent only with a message that carries its
tallies. -/
structure Delivered (cfg : Config AccountId) (s s' : State AccountId) : Prop where
  messages : s.sentMessages <+: s'.sentMessages
  sent : ∀ d r vote, s'.governance.voteInfo.lookup (d, r) = some vote → vote.sent = true →
    s.governance.isSent d r = true ∨
      ∃ message ∈ s'.sentMessages.drop s.sentMessages.length, voteMessage cfg d vote = .ok message

/-! ## Sums -/

section Sums

variable {casts : List (Cast AccountId)} {disputeId : DisputeId} {voteRound : ℕ}
  {supports : Option Bool} {weight : Cast AccountId → ℕ}

omit [DecidableEq AccountId] in
theorem Tally.of_accrue (bound : ℕ) (tally : Tally) (supports side : Option Bool) (weight : ℕ) :
    (tally.accrue bound supports weight).of side =
      if side = supports then Saturating.add bound (tally.of side) weight else tally.of side := by
  rcases supports with - | - | - <;> rcases side with - | - | - <;> rfl

omit [DecidableEq AccountId] in
theorem castWeight_append (cast : Cast AccountId) :
    castWeight (casts ++ [cast]) disputeId voteRound supports weight =
      castWeight casts disputeId voteRound supports weight +
        if cast.disputeId = disputeId ∧ cast.voteRound = voteRound ∧ cast.supports = supports then
          weight cast
        else 0 := by
  unfold castWeight
  rw [List.filter_append, List.map_append, List.sum_append, List.filter_singleton]
  congr 1
  split
  · next h =>
    rw [decide_eq_true h, cond_true, List.map_singleton, List.sum_singleton]
  · next h =>
    rw [decide_eq_false h, cond_false]
    rfl

/-- No vote weighs in a round that does not exist. -/
theorem CastsCounted.castWeight_eq_zero {g : Governance AccountId} (h : CastsCounted cfg g casts)
    (hnone : g.voteInfo.lookup (disputeId, voteRound) = none) :
    castWeight casts disputeId voteRound supports weight = 0 := by
  have hempty : casts.filter (fun cast ↦ cast.disputeId = disputeId ∧ cast.voteRound = voteRound ∧
      cast.supports = supports) = [] := by
    apply List.filter_eq_nil_iff.mpr
    intro cast hmem hcast
    obtain ⟨rfl, rfl, -⟩ := of_decide_eq_true hcast
    obtain ⟨vote, hvote⟩ := h.defined cast hmem
    rw [hnone] at hvote
    cases hvote
  rw [castWeight, hempty]
  rfl

end Sums

/-! ## One move -/

section Steps

variable {s s' : State AccountId} {casts casts' : List (Cast AccountId)} {d : DisputeId} {r : ℕ}
  {vote vote' : Vote AccountId}

/-- An update that leaves the tallies of its vote alone keeps them counted. -/
theorem VoteUpdated.castsCounted (h : VoteUpdated s s' d r vote vote')
    (husers : vote'.users = vote.users) (hreporters : vote'.reporters = vote.reporters)
    (hvotes : s'.governance.votes = s.governance.votes)
    (hinv : CastsCounted cfg s.governance casts) : CastsCounted cfg s'.governance casts := by
  have hvote := h.vote_eq
  refine ⟨?_, ?_, ?_, hinv.once⟩
  · intro i j found hfound
    rw [h.lookup] at hfound
    split at hfound
    · next heq =>
      cases hfound
      rw [husers, hreporters, heq.1, heq.2]
      exact hinv.counted d r vote hvote
    · exact hinv.counted i j found hfound
  · intro cast hmem
    rw [h.lookup]
    split
    · exact ⟨vote', rfl⟩
    · exact hinv.defined cast hmem
  · intro cast hmem
    rw [Governance.didVote, hvotes]
    exact hinv.voted cast hmem

omit [DecidableEq AccountId] in
/-- An update that keeps a closed vote closed, with its tallies, keeps the closed tallies. -/
theorem VoteUpdated.talliesKept (h : VoteUpdated s s' d r vote vote')
    (hclosed : vote.Closed → vote'.Closed ∧ vote'.users = vote.users ∧
      vote'.reporters = vote.reporters) : TalliesKept s s' := by
  intro i j found hfound hbefore
  rw [h.lookup]
  split
  · next heq =>
    rw [heq.1, heq.2, h.vote_eq] at hfound
    cases hfound
    exact ⟨vote', rfl, hclosed hbefore⟩
  · exact ⟨found, hfound, hbefore, rfl, rfl⟩

theorem castsCounted_of_doVote {voter : AccountId} {ballot : DisputeId × Option Bool}
    (h : doVote cfg s voter ballot.1 ballot.2 = .ok s')
    (hindexed : RoundsIndexed s.governance ballot.1) (hinv : CastsCounted cfg s.governance casts) :
    CastsCounted cfg s'.governance (casts ++ [castOf s voter ballot]) := by
  obtain ⟨vote, hcast⟩ := doVote_cast h
  have hfresh := hcast.fresh hindexed
  have hupdated := hcast.voteUpdated
  refine ⟨?_, ?_, ?_, ?_⟩
  · intro i j found hfound supports
    rw [castWeight_append, castWeight_append]
    rw [hupdated.lookup] at hfound
    split at hfound
    · next heq =>
      cases hfound
      obtain ⟨rfl, rfl⟩ := heq
      obtain ⟨husers, hreporters⟩ := hinv.counted _ _ vote hcast.vote_eq supports
      rw [Tally.of_accrue, Tally.of_accrue, husers, hreporters]
      -- the vote weighs in this round, on the side it supports
      have hside : ((castOf s voter ballot).disputeId = ballot.1 ∧
          (castOf s voter ballot).voteRound = s.governance.rounds ballot.1 ∧
          (castOf s voter ballot).supports = supports) ↔ supports = ballot.2 :=
        ⟨fun hmatch ↦ hmatch.2.2.symm, fun hmatch ↦ ⟨rfl, rfl, hmatch.symm⟩⟩
      simp only [hside]
      split
      · rw [Saturating.add, Saturating.add]
        change min (min cfg.balanceMax _ + s.autoPay.tipsByAddress voter) _ =
            min _ (_ + s.autoPay.tipsByAddress voter) ∧
          min (min u128Max _ + Option.elim _ 0 StakeInfo.reportsSubmitted) _ =
            min _ (_ + Option.elim _ 0 StakeInfo.reportsSubmitted)
        generalize castWeight casts _ _ supports Cast.userTips = tips
        generalize castWeight casts _ _ supports Cast.reports = reports
        omega
      · exact ⟨rfl, rfl⟩
    · next hne =>
      have hother : ¬((castOf s voter ballot).disputeId = i ∧
          (castOf s voter ballot).voteRound = j ∧ (castOf s voter ballot).supports = supports) := by
        intro hmatch
        exact hne ⟨hmatch.1.symm, hmatch.2.1.symm⟩
      rw [if_neg hother, if_neg hother]
      exact hinv.counted i j found hfound supports
  · intro cast hmem
    rw [hupdated.lookup]
    split
    · exact ⟨_, rfl⟩
    · next hne =>
      rcases List.mem_append.mp hmem with hold | hnew
      · exact hinv.defined cast hold
      · rw [List.mem_singleton.mp hnew] at hne
        exact absurd ⟨rfl, rfl⟩ hne
  · intro cast hmem
    rw [hcast.didVote]
    split
    · rfl
    · next hne =>
      rcases List.mem_append.mp hmem with hold | hnew
      · exact hinv.voted cast hold
      · rw [List.mem_singleton.mp hnew] at hne
        exact absurd rfl hne
  · rw [List.map_append, List.map_singleton]
    apply List.Nodup.append hinv.once (List.nodup_singleton _)
    intro key hold hnew
    rw [List.mem_singleton] at hnew
    obtain ⟨cast, hmem, hkey⟩ := List.mem_map.mp hold
    have hbefore := hinv.voted cast hmem
    have hsame : cast.key = (castOf s voter ballot).key := hkey.trans hnew
    injection hsame with hd hrest
    injection hrest with hr haccount
    rw [hd, hr, haccount] at hbefore
    exact Bool.false_ne_true (hfresh.symm.trans hbefore)

theorem Opened.castsCounted {fee : ℕ} {initiator : AccountId}
    (h : Opened cfg s d r fee initiator s') (hvotes : s'.governance.votes = s.governance.votes)
    (hindexed : RoundsIndexed s.governance d) (hinv : CastsCounted cfg s.governance casts) :
    CastsCounted cfg s'.governance casts := by
  have hnone := hindexed.not_defined
  rw [← h.round_eq] at hnone
  refine ⟨?_, ?_, ?_, hinv.once⟩
  · intro i j found hfound supports
    rw [h.lookup] at hfound
    split at hfound
    · next heq =>
      cases hfound
      rw [heq.1, heq.2, hinv.castWeight_eq_zero hnone, hinv.castWeight_eq_zero hnone,
        Nat.min_zero, Nat.min_zero]
      cases supports with
      | none => exact ⟨rfl, rfl⟩
      | some side => cases side <;> exact ⟨rfl, rfl⟩
    · exact hinv.counted i j found hfound supports
  · intro cast hmem
    rw [h.lookup]
    split
    · exact ⟨_, rfl⟩
    · exact hinv.defined cast hmem
  · intro cast hmem
    rw [Governance.didVote, hvotes]
    exact hinv.voted cast hmem

theorem Opened.talliesKept {fee : ℕ} {initiator : AccountId}
    (h : Opened cfg s d r fee initiator s') (hindexed : RoundsIndexed s.governance d) :
    TalliesKept s s' := by
  have hnone := hindexed.not_defined
  rw [← h.round_eq] at hnone
  intro i j found hfound hbefore
  rw [h.lookup]
  split
  · next heq =>
    rw [heq.1, heq.2, hnone] at hfound
    cases hfound
  · exact ⟨found, hfound, hbefore, rfl, rfl⟩

omit [DecidableEq AccountId] in
/-- What is delivered stays delivered while an update leaves the flag and the tallies of its vote, and
the messages, alone. -/
theorem VoteUpdated.delivered {s₀ : State AccountId} (h : VoteUpdated s s' d r vote vote')
    (hsent : vote'.sent = vote.sent) (husers : vote'.users = vote.users)
    (hreporters : vote'.reporters = vote.reporters)
    (hmessages : s'.sentMessages = s.sentMessages) (hbefore : Delivered cfg s₀ s) :
    Delivered cfg s₀ s' := by
  refine ⟨hmessages ▸ hbefore.messages, ?_⟩
  intro i j found hfound hflag
  rw [h.lookup] at hfound
  rw [hmessages]
  split at hfound
  · next heq =>
    cases hfound
    have hmessage : voteMessage cfg i vote' = voteMessage cfg i vote := by
      rw [voteMessage, voteMessage, husers, hreporters]
    rw [hmessage, heq.1, heq.2]
    exact hbefore.sent d r vote h.vote_eq (hsent ▸ hflag)
  · exact hbefore.sent i j found hfound hflag

omit [DecidableEq AccountId] in
theorem mem_drop_of_prefix {α : Type} {messages later : List α} {message : α} {n : ℕ}
    (hinit : messages <+: later) (hmem : message ∈ messages.drop n) : message ∈ later.drop n := by
  obtain ⟨rest, rfl⟩ := hinit
  rw [List.drop_append]
  exact List.mem_append_left _ hmem

omit [DecidableEq AccountId] in
/-- What is delivered stays delivered while the votes stay and messages are added. -/
theorem Delivered.append {s₀ : State AccountId} (h : Delivered cfg s₀ s)
    (hmessages : s.sentMessages <+: s'.sentMessages)
    (hvotes : ∀ i j found, s'.governance.voteInfo.lookup (i, j) = some found → found.sent = true →
      s.governance.voteInfo.lookup (i, j) = some found) : Delivered cfg s₀ s' := by
  refine ⟨h.messages.trans hmessages, ?_⟩
  intro i j found hfound hflag
  rcases h.sent i j found (hvotes i j found hfound hflag) hflag with hsent | ⟨message, hmem, heq⟩
  · exact Or.inl hsent
  · exact Or.inr ⟨message, mem_drop_of_prefix hmessages hmem, heq⟩

omit [DecidableEq AccountId] in
theorem VoteSent.delivered {s₀ : State AccountId} {send : Sender} {message : Message}
    (h : VoteSent cfg send s d r vote message s') (hbefore : Delivered cfg s₀ s) :
    Delivered cfg s₀ s' := by
  have hmessages : s'.sentMessages = s.sentMessages ++ [message] :=
    (congrArg State.sentMessages h.state_eq :)
  refine ⟨?_, ?_⟩
  · rw [hmessages]
    exact hbefore.messages.trans (List.prefix_append _ _)
  · intro i j found hfound hflag
    rw [h.voteUpdated.lookup] at hfound
    split at hfound
    · next heq =>
      cases hfound
      have hlength : s₀.sentMessages.length ≤ s.sentMessages.length := hbefore.messages.length_le
      refine Or.inr ⟨message, ?_, heq.1 ▸ h.message_eq⟩
      rw [hmessages, List.drop_append_of_le_length hlength]
      exact List.mem_append_right _ (List.mem_singleton_self message)
    · rcases hbefore.sent i j found hfound hflag with hsent | ⟨other, hmem, heq⟩
      · exact Or.inl hsent
      · refine Or.inr ⟨other, mem_drop_of_prefix ?_ hmem, heq⟩
        rw [hmessages]
        exact List.prefix_append _ _

end Steps

/-! ## Every move -/

section Moves

variable {c c' : State AccountId × List (Cast AccountId)}

theorem TallyStep.roundsIndexed (h : TallyStep cfg c c') (disputeId : DisputeId)
    (hinv : RoundsIndexed c.1.governance disputeId) : RoundsIndexed c'.1.governance disputeId := by
  cases h with
  | quiet hgovernance hmessages =>
    dsimp only at hinv ⊢
    rwa [hgovernance]
  | cast h =>
    obtain ⟨vote, hcast⟩ := doVote_cast h
    exact (RoundStep.voted hcast).roundsIndexed hinv
  | sent hpending h => exact (RoundStep.sent hpending h).roundsIndexed hinv
  | opened h hvotes hmessages => exact (RoundStep.opened h).roundsIndexed hinv
  | tallied h =>
    have hmove : RoundStep cfg _ _ := .tallied h
    exact hmove.roundsIndexed hinv
  | executed h => exact (RoundStep.executed h).roundsIndexed hinv

theorem TallyStep.castsCounted (h : TallyStep cfg c c')
    (hindexed : ∀ disputeId, RoundsIndexed c.1.governance disputeId)
    (hinv : CastsCounted cfg c.1.governance c.2) : CastsCounted cfg c'.1.governance c'.2 := by
  cases h with
  | quiet hgovernance hmessages =>
    dsimp only at hinv ⊢
    rwa [hgovernance]
  | cast h => exact castsCounted_of_doVote h (hindexed _) hinv
  | sent hpending h =>
    apply h.voteUpdated.castsCounted rfl rfl _ hinv
    exact (congrArg (fun s : State AccountId ↦ s.governance.votes) h.state_eq :)
  | opened h hvotes hmessages => exact h.castsCounted hvotes (hindexed _) hinv
  | tallied h =>
    apply h.voteUpdated.castsCounted rfl rfl _ hinv
    exact (congrArg (fun s : State AccountId ↦ s.governance.votes) h.state_eq :)
  | executed h =>
    apply h.voteUpdated.castsCounted rfl rfl _ hinv
    exact (congrArg (fun s : State AccountId ↦ s.governance.votes) h.state_eq :)

theorem TallyStep.talliesKept (h : TallyStep cfg c c')
    (hindexed : ∀ disputeId, RoundsIndexed c.1.governance disputeId) : TalliesKept c.1 c'.1 := by
  cases h with
  | quiet hgovernance hmessages =>
    intro i j found hfound hbefore
    dsimp only at hfound ⊢
    rw [hgovernance]
    exact ⟨found, hfound, hbefore, rfl, rfl⟩
  | cast h =>
    obtain ⟨vote, hcast⟩ := doVote_cast h
    apply hcast.voteUpdated.talliesKept
    intro hclosed
    rcases hclosed with hsent | htallied
    · exact absurd (hcast.not_sent.symm.trans hsent) Bool.false_ne_true
    · exact absurd hcast.not_tallied (Nat.ne_of_gt htallied)
  | sent hpending h =>
    apply h.voteUpdated.talliesKept
    intro _
    exact ⟨Or.inl rfl, rfl, rfl⟩
  | opened h hvotes hmessages => exact h.talliesKept (hindexed _)
  | tallied h =>
    apply h.voteUpdated.talliesKept
    intro hclosed
    rcases hclosed with hsent | htallied
    · exact ⟨Or.inl hsent, rfl, rfl⟩
    · exact absurd h.not_tallied (Nat.ne_of_gt htallied)
  | executed h =>
    apply h.voteUpdated.talliesKept
    intro hclosed
    exact ⟨hclosed, rfl, rfl⟩

theorem TallyStep.delivered {s₀ : State AccountId} (h : TallyStep cfg c c')
    (hbefore : Delivered cfg s₀ c.1) : Delivered cfg s₀ c'.1 := by
  cases h with
  | quiet hgovernance hmessages =>
    apply hbefore.append hmessages
    intro i j found hfound _
    dsimp only at hfound ⊢
    rwa [hgovernance] at hfound
  | cast h =>
    obtain ⟨vote, hcast⟩ := doVote_cast h
    apply hbefore.append
    · exact (congrArg State.sentMessages hcast.state_eq :) ▸ List.prefix_rfl
    · intro i j found hfound hflag
      rw [hcast.voteUpdated.lookup] at hfound
      split at hfound
      · cases hfound
        exact absurd (hcast.not_sent.symm.trans hflag) Bool.false_ne_true
      · exact hfound
  | sent hpending h => exact h.delivered hbefore
  | opened h hvotes hmessages =>
    apply hbefore.append hmessages
    intro i j found hfound hflag
    rw [h.lookup] at hfound
    split at hfound
    · cases hfound
      cases hflag
    · exact hfound
  | tallied h =>
    exact h.voteUpdated.delivered rfl rfl rfl (congrArg State.sentMessages h.state_eq :) hbefore
  | executed h =>
    exact h.voteUpdated.delivered rfl rfl rfl (congrArg State.sentMessages h.state_eq :) hbefore

end Moves

/-! ## Runs -/

section Runs

variable {s s' : State AccountId} {casts : List (Cast AccountId)} {input : Input AccountId}

/-- What every move preserves, with the votes cast, every input preserves. -/
theorem tallyInvariant (inv : State AccountId × List (Cast AccountId) → Prop)
    (casts : List (Cast AccountId)) (h : Admissible cfg s input)
    (hmove : ∀ c c', inv c → TallyStep cfg c c' → inv c') (hinv : inv (s, casts)) :
    inv (step cfg input s, recordCasts cfg s input casts) := by
  have hsteps : Relation.ReflTransGen (TallyStep cfg) (s, casts) _ := step_tallySteps h
  generalize (step cfg input s, recordCasts cfg s input casts) = c' at hsteps ⊢
  induction hsteps with
  | refl => exact hinv
  | tail _ hlast ih => exact hmove _ _ ih hlast

omit [DecidableEq AccountId] in
theorem TalliesKept.refl (s : State AccountId) : TalliesKept s s :=
  fun _ _ vote hvote hclosed ↦ ⟨vote, hvote, hclosed, rfl, rfl⟩

omit [DecidableEq AccountId] in
theorem TalliesKept.trans (s s' s'' : State AccountId) (h : TalliesKept s s')
    (h' : TalliesKept s' s'') : TalliesKept s s'' := by
  intro d r vote hvote hclosed
  obtain ⟨mid, hmid, hmidClosed, husers, hreporters⟩ := h d r vote hvote hclosed
  obtain ⟨last, hlast, hlastClosed, husers', hreporters'⟩ := h' d r mid hmid hmidClosed
  exact ⟨last, hlast, hlastClosed, husers'.trans husers, hreporters'.trans hreporters⟩

theorem roundsIndexed_step (h : Admissible cfg s input)
    (hinv : ∀ disputeId, RoundsIndexed s.governance disputeId) (disputeId : DisputeId) :
    RoundsIndexed (step cfg input s).governance disputeId :=
  tallyInvariant (fun c ↦ ∀ disputeId, RoundsIndexed c.1.governance disputeId) [] h
    (fun _ _ hmid hmove d ↦ hmove.roundsIndexed d (hmid d)) hinv disputeId

theorem talliesKept_step (h : Admissible cfg s input)
    (hinv : ∀ disputeId, RoundsIndexed s.governance disputeId) :
    TalliesKept s (step cfg input s) := by
  have hboth := tallyInvariant
    (fun c ↦ (∀ disputeId, RoundsIndexed c.1.governance disputeId) ∧ TalliesKept s c.1) [] h
    (fun _ _ hmid hmove ↦ ⟨fun d ↦ hmove.roundsIndexed d (hmid.1 d),
      hmid.2.trans _ _ _ (hmove.talliesKept hmid.1)⟩) ⟨hinv, TalliesKept.refl s⟩
  exact hboth.2

theorem delivered_step (h : Admissible cfg s input) : Delivered cfg s (step cfg input s) := by
  apply tallyInvariant (fun c ↦ Delivered cfg s c.1) [] h
  · intro c c' hmid hmove
    exact hmove.delivered hmid
  · refine ⟨List.prefix_rfl, ?_⟩
    intro d r vote hvote hsent
    apply Or.inl
    dsimp only at hvote
    rw [Governance.isSent, hvote, Option.elim_some, hsent]

theorem Reachable.talliesKept (h : Reachable cfg s)
    (hrun : Reaches (step cfg) (Admissible cfg) s s') : TalliesKept s s' := by
  have hindexed : ∀ mid input, (∀ disputeId, RoundsIndexed mid.governance disputeId) →
      Admissible cfg mid input →
        ∀ disputeId, RoundsIndexed (step cfg input mid).governance disputeId :=
    fun _ _ hmid hadmitted ↦ roundsIndexed_step hadmitted hmid
  apply hrun.related TalliesKept.refl TalliesKept.trans hindexed
  · intro mid input hmid hadmitted
    exact talliesKept_step hadmitted hmid
  · exact h.roundsIndexed

theorem ReachedWith.castsCounted
    (h : ReachedWith cfg (recordCasts cfg) [] (Admissible cfg) s casts) :
    CastsCounted cfg s.governance casts := by
  have hboth : (∀ disputeId, RoundsIndexed s.governance disputeId) ∧
      CastsCounted cfg s.governance casts := by
    apply h.invariant fun s casts ↦ (∀ disputeId, RoundsIndexed s.governance disputeId) ∧
      CastsCounted cfg s.governance casts
    · intro s₀ hgenesis
      refine ⟨fun d ↦ roundsIndexed_genesis hgenesis, ?_⟩
      obtain ⟨ledger, blockNumber, now, -, rfl⟩ := hgenesis
      refine ⟨?_, ?_, ?_, List.nodup_nil⟩
      · simp [State.genesis]
      · simp
      · simp
    · intro s₀ casts₀ input hinv hadmitted
      exact tallyInvariant (fun c ↦ (∀ disputeId, RoundsIndexed c.1.governance disputeId) ∧
          CastsCounted cfg c.1.governance c.2) casts₀ hadmitted
        (fun _ _ hmid hmove ↦ ⟨fun d ↦ hmove.roundsIndexed d (hmid.1 d),
          hmove.castsCounted hmid.1 hmid.2⟩) hinv
  exact hboth.2

omit [DecidableEq AccountId] in
/-- The message of a round is a call of the governance contract with the six tallies of the round. -/
theorem voteMessage_carries {d : DisputeId} {vote : Vote AccountId} {message : Message}
    (h : voteMessage cfg d vote = .ok message) :
    message.paraId = cfg.governance.paraId ∧ message.contract = cfg.governance.address ∧
      message.input = [61, 181, 167, 166] ++ cfg.abiEncode [.fixedBytes (hashBytes d),
        .uint vote.users.doesSupport, .uint vote.users.against, .uint vote.users.invalidQuery,
        .uint vote.reporters.doesSupport, .uint vote.reporters.against,
        .uint vote.reporters.invalidQuery] := by
  simp only [voteMessage, transact, bind_eq_ok, guard_eq_ok, exists_const] at h
  obtain ⟨-, -, h⟩ := h
  cases h
  exact ⟨rfl, rfl, rfl⟩

/-- In every run each account votes at most once in a round, and the six tallies of a round are the
saturating sums, by kind, of the tips respectively reports that its voters had when they voted. Once
a round is sent or tallied its tallies stay as they are in every later state, and the message that was
accepted when it became sent is a call of the governance contract with the six tallies that the round has
ever after. -/
theorem tallies_of_casts (h : ReachedWith cfg (recordCasts cfg) [] (Admissible cfg) s casts) :
    (casts.map Cast.key).Nodup ∧
    (∀ cast ∈ casts, ∃ vote,
      s.governance.voteInfo.lookup (cast.disputeId, cast.voteRound) = some vote) ∧
    (∀ d r vote, s.governance.voteInfo.lookup (d, r) = some vote → ∀ supports,
      vote.users.of supports = min cfg.balanceMax (castWeight casts d r supports Cast.userTips) ∧
        vote.reporters.of supports = min u128Max (castWeight casts d r supports Cast.reports)) ∧
    (∀ d r vote, s.governance.voteInfo.lookup (d, r) = some vote → vote.Closed →
      ∀ s', Reaches (step cfg) (Admissible cfg) s s' →
        ∃ vote', s'.governance.voteInfo.lookup (d, r) = some vote' ∧
          vote'.users = vote.users ∧ vote'.reporters = vote.reporters) ∧
    ∀ input, Admissible cfg s input → ∀ d r, s.governance.isSent d r = false →
      (step cfg input s).governance.isSent d r = true →
        ∃ message ∈ (step cfg input s).sentMessages.drop s.sentMessages.length,
          ∀ s', Reaches (step cfg) (Admissible cfg) (step cfg input s) s' →
            ∃ vote', s'.governance.voteInfo.lookup (d, r) = some vote' ∧
              message.paraId = cfg.governance.paraId ∧ message.contract = cfg.governance.address ∧
              message.input = [61, 181, 167, 166] ++ cfg.abiEncode [.fixedBytes (hashBytes d),
                .uint vote'.users.doesSupport, .uint vote'.users.against,
                .uint vote'.users.invalidQuery, .uint vote'.reporters.doesSupport,
                .uint vote'.reporters.against, .uint vote'.reporters.invalidQuery] := by
  have hreachable := h.reachableBy
  have hcounted := h.castsCounted
  refine ⟨hcounted.once, hcounted.defined, hcounted.counted, ?_, ?_⟩
  · intro d r vote hvote hclosed s' hrun
    obtain ⟨vote', hvote', -, hsame⟩ := Reachable.talliesKept hreachable hrun d r vote hvote hclosed
    exact ⟨vote', hvote', hsame⟩
  · intro input hadmitted d r hbefore hafter
    have hnext : Reachable cfg (step cfg input s) := by
      obtain ⟨s₀, hgenesis, hreaches⟩ := hreachable
      exact ⟨s₀, hgenesis, hreaches.tail hadmitted⟩
    cases hvote : (step cfg input s).governance.voteInfo.lookup (d, r) with
    | none =>
      rw [Governance.isSent, hvote] at hafter
      cases hafter
    | some vote =>
      have hsent : vote.sent = true := by
        rwa [Governance.isSent, hvote, Option.elim_some] at hafter
      rcases (delivered_step hadmitted).sent d r vote hvote hsent with hold | ⟨message, hmem, heq⟩
      · exact absurd (hbefore.symm.trans hold) Bool.false_ne_true
      · refine ⟨message, hmem, ?_⟩
        intro s' hrun
        obtain ⟨vote', hvote', -, husers, hreporters⟩ :=
          hnext.talliesKept hrun d r vote hvote (Or.inl hsent)
        refine ⟨vote', hvote', ?_⟩
        rw [husers, hreporters]
        exact voteMessage_carries heq

end Runs

namespace Mock

/-- Two reporters vote on the dispute, one for it and one, after a tip, against it, and its tallies are
sent. -/
def votes : List (Input ℕ) :=
  reports ++ [.extrinsic send (.signed 7) (.vote disputeId (some true)), tip 8 50,
    .extrinsic send (.signed 8) (.voteOnMultipleDisputes [(disputeId, some false)]),
    block (12 * hours), .onInitialize send]

/-- The state after a list of inputs, with the votes cast. -/
def voted (inputs : List (Input ℕ)) : State ℕ × List (Cast ℕ) :=
  run (recording (step config) (recordCasts config)) inputs (genesis, [])

end Mock

theorem tallies_of_casts_votes :
    (((Mock.voted Mock.votes).1.governance.voteInfo.lookup (Mock.disputeId, 1)).map fun vote ↦
        (vote.sent, vote.users, vote.reporters)) = some (true, ⟨0, 50, 0⟩, ⟨1, 1, 0⟩) ∧
      ((Mock.voted Mock.votes).2.map Cast.key).Nodup :=
  have hreached : ReachedWith Mock.config (recordCasts Mock.config) [] (Admissible Mock.config)
      (Mock.voted Mock.votes).1 (Mock.voted Mock.votes).2 :=
    Mock.reachedWith_run Mock.votes (by decide +kernel)
  ⟨by decide +kernel, (tallies_of_casts hreached).1⟩

end TellorPallet
