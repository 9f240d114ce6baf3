import TellorPallet.Governance.Runs
import TellorPallet.Runtime.Mock

/-!
# The vote rounds of a dispute

The rounds of a dispute are numbered from one and only the last of them may be untallied or
executed. Opening another round and executing the last one exclude each other: the one requires the
last tally to be less than a day old, the other at least a day.
-/

namespace TellorPallet

open Outcome Transition

variable {AccountId : Type} [DecidableEq AccountId] {cfg : Config AccountId}

/-- The rounds of a dispute are numbered from one, and only the last may be executed. -/
structure RoundsIndexed (g : Governance AccountId) (disputeId : DisputeId) : Prop where
  defined : ∀ r, (∃ vote, g.voteInfo.lookup (disputeId, r) = some vote) ↔
    1 ≤ r ∧ r ≤ g.rounds disputeId
  rounds_le : g.rounds disputeId ≤ maxVoteRounds
  round_eq : ∀ r vote, g.voteInfo.lookup (disputeId, r) = some vote → vote.voteRound = r
  dispute : 1 ≤ g.rounds disputeId → ∃ dispute, g.disputeInfo.lookup disputeId = some dispute
  executed_eq : ∀ r vote, g.voteInfo.lookup (disputeId, r) = some vote → vote.executed = true →
    r = g.rounds disputeId

section Indexed

variable {s s' : State AccountId} {disputeId : DisputeId}

omit [DecidableEq AccountId] in
theorem RoundsIndexed.not_defined (h : RoundsIndexed s.governance disputeId) :
    s.governance.voteInfo.lookup (disputeId, s.governance.rounds disputeId + 1) = none := by
  cases hvote : s.governance.voteInfo.lookup (disputeId, s.governance.rounds disputeId + 1) with
  | none => rfl
  | some vote =>
    have hle := ((h.defined _).mp ⟨vote, hvote⟩).2
    omega

omit [DecidableEq AccountId] in
/-- Updating a vote keeps the rounds in order, unless a round other than the last becomes executed. -/
theorem VoteUpdated.roundsIndexed {d : DisputeId} {r : ℕ} {vote vote' : Vote AccountId}
    (h : VoteUpdated s s' d r vote vote')
    (hexecuted : vote'.executed = true → vote.executed = true ∨ r = s.governance.rounds d)
    (hinv : RoundsIndexed s.governance disputeId) : RoundsIndexed s'.governance disputeId := by
  have hvote := h.vote_eq
  refine ⟨fun i ↦ ?_, ?_, fun i other hother ↦ ?_, ?_, fun i other hother hdone ↦ ?_⟩
  · rw [h.rounds, h.lookup, ← hinv.defined i]
    split
    · next heq =>
      rw [heq.1, heq.2]
      exact ⟨fun _ ↦ ⟨vote, hvote⟩, fun _ ↦ ⟨vote', rfl⟩⟩
    · rfl
  · rw [h.rounds]
    exact hinv.rounds_le
  · rw [h.lookup] at hother
    split at hother
    · next heq =>
      cases hother
      rw [← heq.1, ← heq.2] at hvote
      rw [h.voteRound_eq]
      exact hinv.round_eq i vote hvote
    · exact hinv.round_eq i other hother
  · rw [h.rounds, h.disputeInfo_eq]
    exact hinv.dispute
  · rw [h.lookup] at hother
    rw [h.rounds]
    split at hother
    · next heq =>
      cases hother
      rw [← heq.1, ← heq.2] at hvote
      rcases hexecuted hdone with hbefore | hlast
      · exact hinv.executed_eq i vote hvote hbefore
      · rw [heq.1, heq.2]
        exact hlast
    · exact hinv.executed_eq i other hother hdone

theorem VoteCast.didVote {voter : AccountId} {supports : Option Bool} {vote : Vote AccountId}
    (h : VoteCast cfg s voter disputeId supports vote s') (d : DisputeId) (r : ℕ)
    (account : AccountId) : s'.governance.didVote d r account =
      if (d, r, account) = (disputeId, s.governance.rounds disputeId, voter) then true
      else s.governance.didVote d r account := by
  rw [h.state_eq]
  exact FiniteMap.read_insert _ _ _ _ _

/-- An account's vote is accepted once in each round. -/
theorem VoteCast.fresh {voter : AccountId} {supports : Option Bool} {vote : Vote AccountId}
    (h : VoteCast cfg s voter disputeId supports vote s')
    (hindexed : RoundsIndexed s.governance disputeId) :
    s.governance.didVote disputeId (s.governance.rounds disputeId) voter = false := by
  have hvoted := h.not_voted
  rwa [hindexed.round_eq _ vote h.vote_eq] at hvoted

theorem Opened.roundsIndexed {d : DisputeId} {r fee : ℕ} {initiator : AccountId}
    (h : Opened cfg s d r fee initiator s') (hinv : RoundsIndexed s.governance disputeId) :
    RoundsIndexed s'.governance disputeId := by
  have hround := h.round_eq
  by_cases hd : disputeId = d
  · subst hd
    have hrounds : s'.governance.rounds disputeId = s.governance.rounds disputeId + 1 := by
      rw [h.rounds, if_pos rfl]
    have hlookup : ∀ i, s'.governance.voteInfo.lookup (disputeId, i) =
        if i = r then some (newVote s disputeId r fee initiator)
        else s.governance.voteInfo.lookup (disputeId, i) := by
      intro i
      rw [h.lookup]
      simp
    refine ⟨fun i ↦ ?_, ?_, fun i other hother ↦ ?_, fun _ ↦ h.dispute, fun i other hother hdone ↦ ?_⟩
    · rw [hrounds, hlookup]
      split
      · next heq => exact ⟨fun _ ↦ ⟨by omega, by omega⟩, fun _ ↦ ⟨_, rfl⟩⟩
      · next hne =>
        rw [hinv.defined i]
        omega
    · rw [hrounds, ← hround]
      exact h.round_le
    · rw [hlookup] at hother
      split at hother
      · next heq =>
        cases hother
        exact heq.symm
      · exact hinv.round_eq i other hother
    · rw [hlookup] at hother
      split at hother
      · cases hother
        cases hdone
      · -- the round before the new one was not executed, and no other round can be
        exfalso
        have hlast := hinv.executed_eq i other hother hdone
        have hrange := (hinv.defined i).mp ⟨other, hother⟩
        rcases h.previous with hfirst | ⟨prevVote, hprevious, -, -, hnot⟩
        · omega
        · rw [show r - 1 = i by omega, hother] at hprevious
          cases hprevious
          rw [hdone] at hnot
          cases hnot
  · have hlookup : ∀ i, s'.governance.voteInfo.lookup (disputeId, i) =
        s.governance.voteInfo.lookup (disputeId, i) := by
      intro i
      rw [h.lookup, if_neg fun heq ↦ hd heq.1]
    have hrounds : s'.governance.rounds disputeId = s.governance.rounds disputeId := by
      rw [h.rounds, if_neg hd]
    refine ⟨?_, ?_, ?_, fun hpositive ↦ ?_, ?_⟩
    · simpa only [hlookup, hrounds] using hinv.defined
    · simpa only [hrounds] using hinv.rounds_le
    · simpa only [hlookup] using hinv.round_eq
    · rw [hrounds] at hpositive
      obtain ⟨dispute, hdispute⟩ := hinv.dispute hpositive
      exact ⟨dispute, h.dispute_eq disputeId dispute hdispute (Or.inl hd)⟩
    · simpa only [hlookup, hrounds] using hinv.executed_eq

theorem RoundStep.roundsIndexed (h : RoundStep cfg s s')
    (hinv : RoundsIndexed s.governance disputeId) : RoundsIndexed s'.governance disputeId := by
  cases h with
  | quiet hgovernance hnow hbalance hquiet => rwa [hgovernance]
  | voted h => exact h.voteUpdated.roundsIndexed Or.inl hinv
  | sent hpending h => exact h.voteUpdated.roundsIndexed Or.inl hinv
  | opened h => exact h.roundsIndexed hinv
  | tallied h => exact h.voteUpdated.roundsIndexed Or.inl hinv
  | executed h => exact h.voteUpdated.roundsIndexed (fun _ ↦ Or.inr rfl) hinv

omit [DecidableEq AccountId] in
theorem roundsIndexed_genesis (h : IsGenesis cfg s) : RoundsIndexed s.governance disputeId := by
  obtain ⟨ledger, blockNumber, now, -, rfl⟩ := h
  have hrounds : (State.genesis cfg ledger blockNumber now).governance.rounds disputeId = 0 := by
    simp [State.genesis, Governance.rounds]
  refine ⟨fun r ↦ ?_, ?_, ?_, ?_, ?_⟩
  · rw [hrounds]
    simp [State.genesis]
    omega
  · rw [hrounds]
    exact Nat.zero_le _
  · simp [State.genesis]
  · rw [hrounds]
    omega
  · simp [State.genesis]

theorem Reachable.roundsIndexed (h : Reachable cfg s) (disputeId : DisputeId) :
    RoundsIndexed s.governance disputeId :=
  h.roundInvariant (fun s ↦ RoundsIndexed s.governance disputeId)
    (fun _ hgenesis ↦ roundsIndexed_genesis hgenesis) fun _ _ hinv hmove ↦ hmove.roundsIndexed hinv

end Indexed

/-! ## Times -/

/-- A tally waits for the voting period of its round, and an execution for another day. -/
structure VoteTimes (now voteRound : ℕ) (vote : Vote AccountId) : Prop where
  tallied : 0 < vote.tallyDate →
    vote.startDate + min voteRound 6 * days ≤ vote.tallyDate ∧ vote.tallyDate ≤ now
  executed : vote.executed = true → 0 < vote.tallyDate ∧ vote.tallyDate + days ≤ now
  result : vote.tallyDate = 0 → vote.result = none

/-- The times of the rounds of a dispute: each round but the last was tallied less than a day before
the next one started. -/
structure RoundTimes (s : State AccountId) (disputeId : DisputeId) : Prop where
  times : ∀ r vote, s.governance.voteInfo.lookup (disputeId, r) = some vote → VoteTimes s.now r vote
  earlier : ∀ r vote, s.governance.voteInfo.lookup (disputeId, r) = some vote →
    r < s.governance.rounds disputeId → 0 < vote.tallyDate ∧
      ∃ next, s.governance.voteInfo.lookup (disputeId, r + 1) = some next ∧
        vote.tallyDate ≤ next.startDate ∧ next.startDate < vote.tallyDate + days

section Times

variable {s s' : State AccountId} {disputeId : DisputeId}

omit [DecidableEq AccountId] in
theorem VoteTimes.mono {now now' r : ℕ} {vote : Vote AccountId} (h : VoteTimes now r vote)
    (hle : now ≤ now') : VoteTimes now' r vote :=
  ⟨fun hpositive ↦ ⟨(h.tallied hpositive).1, (h.tallied hpositive).2.trans hle⟩,
    fun hexecuted ↦ ⟨(h.executed hexecuted).1, (h.executed hexecuted).2.trans hle⟩, h.result⟩

omit [DecidableEq AccountId] in
/-- Updating a vote keeps the times in order when the updated vote is, and only the tally of the last
round is set. -/
theorem VoteUpdated.roundTimes {d : DisputeId} {r : ℕ} {vote vote' : Vote AccountId}
    (h : VoteUpdated s s' d r vote vote') (htimes : VoteTimes s.now r vote → VoteTimes s.now r vote')
    (htally : r < s.governance.rounds d → vote'.tallyDate = vote.tallyDate)
    (hinv : RoundTimes s disputeId) : RoundTimes s' disputeId := by
  have hvote := h.vote_eq
  refine ⟨fun i other hother ↦ ?_, fun i other hother hi ↦ ?_⟩
  · rw [h.now_eq]
    rw [h.lookup] at hother
    split at hother
    · next heq =>
      cases hother
      rw [← heq.1, ← heq.2] at hvote
      rw [← heq.2] at htimes
      exact htimes (hinv.times i vote hvote)
    · exact hinv.times i other hother
  · rw [h.rounds] at hi
    -- the vote before the update, with the same tally
    have hbefore : ∃ before, s.governance.voteInfo.lookup (disputeId, i) = some before ∧
        other.tallyDate = before.tallyDate := by
      rw [h.lookup] at hother
      split at hother
      · next heq =>
        cases hother
        rw [heq.1, heq.2] at hi ⊢
        exact ⟨vote, hvote, htally hi⟩
      · exact ⟨other, hother, rfl⟩
    obtain ⟨before, hlookup, heq⟩ := hbefore
    obtain ⟨hpositive, next, hnext, hle, hlt⟩ := hinv.earlier i before hlookup hi
    rw [heq]
    refine ⟨hpositive, ?_⟩
    rw [h.lookup]
    split
    · next hsame =>
      rw [hsame.1, hsame.2, hvote] at hnext
      cases hnext
      exact ⟨vote', rfl, by rw [h.startDate_eq]; exact hle, by rw [h.startDate_eq]; exact hlt⟩
    · exact ⟨next, hnext, hle, hlt⟩

theorem Opened.roundTimes {d : DisputeId} {r fee : ℕ} {initiator : AccountId}
    (h : Opened cfg s d r fee initiator s') (hday : days < s.now)
    (hindexed : RoundsIndexed s.governance disputeId) (hinv : RoundTimes s disputeId) :
    RoundTimes s' disputeId := by
  have hround := h.round_eq
  refine ⟨fun i vote hvote ↦ ?_, fun i vote hvote hi ↦ ?_⟩
  · rw [h.now_eq]
    rw [h.lookup] at hvote
    split at hvote
    · cases hvote
      exact ⟨fun hpositive ↦ absurd hpositive (lt_irrefl 0), nofun, fun _ ↦ rfl⟩
    · exact hinv.times i vote hvote
  · rw [h.rounds] at hi
    rw [h.lookup] at hvote
    by_cases hd : disputeId = d
    · subst hd
      rw [if_pos rfl] at hi
      rw [if_neg (by omega)] at hvote
      rw [h.lookup]
      rcases Nat.lt_succ_iff_lt_or_eq.mp hi with hless | hlast
      · rw [if_neg (by omega)]
        exact hinv.earlier i vote hvote hless
      · -- the round before the new one
        rw [if_pos ⟨rfl, by omega⟩]
        have hrange := (hindexed.defined i).mp ⟨vote, hvote⟩
        rcases h.previous with hfirst | ⟨prevVote, hprevious, hle, hlt, -⟩
        · omega
        · rw [show r - 1 = i by omega, hvote] at hprevious
          cases hprevious
          exact ⟨by omega, _, rfl, hle, hlt⟩
    · rw [if_neg hd] at hi
      rw [if_neg fun heq ↦ hd heq.1] at hvote
      rw [h.lookup, if_neg fun heq ↦ hd heq.1]
      exact hinv.earlier i vote hvote hi

/-- A move more than a day after the epoch keeps the times in order. -/
theorem RoundStep.roundTimes (h : RoundStep cfg s s')
    (hday : s'.governance = s.governance ∨ days < s.now)
    (hindexed : ∀ disputeId, RoundsIndexed s.governance disputeId) (hinv : RoundTimes s disputeId) :
    RoundTimes s' disputeId := by
  have hunchanged : s'.governance = s.governance → RoundTimes s' disputeId := by
    intro hgovernance
    refine ⟨fun r vote hvote ↦ ?_, ?_⟩
    · rw [hgovernance] at hvote
      exact (hinv.times r vote hvote).mono h.now_le
    · rw [hgovernance]
      exact hinv.earlier
  rcases hday with hgovernance | hday
  · exact hunchanged hgovernance
  cases h with
  | quiet hgovernance hnow hbalance hquiet => exact hunchanged hgovernance
  | voted h =>
    exact h.voteUpdated.roundTimes (fun htimes ↦ ⟨htimes.tallied, htimes.executed, htimes.result⟩)
      (fun _ ↦ rfl) hinv
  | sent hpending h =>
    exact h.voteUpdated.roundTimes (fun htimes ↦ ⟨htimes.tallied, htimes.executed, htimes.result⟩)
      (fun _ ↦ rfl) hinv
  | opened h => exact h.roundTimes hday (hindexed disputeId) hinv
  | @tallied d result vote dispute _ h =>
    refine h.voteUpdated.roundTimes (fun _ ↦ ⟨fun _ ↦ ⟨?_, le_rfl⟩, fun hexecuted ↦ ?_, fun hnow ↦ ?_⟩)
      (fun hless ↦ absurd hless (lt_irrefl _)) hinv
    · have hround := (hindexed d).round_eq _ vote h.vote_eq
      have hstarted := h.started
      have hduration := h.duration
      have hmin : min (s.governance.rounds d) 6 * days ≤ s.now - vote.startDate := by
        rw [hround] at hduration
        rcases hduration with hless | hless
        · exact (Nat.mul_le_mul_right _ (min_le_left _ _)).trans hless
        · exact (Nat.mul_le_mul_right _ (min_le_right _ _)).trans hless
      dsimp only
      omega
    · have hnot := h.not_executed
      dsimp only at hexecuted
      rw [hnot] at hexecuted
      cases hexecuted
    · exact absurd hnow (Nat.ne_of_gt (Nat.zero_lt_of_lt hday))
  | executed h =>
    refine h.voteUpdated.roundTimes
      (fun htimes ↦ ⟨htimes.tallied, fun _ ↦ ⟨h.tallied, ?_⟩, htimes.result⟩) (fun _ ↦ rfl) hinv
    have hle := h.tallied_le
    have hday := h.challenged
    dsimp only
    omega

end Times

/-! ## What is set stays set -/

/-- From one vote of a round to a later one, what was set is unchanged. -/
structure VoteKept (vote vote' : Vote AccountId) : Prop where
  startDate : vote'.startDate = vote.startDate
  fee : vote'.fee = vote.fee
  initiator : vote'.initiator = vote.initiator
  tallyDate : 0 < vote.tallyDate → vote'.tallyDate = vote.tallyDate
  result : vote.result ≠ none → vote'.result = vote.result
  sent : vote.sent = true → vote'.sent = true
  executed : vote.executed = true → vote'.executed = true

/-- From one state to a later one, no round of a dispute is lost, what was set of it is unchanged, and
none is added after an execution. -/
structure RoundsKept (s s' : State AccountId) (disputeId : DisputeId) : Prop where
  rounds_le : s.governance.rounds disputeId ≤ s'.governance.rounds disputeId
  votes : ∀ r vote, s.governance.voteInfo.lookup (disputeId, r) = some vote →
    ∃ vote', s'.governance.voteInfo.lookup (disputeId, r) = some vote' ∧ VoteKept vote vote'
  executed : ∀ r vote, s.governance.voteInfo.lookup (disputeId, r) = some vote →
    vote.executed = true → s'.governance.rounds disputeId = s.governance.rounds disputeId

section Kept

omit [DecidableEq AccountId]

variable {s s' s'' : State AccountId} {disputeId : DisputeId}

theorem VoteKept.refl (vote : Vote AccountId) : VoteKept vote vote :=
  ⟨rfl, rfl, rfl, fun _ ↦ rfl, fun _ ↦ rfl, id, id⟩

theorem VoteKept.trans {vote vote' vote'' : Vote AccountId} (h : VoteKept vote vote')
    (h' : VoteKept vote' vote'') : VoteKept vote vote'' where
  startDate := h'.startDate.trans h.startDate
  fee := h'.fee.trans h.fee
  initiator := h'.initiator.trans h.initiator
  tallyDate hpositive := by
    have hfirst := h.tallyDate hpositive
    exact (h'.tallyDate (hfirst ▸ hpositive)).trans hfirst
  result hset := by
    have hfirst := h.result hset
    exact (h'.result (hfirst ▸ hset)).trans hfirst
  sent hsent := h'.sent (h.sent hsent)
  executed hexecuted := h'.executed (h.executed hexecuted)

theorem RoundsKept.refl (s : State AccountId) : RoundsKept s s disputeId :=
  ⟨le_rfl, fun _ vote hvote ↦ ⟨vote, hvote, VoteKept.refl vote⟩, fun _ _ _ _ ↦ rfl⟩

theorem RoundsKept.trans (s s' s'' : State AccountId) (h : RoundsKept s s' disputeId)
    (h' : RoundsKept s' s'' disputeId) : RoundsKept s s'' disputeId where
  rounds_le := h.rounds_le.trans h'.rounds_le
  votes r vote hvote := by
    obtain ⟨mid, hmid, hkept⟩ := h.votes r vote hvote
    obtain ⟨last, hlast, hkept'⟩ := h'.votes r mid hmid
    exact ⟨last, hlast, hkept.trans hkept'⟩
  executed r vote hvote hexecuted := by
    obtain ⟨mid, hmid, hkept⟩ := h.votes r vote hvote
    exact (h'.executed r mid hmid (hkept.executed hexecuted)).trans (h.executed r vote hvote hexecuted)

theorem VoteUpdated.roundsKept {d : DisputeId} {r : ℕ} {vote vote' : Vote AccountId}
    (h : VoteUpdated s s' d r vote vote') (hkept : VoteKept vote vote') :
    RoundsKept s s' disputeId := by
  have hvote := h.vote_eq
  refine ⟨(h.rounds disputeId).ge, fun i other hother ↦ ?_, fun _ _ _ _ ↦ h.rounds disputeId⟩
  rw [h.lookup]
  split
  · next heq =>
    rw [heq.1, heq.2, hvote] at hother
    cases hother
    exact ⟨vote', rfl, hkept⟩
  · exact ⟨other, hother, VoteKept.refl other⟩

end Kept

section Steps

variable {s s' : State AccountId} {disputeId : DisputeId}

theorem Opened.roundsKept {d : DisputeId} {r fee : ℕ} {initiator : AccountId}
    (h : Opened cfg s d r fee initiator s') (hindexed : RoundsIndexed s.governance disputeId) :
    RoundsKept s s' disputeId := by
  have hround := h.round_eq
  refine ⟨?_, fun i vote hvote ↦ ?_, fun i vote hvote hexecuted ↦ ?_⟩
  · rw [h.rounds]
    split
    · next heq =>
      rw [heq]
      exact Nat.le_succ _
    · exact le_rfl
  · refine ⟨vote, ?_, VoteKept.refl vote⟩
    rw [h.lookup, if_neg]
    · exact hvote
    · rintro ⟨rfl, rfl⟩
      have hle := ((hindexed.defined _).mp ⟨vote, hvote⟩).2
      omega
  · rw [h.rounds, if_neg]
    rintro rfl
    -- the executed round would be the one that the new round requires not to be executed
    have hlast := hindexed.executed_eq i vote hvote hexecuted
    have hrange := (hindexed.defined i).mp ⟨vote, hvote⟩
    rcases h.previous with hfirst | ⟨prevVote, hprevious, -, -, hnot⟩
    · omega
    · rw [show r - 1 = i by omega, hvote] at hprevious
      cases hprevious
      rw [hexecuted] at hnot
      cases hnot

theorem RoundStep.roundsKept (h : RoundStep cfg s s')
    (hindexed : RoundsIndexed s.governance disputeId) (htimes : ∀ disputeId, RoundTimes s disputeId) :
    RoundsKept s s' disputeId := by
  cases h with
  | quiet hgovernance hnow hbalance hquiet =>
    refine ⟨?_, fun r vote hvote ↦ ⟨vote, ?_, VoteKept.refl vote⟩, fun _ _ _ _ ↦ ?_⟩
    · rw [hgovernance]
    · rwa [hgovernance]
    · rw [hgovernance]
  | voted h =>
    exact h.voteUpdated.roundsKept ⟨rfl, rfl, rfl, fun _ ↦ rfl, fun _ ↦ rfl, id, id⟩
  | sent hpending h =>
    exact h.voteUpdated.roundsKept ⟨rfl, rfl, rfl, fun _ ↦ rfl, fun _ ↦ rfl, fun _ ↦ rfl, id⟩
  | opened h => exact h.roundsKept hindexed
  | @tallied d result vote dispute _ h =>
    have hnone := ((htimes d).times _ vote h.vote_eq).result h.not_tallied
    refine h.voteUpdated.roundsKept ⟨rfl, rfl, rfl, fun hpositive ↦ ?_, fun hset ↦ ?_, id, id⟩
    · exact absurd h.not_tallied (Nat.ne_of_gt hpositive)
    · exact absurd hnone hset
  | executed h =>
    exact h.voteUpdated.roundsKept ⟨rfl, rfl, rfl, fun _ ↦ rfl, fun _ ↦ rfl, id, fun _ ↦ rfl⟩

/-! ## Runs after the first day -/

/-- The pallet only runs more than a day after the epoch. -/
def AfterFirstDay (s : State AccountId) (input : Input AccountId) : Prop :=
  input.runsPallet = true → days < s.now

instance (s : State AccountId) (input : Input AccountId) : Decidable (AfterFirstDay s input) :=
  inferInstanceAs (Decidable (_ → _))

/-- What moves after the first day preserve, every input after the first day preserves. -/
theorem Effect.timedInvariant {input : Input AccountId} (inv : State AccountId → Prop)
    (h : Effect cfg s input s') (hday : AfterFirstDay s input)
    (hmove : ∀ s s', inv s → RoundStep cfg s s' → s'.governance = s.governance ∨ days < s.now → inv s')
    (hinv : inv s) : inv s' := by
  cases hruns : input.runsPallet with
  | true =>
    have hlate : days < s.now := hday hruns
    have hboth : inv s' ∧ days < s'.now := by
      refine h.roundInvariant (fun s ↦ inv s ∧ days < s.now) (fun mid last hmid hstep ↦ ?_)
        ⟨hinv, hlate⟩
      exact ⟨hmove mid last hmid.1 hstep (Or.inr hmid.2), hmid.2.trans_le hstep.now_le⟩
    exact hboth.1
  | false =>
    cases h with
    | refused => exact hinv
    | minor hinput h =>
      rw [hruns] at hinput
      cases hinput
    | newBlock h => exact hmove _ _ hinv (.quiet rfl h le_rfl rfl) (Or.inl rfl)
    | external hbound hpallet =>
      have hmem : cfg.disputeFees ∈ palletAccounts cfg := by simp [palletAccounts]
      exact hmove _ _ hinv (.quiet rfl le_rfl (ledger_le_of_external hmem hpallet) rfl) (Or.inl rfl)
    | _ => cases hruns

/-- The rounds of all disputes, and their times. -/
structure RoundsInvariant (s : State AccountId) : Prop where
  indexed : ∀ disputeId, RoundsIndexed s.governance disputeId
  times : ∀ disputeId, RoundTimes s disputeId

theorem RoundStep.roundsInvariant (h : RoundStep cfg s s')
    (hday : s'.governance = s.governance ∨ days < s.now) (hinv : RoundsInvariant s) :
    RoundsInvariant s' :=
  ⟨fun d ↦ h.roundsIndexed (hinv.indexed d), fun d ↦ h.roundTimes hday hinv.indexed (hinv.times d)⟩

theorem Effect.roundsInvariant {input : Input AccountId} (h : Effect cfg s input s')
    (hday : AfterFirstDay s input) (hinv : RoundsInvariant s) : RoundsInvariant s' :=
  h.timedInvariant RoundsInvariant hday (fun _ _ hmid hmove hlate ↦ hmove.roundsInvariant hlate hmid)
    hinv

theorem Effect.roundsKept {input : Input AccountId} (h : Effect cfg s input s')
    (hday : AfterFirstDay s input) (hinv : RoundsInvariant s) : RoundsKept s s' disputeId := by
  have hboth := h.timedInvariant (fun mid ↦ RoundsInvariant mid ∧ RoundsKept s mid disputeId) hday
    (fun mid last hmid hmove hlate ↦ ⟨hmove.roundsInvariant hlate hmid.1,
      hmid.2.trans _ _ _ (hmove.roundsKept (hmid.1.indexed disputeId) hmid.1.times)⟩)
    ⟨hinv, RoundsKept.refl s⟩
  exact hboth.2

theorem ReachableBy.roundsInvariant
    (h : ReachableBy cfg (fun s input ↦ Admissible cfg s input ∧ AfterFirstDay s input) s) :
    RoundsInvariant s := by
  refine h.invariant RoundsInvariant (fun _ _ hadmits ↦ hadmits.1) (fun s₀ hgenesis ↦ ?_) ?_
  · refine ⟨fun d ↦ roundsIndexed_genesis hgenesis, fun d ↦ ?_⟩
    obtain ⟨ledger, blockNumber, now, -, rfl⟩ := hgenesis
    exact ⟨by simp [State.genesis], by simp [State.genesis]⟩
  · exact fun s₀ input s₁ hinv hadmits heffect ↦ heffect.roundsInvariant hadmits.2 hinv

end Steps

/-- In every run after the first day, the rounds of a dispute are numbered from one up to at most the
maximum; each but the last was tallied, not executed, and followed within a day by the next; a tally
came after the voting period of its round and an execution at least a day after the tally. In every
later state what was set of a round is unchanged, and after an execution no round is added. -/
theorem rounds_of_reachable {s : State AccountId}
    (h : ReachableBy cfg (fun s input ↦ Admissible cfg s input ∧ AfterFirstDay s input) s)
    (disputeId : DisputeId) :
    (∀ r, (∃ vote, s.governance.voteInfo.lookup (disputeId, r) = some vote) ↔
        1 ≤ r ∧ r ≤ s.governance.rounds disputeId) ∧
      s.governance.rounds disputeId ≤ maxVoteRounds ∧
      (∀ r vote, s.governance.voteInfo.lookup (disputeId, r) = some vote →
        (r < s.governance.rounds disputeId → 0 < vote.tallyDate ∧ vote.executed = false ∧
          ∃ next, s.governance.voteInfo.lookup (disputeId, r + 1) = some next ∧
            vote.tallyDate ≤ next.startDate ∧ next.startDate < vote.tallyDate + days) ∧
        (0 < vote.tallyDate → vote.startDate + min r 6 * days ≤ vote.tallyDate) ∧
        (vote.executed = true → 0 < vote.tallyDate ∧ vote.tallyDate + days ≤ s.now)) ∧
      ∀ s', Reaches (step cfg) (fun s input ↦ Admissible cfg s input ∧ AfterFirstDay s input) s s' →
        RoundsKept s s' disputeId := by
  have hinv := h.roundsInvariant
  have hindexed := hinv.indexed disputeId
  have htimes := hinv.times disputeId
  refine ⟨hindexed.defined, hindexed.rounds_le, fun r vote hvote ↦ ⟨fun hless ↦ ?_, ?_, ?_⟩, ?_⟩
  · obtain ⟨hpositive, hnext⟩ := htimes.earlier r vote hvote hless
    refine ⟨hpositive, ?_, hnext⟩
    cases hexecuted : vote.executed with
    | false => rfl
    | true =>
      have hlast := hindexed.executed_eq r vote hvote hexecuted
      omega
  · exact fun hpositive ↦ ((htimes.times r vote hvote).tallied hpositive).1
  · exact (htimes.times r vote hvote).executed
  · intro s' hreaches
    exact hreaches.related RoundsKept.refl RoundsKept.trans
      (fun _ _ hmid hadmits ↦ (step_effect hadmits.1).roundsInvariant hadmits.2 hmid)
      (fun _ _ hmid hadmits ↦ (step_effect hadmits.1).roundsKept hadmits.2 hmid) hinv

/-- The dispute of the mock runtime keeps its two rounds when it is executed. -/
theorem rounds_of_reachable_executed :
    RoundsKept (run (step Mock.config) Mock.rounds Mock.genesis)
      (run (step Mock.config) [Mock.block (4 * days + 60), Mock.execute]
        (run (step Mock.config) Mock.rounds Mock.genesis)) Mock.disputeId :=
  (rounds_of_reachable (Mock.reachableBy_run Mock.rounds (by decide +kernel)) Mock.disputeId).2.2.2 _
    (reaches_run _ _ (by decide +kernel))

end TellorPallet
