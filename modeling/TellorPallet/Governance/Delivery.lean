import TellorPallet.Governance.Queue

/-!
# Rounds that are over

A dispute moves on, or is executed, once its round is tallied. Whether the votes of that round were
sent is not asked: the pallet attempts to send them, and the governance controller contract reports the
tally. The queue has room for the current round of a dispute only, so what is not sent when the next
round opens is never sent. Where the contract reports a tally only of a round that it was sent, every
round that is over was sent.
-/

namespace TellorPallet

open Outcome Transition

variable {AccountId : Type} [DecidableEq AccountId] {cfg : Config AccountId}

/-- The dispute moved on from the round, or the round was the last and is executed. -/
def RoundOver (g : Governance AccountId) (disputeId : DisputeId) (voteRound : ℕ) : Prop :=
  voteRound < g.rounds disputeId ∨ voteRound = g.rounds disputeId ∧
    ∃ vote, g.voteInfo.lookup (disputeId, voteRound) = some vote ∧ vote.executed = true

/-- A tally is reported only of a round that was sent; reports that the pallet refuses do not count. -/
def TallyOfSent (s : State AccountId) : Input AccountId → Prop
  | .extrinsic _ .governance (.reportVoteTallied disputeId result) =>
    (tallyVotes s disputeId result).isOk = true →
      s.governance.isSent disputeId (s.governance.rounds disputeId) = true
  | _ => True

instance (s : State AccountId) (input : Input AccountId) : Decidable (TallyOfSent s input) := by
  rcases input with _ | _ | ⟨_, origin, call⟩ | _
  case extrinsic => rcases origin <;> rcases call <;> dsimp only [TallyOfSent] <;> infer_instance
  all_goals exact .isTrue trivial

/-! ## Tallied rounds -/

/-- Every tallied round was sent. -/
def TalliedSent (g : Governance AccountId) : Prop :=
  ∀ d r vote, g.voteInfo.lookup (d, r) = some vote → 0 < vote.tallyDate → vote.sent = true

section Tallied

variable {s s' : State AccountId}

omit [DecidableEq AccountId] in
/-- Updating a vote keeps the tallied rounds sent when the updated one is sent if it is tallied. -/
theorem VoteUpdated.talliedSent {d : DisputeId} {r : ℕ} {vote vote' : Vote AccountId}
    (h : VoteUpdated s s' d r vote vote')
    (hsent : (0 < vote.tallyDate → vote.sent = true) → 0 < vote'.tallyDate → vote'.sent = true)
    (hinv : TalliedSent s.governance) : TalliedSent s'.governance := by
  intro i j other hother
  rw [h.lookup] at hother
  split at hother
  · cases hother
    exact hsent (hinv d r vote h.vote_eq)
  · exact hinv i j other hother

theorem Opened.talliedSent {d : DisputeId} {r fee : ℕ} {initiator : AccountId}
    (h : Opened cfg s d r fee initiator s') (hinv : TalliedSent s.governance) :
    TalliedSent s'.governance := by
  intro i j other hother htallied
  rw [h.lookup] at hother
  split at hother
  · cases hother
    exact absurd htallied (lt_irrefl 0)
  · exact hinv i j other hother htallied

theorem Minor.talliedSent (h : Minor cfg s s') (hinv : TalliedSent s.governance) :
    TalliedSent s'.governance := by
  cases h with
  | funded haccount h => exact hinv
  | registered hevent h =>
    obtain ⟨-, rfl⟩ := State.sendXcm_eq_ok.mp h
    exact hinv
  | priced h hquiet =>
    rw [h]
    exact hinv
  | voted h => exact h.voteUpdated.talliedSent id hinv
  | sent hpending h => exact h.voteUpdated.talliedSent (fun _ _ ↦ rfl) hinv

/-- Only a reported tally tallies a round. -/
theorem Effect.talliedSent {input : Input AccountId} (h : Effect cfg s input s')
    (htally : TallyOfSent s input) (hinv : TalliedSent s.governance) : TalliedSent s'.governance := by
  have hstep := h.governanceStep
  clear h
  cases hstep with
  | unchanged hgovernance =>
    rw [hgovernance]
    exact hinv
  | minor h =>
    induction h with
    | refl => exact hinv
    | tail _ hlast ih => exact hlast.talliedSent ih
  | disputed h hprepared hopened => exact h.talliedSent hinv
  | tallied h =>
    -- the report was accepted, so the round it tallies was sent
    have hsent := htally (by rw [h.tallyVotes_eq]; rfl)
    rw [Governance.isSent, h.vote_eq] at hsent
    exact h.voteUpdated.talliedSent (fun _ _ ↦ hsent) hinv
  | executed h => exact h.voteUpdated.talliedSent id hinv

end Tallied

/-! ## Rounds that the dispute moved on from -/

/-- From one state to a later one, whether a round before the current one was sent is unchanged. -/
structure EarlierKept (s s' : State AccountId) (disputeId : DisputeId) : Prop where
  rounds_le : s.governance.rounds disputeId ≤ s'.governance.rounds disputeId
  isSent_eq : ∀ r, r < s.governance.rounds disputeId →
    s'.governance.isSent disputeId r = s.governance.isSent disputeId r

section Earlier

variable {s s' s'' : State AccountId} {disputeId : DisputeId}

omit [DecidableEq AccountId] in
theorem EarlierKept.refl (s : State AccountId) : EarlierKept s s disputeId := ⟨le_rfl, fun _ _ ↦ rfl⟩

omit [DecidableEq AccountId] in
theorem EarlierKept.trans (s s' s'' : State AccountId) (h : EarlierKept s s' disputeId)
    (h' : EarlierKept s' s'' disputeId) : EarlierKept s s'' disputeId :=
  ⟨h.rounds_le.trans h'.rounds_le, fun r hr ↦
    (h'.isSent_eq r (hr.trans_le h.rounds_le)).trans (h.isSent_eq r hr)⟩

omit [DecidableEq AccountId] in
/-- An update keeps the flags of the earlier rounds when it keeps its own or is of the current round. -/
theorem VoteUpdated.earlierKept {d : DisputeId} {r : ℕ} {vote vote' : Vote AccountId}
    (h : VoteUpdated s s' d r vote vote')
    (hsent : vote'.sent = vote.sent ∨ r = s.governance.rounds d) : EarlierKept s s' disputeId := by
  refine ⟨(h.rounds disputeId).ge, fun i hi ↦ ?_⟩
  rw [Governance.isSent, Governance.isSent, h.lookup]
  split
  · next heq =>
    obtain ⟨rfl, rfl⟩ := heq
    rcases hsent with hsame | hcurrent
    · rw [h.vote_eq, Option.elim_some, Option.elim_some, hsame]
    · exact absurd hcurrent hi.ne
  · rfl

theorem Opened.earlierKept {d : DisputeId} {r fee : ℕ} {initiator : AccountId}
    (h : Opened cfg s d r fee initiator s') : EarlierKept s s' disputeId := by
  refine ⟨?_, fun i hi ↦ ?_⟩
  · rw [h.rounds]
    split
    · next heq =>
      rw [heq]
      exact Nat.le_succ _
    · exact le_rfl
  · rw [Governance.isSent, Governance.isSent, h.lookup, if_neg]
    rintro ⟨rfl, rfl⟩
    exact absurd (h.round_eq ▸ hi) (Nat.not_lt.mpr (Nat.le_succ _))

theorem RoundStep.earlierKept (h : RoundStep cfg s s') (hinv : QueueInvariant cfg s) :
    EarlierKept s s' disputeId := by
  cases h with
  | quiet hgovernance hnow hbalance hquiet =>
    refine ⟨?_, fun r _ ↦ ?_⟩
    · rw [hgovernance]
    · rw [hgovernance]
  | voted h => exact h.voteUpdated.earlierKept (Or.inl rfl)
  | @sent send d pending vote message _ hpending h =>
    -- what is queued is the current round
    rw [(hinv.queued d).pending] at hpending
    obtain ⟨_, -, -, rfl⟩ := Governance.unsentVote_eq_some.mp hpending
    exact h.voteUpdated.earlierKept (Or.inr rfl)
  | opened h => exact h.earlierKept
  | tallied h => exact h.voteUpdated.earlierKept (Or.inl rfl)
  | executed h => exact h.voteUpdated.earlierKept (Or.inl rfl)

theorem Effect.earlierKept {input : Input AccountId} (h : Effect cfg s input s')
    (hinv : QueueInvariant cfg s) : EarlierKept s s' disputeId := by
  have hboth := h.roundInvariant (fun mid ↦ QueueInvariant cfg mid ∧ EarlierKept s mid disputeId)
    (fun mid last hmid hmove ↦ ⟨hmove.queueInvariant _ _ hmid.1,
      hmid.2.trans _ _ _ (hmove.earlierKept hmid.1)⟩) ⟨hinv, EarlierKept.refl s⟩
  exact hboth.2

end Earlier

/-- In every run after the first day, in any order and with any sender: a round that is over was
tallied, and whether a round was sent is settled once the dispute has moved on from it. Where moreover a
tally is only reported of a round that was sent, every round that is over was sent. -/
theorem roundOver_of_reachable {s : State AccountId}
    (h : ReachableBy cfg (fun s input ↦ Admissible cfg s input ∧ AfterFirstDay s input) s)
    (disputeId : DisputeId) :
    (∀ r vote, s.governance.voteInfo.lookup (disputeId, r) = some vote →
        RoundOver s.governance disputeId r → 0 < vote.tallyDate) ∧
      (∀ s', Reaches (step cfg) (Admissible cfg) s s' → ∀ r, r < s.governance.rounds disputeId →
        s'.governance.isSent disputeId r = s.governance.isSent disputeId r) ∧
      (ReachableBy cfg (fun s input ↦
          (Admissible cfg s input ∧ AfterFirstDay s input) ∧ TallyOfSent s input) s →
        ∀ r, 1 ≤ r → RoundOver s.governance disputeId r →
          s.governance.isSent disputeId r = true) := by
  have hrounds := h.roundsInvariant
  have hindexed := hrounds.indexed disputeId
  have htimes := hrounds.times disputeId
  have hreachable : Reachable cfg s := by
    obtain ⟨s₀, hgenesis, hreaches⟩ := h
    exact ⟨s₀, hgenesis, hreaches.mono fun _ _ hadmits ↦ hadmits.1⟩
  have htallied : ∀ r vote, s.governance.voteInfo.lookup (disputeId, r) = some vote →
      RoundOver s.governance disputeId r → 0 < vote.tallyDate := by
    intro r vote hvote hover
    rcases hover with hearlier | ⟨-, final, hfinal, hexecuted⟩
    · exact (htimes.earlier r vote hvote hearlier).1
    · rw [hvote] at hfinal
      cases hfinal
      exact ((htimes.times r vote hvote).executed hexecuted).1
  refine ⟨htallied, fun s' hreaches r hr ↦ ?_, fun hby r hr hover ↦ ?_⟩
  · have hkept : EarlierKept s s' disputeId :=
      hreaches.related EarlierKept.refl EarlierKept.trans
        (fun _ _ hmid hadmits ↦ (step_effect hadmits).roundInvariant _ RoundStep.queueInvariant hmid)
        (fun _ _ hmid hadmits ↦ (step_effect hadmits).earlierKept hmid) hreachable.queueInvariant
    exact hkept.isSent_eq r hr
  · have hsent : TalliedSent s.governance := by
      refine hby.invariant (fun s ↦ TalliedSent s.governance) (fun _ _ hadmits ↦ hadmits.1.1)
        (fun s₀ hgenesis ↦ ?_) fun s₀ input s₁ hinv hadmits heffect ↦
          heffect.talliedSent hadmits.2 hinv
      obtain ⟨ledger, blockNumber, now, -, rfl⟩ := hgenesis
      simp [TalliedSent, State.genesis]
    have hle : r ≤ s.governance.rounds disputeId := by
      rcases hover with hearlier | ⟨hlast, -⟩
      · exact hearlier.le
      · exact hlast.le
    obtain ⟨vote, hvote⟩ := (hindexed.defined r).mpr ⟨hr, hle⟩
    rw [Governance.isSent, hvote]
    exact hsent disputeId r vote hvote (htallied r vote hvote hover)

/-- The first round of the mock runtime's dispute was sent before its tally was reported. -/
theorem roundOver_of_reachable_sentRounds :
    (run (step Mock.config) (Mock.sentRounds Mock.send) Mock.genesis).governance.isSent
      Mock.disputeId 1 = true :=
  (roundOver_of_reachable (Mock.reachableBy_run (Mock.sentRounds Mock.send) (by decide +kernel))
      Mock.disputeId).2.2
    (Mock.reachableBy_run (Mock.sentRounds Mock.send) (by decide +kernel)) 1 le_rfl
    (Or.inl (by decide +kernel))

/-- With a sender that refuses every message, both rounds are over and neither was sent. -/
theorem not_sent_of_refused : ∃ s, Reachable Mock.config s ∧
    RoundOver s.governance Mock.disputeId 1 ∧ s.governance.isSent Mock.disputeId 1 = false ∧
    RoundOver s.governance Mock.disputeId 2 ∧ s.governance.isSent Mock.disputeId 2 = false := by
  refine ⟨run (step Mock.config) (Mock.sentRounds fun _ ↦ .error .other) Mock.genesis,
    Mock.reachableBy_run _ (by decide +kernel), Or.inl (by decide +kernel), by decide +kernel,
    Or.inr ⟨by decide +kernel, ?_⟩, by decide +kernel⟩
  exact (Option.any_eq_true _ _).mp (by decide +kernel)

end TellorPallet
