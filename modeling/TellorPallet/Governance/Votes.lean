import TellorPallet.Oracle.Reports

/-!
# Votes

Casting votes, sending the votes that are due to the governance contract, and the contract's reports
that a vote was tallied or executed.
-/

namespace TellorPallet

open Outcome

variable {AccountId : Type} [DecidableEq AccountId] (cfg : Config AccountId)

namespace Governance

/-- Store the vote of a round. -/
def putVote (g : Governance AccountId) (disputeId : DisputeId) (voteRound : ℕ)
    (vote : Vote AccountId) : Governance AccountId :=
  { g with voteInfo := g.voteInfo.insert (disputeId, voteRound) vote }

/-- Whether an identifier is one of a recorded dispute, as `do_vote` and `execute_vote` check it. -/
def IsValidDispute (g : Governance AccountId) (disputeId : DisputeId) : Prop :=
  disputeId ≠ 0 ∧ disputeId ≠ cfg.keccak256 [] ∧ (g.disputeInfo.lookup disputeId).isSome = true

instance (g : Governance AccountId) (disputeId : DisputeId) :
    Decidable (g.IsValidDispute cfg disputeId) :=
  inferInstanceAs (Decidable (_ ∧ _ ∧ _))

end Governance

/-! ## Casting votes -/

/-- Add a weight to the side of a tally that was voted for. -/
def Tally.accrue (bound : ℕ) (tally : Tally) (supports : Option Bool) (weight : ℕ) : Tally :=
  match supports with
  | none => { tally with invalidQuery := Saturating.add bound tally.invalidQuery weight }
  | some true => { tally with doesSupport := Saturating.add bound tally.doesSupport weight }
  | some false => { tally with against := Saturating.add bound tally.against weight }

/-- `do_vote`. -/
def doVote (s : State AccountId) (voter : AccountId) (disputeId : DisputeId)
    (supports : Option Bool) : Except DispatchError (State AccountId) := do
  ensure (s.governance.IsValidDispute cfg disputeId) .invalidDispute
  let voteRound := s.governance.rounds disputeId
  let vote ← okOr (s.governance.voteInfo.lookup (disputeId, voteRound)) (.module .invalidVote)
  ensure (vote.tallyDate = 0) .voteAlreadyTallied
  ensure (s.governance.didVote disputeId vote.voteRound voter = false) .alreadyVoted
  ensure (vote.sent = false) .voteAlreadySent
  let reports := (s.staking.stakerDetails.lookup voter).elim 0 StakeInfo.reportsSubmitted
  let userTips := s.autoPay.tipsByAddress voter
  let vote := { vote with
    reporters := vote.reporters.accrue u128Max supports reports
    users := vote.users.accrue cfg.balanceMax supports userTips }
  let governance := { s.governance.putVote disputeId voteRound vote with
    votes := s.governance.votes.insert (disputeId, voteRound, voter) true
    voteTallyByAddress := s.governance.voteTallyByAddress.insert voter
      (s.governance.voteTally voter + 1) }
  .ok ({ s with governance := governance }.depositEvent (.voted disputeId supports voter))

/-- `vote_on_multiple_disputes`. -/
def voteOnMultipleDisputes (s : State AccountId) (voter : AccountId)
    (votes : List (DisputeId × Option Bool)) : Except DispatchError (State AccountId) :=
  votes.foldlM (fun s vote ↦ doVote cfg s voter vote.1 vote.2) s

/-! ## Sending votes -/

/-- The pending votes scheduled at or before `timestamp`, earliest scheduled first. -/
def Governance.dueVotes (g : Governance AccountId) (timestamp : ℕ) :
    List (DisputeId × ℕ × ℕ) :=
  ((FiniteMap.entries g.pendingVotes).filter fun entry ↦ entry.2.2 ≤ timestamp).insertionSort
    fun left right ↦ left.2.2 ≤ right.2.2

/-- The message by which a round's tallies are sent. -/
def voteMessage (disputeId : DisputeId) (vote : Vote AccountId) : Except DispatchError Message :=
  transact cfg cfg.governance (voteCall disputeId vote.users vote.reporters) gasVote

/-- The mutation of one pending vote in the loop of `do_send_votes`. -/
def sendVote (send : Sender) (s : State AccountId) (disputeId : DisputeId) (voteRound : ℕ) :
    Except DispatchError (State AccountId) := do
  let vote ← okOr (s.governance.voteInfo.lookup (disputeId, voteRound)) (.module .invalidVote)
  ensure (vote.sent = false) .voteAlreadySent
  let message ← voteMessage cfg disputeId vote
  let s ← s.sendXcm send message
    (.voteSent cfg.governance.paraId cfg.governance.address disputeId voteRound)
  let governance := s.governance.putVote disputeId voteRound { vote with sent := true }
  .ok { s with governance := { governance with
    pendingVotes := governance.pendingVotes.erase disputeId } }

/-- One iteration of the loop: an error is dropped, with whatever the mutation wrote. -/
def trySendVote (send : Sender) (s : State AccountId) (entry : DisputeId × ℕ × ℕ) :
    State AccountId :=
  match sendVote cfg send s entry.1 entry.2.1 with
  | .ok s' => s'
  | .error _ => s

/-- `do_send_votes`. -/
def doSendVotes (send : Sender) (s : State AccountId) (timestamp : ℕ) (max : ℕ) :
    State AccountId :=
  ((s.governance.dueVotes timestamp).take max).foldl (trySendVote cfg send) s

section Due

variable {g : Governance AccountId} {timestamp : ℕ}

omit [DecidableEq AccountId] in
theorem mem_dueVotes {disputeId : DisputeId} {pending : ℕ × ℕ} :
    (disputeId, pending) ∈ g.dueVotes timestamp ↔
      g.pendingVotes.lookup disputeId = some pending ∧ pending.2 ≤ timestamp := by
  rw [Governance.dueVotes, List.mem_insertionSort, List.mem_filter, FiniteMap.mem_entries]
  simp

omit [DecidableEq AccountId] in
theorem pairwise_dueVotes :
    (g.dueVotes timestamp).Pairwise fun left right ↦ left.2.2 ≤ right.2.2 := by
  have htotal : Std.Total fun left right : DisputeId × ℕ × ℕ ↦ left.2.2 ≤ right.2.2 :=
    ⟨fun left right ↦ Nat.le_total left.2.2 right.2.2⟩
  have htrans : IsTrans (DisputeId × ℕ × ℕ) fun left right ↦ left.2.2 ≤ right.2.2 :=
    ⟨fun _ _ _ hle hle' ↦ hle.trans hle'⟩
  exact List.pairwise_insertionSort _ _

omit [DecidableEq AccountId] in
/-- No dispute is due twice. -/
theorem nodup_dueVotes : ((g.dueVotes timestamp).map Prod.fst).Nodup := by
  have hperm := List.perm_insertionSort (fun left right : DisputeId × ℕ × ℕ ↦ left.2.2 ≤ right.2.2)
    ((FiniteMap.entries g.pendingVotes).filter fun entry ↦ entry.2.2 ≤ timestamp)
  refine (hperm.map Prod.fst).nodup_iff.mpr ?_
  exact (FiniteMap.nodup_map_fst_entries g.pendingVotes).sublist (List.filter_sublist.map _)

end Due

/-! ## Reports of the governance controller contract -/

/-- `tally_votes`. -/
def tallyVotes (s : State AccountId) (disputeId : DisputeId) (result : VoteResult) :
    Except DispatchError (State AccountId) := do
  let voteRound := s.governance.rounds disputeId
  let vote ← okOr (s.governance.voteInfo.lookup (disputeId, voteRound)) (.module .invalidDispute)
  ensure (vote.executed = false) .voteAlreadyExecuted
  ensure (vote.tallyDate = 0) .voteAlreadyTallied
  -- vote time increases as rounds increase but only up to 6 days (withdrawal period)
  let elapsed ← okOr (Checked.sub s.now vote.startDate) underflow
  ensure (vote.voteRound * days ≤ elapsed ∨ 6 * days ≤ elapsed) .votingPeriodActive
  let vote := { vote with result := some result, tallyDate := s.now }
  let s := { s with governance := s.governance.putVote disputeId voteRound vote }
  let dispute ← okOr (s.governance.disputeInfo.lookup disputeId) (.module .invalidDispute)
  .ok (s.depositEvent (.voteTallied disputeId result vote.initiator dispute.disputedReporter))

/-- Who receives the fee of a round. -/
def feeRecipient (result : VoteResult) (initiator disputedReporter : AccountId) : AccountId :=
  match result with
  | .passed | .invalid => initiator
  | .failed => disputedReporter

/-- The loop of `execute_vote` over the rounds `voteRound`, …, 1. The final round is still held by
the mutating closure; the others are read from storage. -/
def payRounds (g : Governance AccountId) (disputeId : DisputeId) (finalVoteRound : ℕ)
    (finalVote : Vote AccountId) (result : VoteResult) (disputedReporter : AccountId) :
    (voteRound : ℕ) → Ledger AccountId → Except DispatchError (Ledger AccountId)
  | 0, ledger => .ok ledger
  | voteRound + 1, ledger => do
    let vote ← (if voteRound + 1 = finalVoteRound then .ok finalVote
      else okOr (g.voteInfo.lookup (disputeId, voteRound + 1)) (.module .invalidVote))
    let ledger ← transfer cfg ledger cfg.disputeFees
      (feeRecipient result vote.initiator disputedReporter) vote.fee .protect
    payRounds g disputeId finalVoteRound finalVote result disputedReporter voteRound ledger

/-- `execute_vote`. -/
def executeVote (s : State AccountId) (disputeId : DisputeId) :
    Except DispatchError (State AccountId) := do
  ensure (s.governance.IsValidDispute cfg disputeId) .invalidDispute
  let finalVoteRound := s.governance.rounds disputeId
  ensure (0 < finalVoteRound) .invalidVote
  let vote ← okOr (s.governance.voteInfo.lookup (disputeId, finalVoteRound)) (.module .invalidVote)
  ensure (vote.executed = false) .voteAlreadyExecuted
  ensure (0 < vote.tallyDate) .voteNotTallied
  let result ← okOr vote.result (.module .voteNotTallied)
  let elapsed ← okOr (Checked.sub s.now vote.tallyDate) underflow
  ensure (1 * days ≤ elapsed) .tallyDisputePeriodActive
  let dispute ← okOr (s.governance.disputeInfo.lookup disputeId) (.module .invalidDispute)
  let openDisputesOnId := (s.governance.openDisputesOnId.lookup dispute.queryId).elim
    s.governance.openDisputesOnId
    fun disputes ↦ s.governance.openDisputesOnId.insert dispute.queryId (disputes - 1)
  let ledger ← payRounds cfg s.governance disputeId finalVoteRound vote result
    dispute.disputedReporter finalVoteRound s.ledger
  let governance := { s.governance.putVote disputeId finalVoteRound { vote with executed := true }
    with openDisputesOnId := openDisputesOnId }
  .ok ({ s with ledger := ledger, governance := governance }.depositEvent
    (.voteExecuted disputeId result))

/-! ## What a successful call did -/

section Effects

variable {cfg} {s s' : State AccountId} {disputeId : DisputeId} {voter : AccountId}
  {supports : Option Bool} {result : VoteResult}

/-- What a vote cast on the current round of a dispute did. -/
structure VoteCast (cfg : Config AccountId) (s : State AccountId) (voter : AccountId)
    (disputeId : DisputeId) (supports : Option Bool) (vote : Vote AccountId)
    (s' : State AccountId) : Prop where
  vote_eq : s.governance.voteInfo.lookup (disputeId, s.governance.rounds disputeId) = some vote
  not_tallied : vote.tallyDate = 0
  not_voted : s.governance.didVote disputeId vote.voteRound voter = false
  not_sent : vote.sent = false
  state_eq : s' = { s with
    governance := { s.governance.putVote disputeId (s.governance.rounds disputeId)
        { vote with
          reporters := vote.reporters.accrue u128Max supports
            ((s.staking.stakerDetails.lookup voter).elim 0 StakeInfo.reportsSubmitted)
          users := vote.users.accrue cfg.balanceMax supports (s.autoPay.tipsByAddress voter) } with
      votes := s.governance.votes.insert (disputeId, s.governance.rounds disputeId, voter) true
      voteTallyByAddress := s.governance.voteTallyByAddress.insert voter
        (s.governance.voteTally voter + 1) }
    events := s.events ++ [.voted disputeId supports voter] }

theorem doVote_cast (h : doVote cfg s voter disputeId supports = .ok s') :
    ∃ vote, VoteCast cfg s voter disputeId supports vote s' := by
  simp only [doVote, bind_eq_ok, okOr_eq_ok, guard_eq_ok, exists_const] at h
  obtain ⟨-, vote, hvote, htallied, hvoted, hsent, h⟩ := h
  cases h
  exact ⟨vote, hvote, htallied, hvoted, hsent, rfl⟩

/-- What sending a pending vote did. -/
structure VoteSent (cfg : Config AccountId) (send : Sender) (s : State AccountId)
    (disputeId : DisputeId) (voteRound : ℕ) (vote : Vote AccountId) (message : Message)
    (s' : State AccountId) : Prop where
  vote_eq : s.governance.voteInfo.lookup (disputeId, voteRound) = some vote
  not_sent : vote.sent = false
  message_eq : voteMessage cfg disputeId vote = .ok message
  accepted : send message = .ok ()
  state_eq : s' = { s with
    governance := { s.governance.putVote disputeId voteRound { vote with sent := true } with
      pendingVotes := s.governance.pendingVotes.erase disputeId }
    events := s.events ++
      [.voteSent cfg.governance.paraId cfg.governance.address disputeId voteRound]
    sentMessages := s.sentMessages ++ [message] }

omit [DecidableEq AccountId] in
theorem sendVote_eq_ok {send : Sender} {voteRound : ℕ} :
    sendVote cfg send s disputeId voteRound = .ok s' ↔
      ∃ vote message, VoteSent cfg send s disputeId voteRound vote message s' := by
  simp only [sendVote, bind_eq_ok, okOr_eq_ok, guard_eq_ok, exists_const, State.sendXcm_eq_ok]
  constructor
  · rintro ⟨vote, hvote, hsent, message, hmessage, sentState, ⟨haccepted, rfl⟩, h⟩
    cases h
    exact ⟨vote, message, hvote, hsent, hmessage, haccepted, rfl⟩
  · rintro ⟨vote, message, h⟩
    exact ⟨vote, h.vote_eq, h.not_sent, message, h.message_eq, _, ⟨h.accepted, rfl⟩,
      congrArg Except.ok h.state_eq.symm⟩

omit [DecidableEq AccountId] in
theorem VoteSent.pendingVotes_lookup {send : Sender} {voteRound : ℕ} {vote : Vote AccountId}
    {message : Message} (h : VoteSent cfg send s disputeId voteRound vote message s') (d : DisputeId) :
    s'.governance.pendingVotes.lookup d =
      if d = disputeId then none else s.governance.pendingVotes.lookup d := by
  rw [h.state_eq]
  exact FiniteMap.lookup_erase_ite _ _ _

omit [DecidableEq AccountId] in
variable (cfg) in
/-- An iteration of the loop sends its vote or leaves the state alone. -/
theorem trySendVote_cases (send : Sender) (s : State AccountId) (entry : DisputeId × ℕ × ℕ) :
    (∃ vote message, VoteSent cfg send s entry.1 entry.2.1 vote message
      (trySendVote cfg send s entry)) ∨ trySendVote cfg send s entry = s := by
  unfold trySendVote
  split
  · next hsent => exact Or.inl (sendVote_eq_ok.mp hsent)
  · exact Or.inr rfl

/-- What a reported tally did. -/
structure VoteTallied (s : State AccountId) (disputeId : DisputeId) (result : VoteResult)
    (vote : Vote AccountId) (dispute : Dispute AccountId) (s' : State AccountId) : Prop where
  vote_eq : s.governance.voteInfo.lookup (disputeId, s.governance.rounds disputeId) = some vote
  not_executed : vote.executed = false
  not_tallied : vote.tallyDate = 0
  started : vote.startDate ≤ s.now
  duration : vote.voteRound * days ≤ s.now - vote.startDate ∨ 6 * days ≤ s.now - vote.startDate
  dispute_eq : s.governance.disputeInfo.lookup disputeId = some dispute
  state_eq : s' = { s with
    governance := s.governance.putVote disputeId (s.governance.rounds disputeId)
      { vote with result := some result, tallyDate := s.now }
    events := s.events ++
      [.voteTallied disputeId result vote.initiator dispute.disputedReporter] }

omit [DecidableEq AccountId] in
theorem tallyVotes_tallied (h : tallyVotes s disputeId result = .ok s') :
    ∃ vote dispute, VoteTallied s disputeId result vote dispute s' := by
  simp only [tallyVotes, bind_eq_ok, okOr_eq_ok, guard_eq_ok, exists_const,
    Checked.sub_eq_some] at h
  obtain ⟨vote, hvote, hexecuted, htallied, _, ⟨hstarted, rfl⟩, hduration, dispute, hdispute, h⟩ := h
  cases h
  exact ⟨vote, dispute, hvote, hexecuted, htallied, hstarted, hduration, hdispute, rfl⟩

omit [DecidableEq AccountId] in
theorem VoteTallied.tallyVotes_eq {vote : Vote AccountId} {dispute : Dispute AccountId}
    (h : VoteTallied s disputeId result vote dispute s') : tallyVotes s disputeId result = .ok s' := by
  simp only [tallyVotes, bind_eq_ok, okOr_eq_ok, guard_eq_ok, exists_const, Checked.sub_eq_some]
  exact ⟨vote, h.vote_eq, h.not_executed, h.not_tallied, _, ⟨h.started, rfl⟩, h.duration, dispute,
    h.dispute_eq, congrArg Except.ok h.state_eq.symm⟩

/-- What an execution did. -/
structure VoteExecuted (cfg : Config AccountId) (s : State AccountId) (disputeId : DisputeId)
    (vote : Vote AccountId) (result : VoteResult) (dispute : Dispute AccountId)
    (s' : State AccountId) : Prop where
  round_pos : 0 < s.governance.rounds disputeId
  vote_eq : s.governance.voteInfo.lookup (disputeId, s.governance.rounds disputeId) = some vote
  not_executed : vote.executed = false
  tallied : 0 < vote.tallyDate
  result_eq : vote.result = some result
  tallied_le : vote.tallyDate ≤ s.now
  challenged : days ≤ s.now - vote.tallyDate
  dispute_eq : s.governance.disputeInfo.lookup disputeId = some dispute
  paid : payRounds cfg s.governance disputeId (s.governance.rounds disputeId) vote result
    dispute.disputedReporter (s.governance.rounds disputeId) s.ledger = .ok s'.ledger
  openDisputesOnId_eq : s'.governance.openDisputesOnId =
    (s.governance.openDisputesOnId.lookup dispute.queryId).elim s.governance.openDisputesOnId
      fun disputes ↦ s.governance.openDisputesOnId.insert dispute.queryId (disputes - 1)
  state_eq : s' = { s with
    ledger := s'.ledger
    governance := { s.governance.putVote disputeId (s.governance.rounds disputeId)
        { vote with executed := true } with
      openDisputesOnId := s'.governance.openDisputesOnId }
    events := s.events ++ [.voteExecuted disputeId result] }

theorem executeVote_executed (h : executeVote cfg s disputeId = .ok s') :
    ∃ vote result dispute, VoteExecuted cfg s disputeId vote result dispute s' := by
  simp only [executeVote, bind_eq_ok, okOr_eq_ok, guard_eq_ok, exists_const, Checked.sub_eq_some,
    one_mul] at h
  obtain ⟨-, hround, vote, hvote, hexecuted, htallied, result, hresult, _, ⟨hle, rfl⟩, hday, dispute,
    hdispute, ledger, hpaid, h⟩ := h
  cases h
  exact ⟨vote, result, dispute, hround, hvote, hexecuted, htallied, hresult, hle, hday, hdispute,
    hpaid, rfl, rfl⟩

end Effects

end TellorPallet
