import TellorPallet.Oracle.Reports

/-!
# Opening disputes

The call `begin_dispute`. The first round of a dispute removes the disputed value from the report
series; a later round needs the round before it to be tallied less than a day ago. Either way the
initiator pays a fee into the dispute fees account, the round is queued for sending, and the
governance contract is told.
-/

namespace TellorPallet

open Outcome

variable {AccountId : Type} [DecidableEq AccountId] (cfg : Config AccountId)

/-- The identifier of the dispute of a report. -/
def disputeIdOf (queryId : QueryId) (timestamp : ℕ) : DisputeId :=
  cfg.keccak256 (cfg.abiEncode
    [.uint cfg.parachainId, .fixedBytes (hashBytes queryId), .uint timestamp])

/-- The number of the round a dispute opens next. -/
def nextVoteRound (g : Governance AccountId) (disputeId : DisputeId) : Except DispatchError ℕ := do
  let voteRounds ← okOr (Checked.add u8Max (g.rounds disputeId) 1) (.module .maxVoteRoundsReached)
  ensure (voteRounds ≤ maxVoteRounds) .maxVoteRoundsReached
  .ok voteRounds

/-- What the first round of a dispute does: the dispute is recorded with the value, and the value is
removed. Returns the dispute and the fee of the round. -/
def openFirstRound (s : State AccountId) (queryId : QueryId) (timestamp : ℕ)
    (disputeId : DisputeId) (fee : ℕ) :
    Except DispatchError (Dispute AccountId × ℕ × State AccountId) := do
  let elapsed ← okOr (Checked.sub s.now timestamp) underflow
  ensure (elapsed < reportingLock) .disputeReportingPeriodExpired
  let openDisputes ← okOr
    (Checked.add u32Max ((s.governance.openDisputesOnId.lookup queryId).getD 0) 1) overflow
  -- calculate dispute fee based on number of open disputes on query id
  let fee := Saturating.mul cfg.balanceMax fee (Saturating.pow cfg.balanceMax 2 (openDisputes - 1))
  let value ← okOr (s.oracle.retrieveData queryId timestamp) (.module .invalidTimestamp)
  let disputedReporter ← okOr (s.oracle.getReporterByTimestamp queryId timestamp)
    (.module .noValueExists)
  let dispute : Dispute AccountId :=
    { queryId := queryId
      timestamp := timestamp
      value := value
      disputedReporter := disputedReporter
      slashedAmount := s.prices.stakeAmount }
  let governance := { s.governance with
    openDisputesOnId := s.governance.openDisputesOnId.insert queryId openDisputes
    disputeIdsByReporter := s.governance.disputeIdsByReporter.insert (disputedReporter, disputeId) ()
    disputeInfo := s.governance.disputeInfo.insert disputeId dispute }
  let (_, oracle) ← s.oracle.removeValue cfg.maxDisputedTimeSeries queryId timestamp
  .ok (dispute, fee, { s with governance := governance, oracle := oracle }.depositEvent
    (.valueRemoved queryId timestamp))

/-- What a later round of a dispute requires of the round before it. Returns the dispute and the fee
of the round. -/
def openLaterRound (s : State AccountId) (disputeId : DisputeId) (voteRound : ℕ) (fee : ℕ) :
    Except DispatchError (Dispute AccountId × ℕ × State AccountId) := do
  let prevId ← okOr (Checked.sub voteRound 1) underflow
  let prevVote ← okOr (s.governance.voteInfo.lookup (disputeId, prevId)) (.module .invalidVote)
  let elapsed ← okOr (Checked.sub s.now prevVote.tallyDate) underflow
  ensure (elapsed < 1 * days) .disputeRoundReportingPeriodExpired
  -- ensure previous round not executed
  ensure (prevVote.executed = false) .voteAlreadyExecuted
  let fee := Saturating.mul cfg.balanceMax fee (Saturating.pow cfg.balanceMax 2 (voteRound - 1))
  let dispute ← okOr (s.governance.disputeInfo.lookup disputeId) (.module .invalidDispute)
  .ok (dispute, fee, s)

/-- The vote of a new round. -/
def newVote (s : State AccountId) (disputeId : DisputeId) (voteRound : ℕ) (fee : ℕ)
    (initiator : AccountId) : Vote AccountId where
  identifier := disputeId
  voteRound := voteRound
  startDate := s.now
  blockNumber := s.blockNumber
  fee := fee
  tallyDate := 0
  users := Tally.zero
  reporters := Tally.zero
  sent := false
  executed := false
  result := none
  initiator := initiator

/-- The storage writes common to all rounds: the round becomes the current one, is queued for
sending, and its fee is collected. -/
def openRound (s : State AccountId) (disputeId : DisputeId) (voteRound : ℕ) (fee : ℕ)
    (initiator : AccountId) : Except DispatchError (State AccountId) := do
  let ledger ← transfer cfg s.ledger initiator cfg.disputeFees fee .protect
  .ok { s with
    ledger := ledger
    governance := { s.governance with
      voteRounds := s.governance.voteRounds.insert disputeId voteRound
      voteCount := s.governance.voteCount + 1
      pendingVotes := s.governance.pendingVotes.insert disputeId (voteRound, s.now + 11 * hours)
      voteInfo := s.governance.voteInfo.insert (disputeId, voteRound)
        (newVote s disputeId voteRound fee initiator) } }

/-- `begin_dispute`. -/
def beginDispute (send : Sender) (s : State AccountId) (disputeInitiator : AccountId)
    (queryId : QueryId) (timestamp : ℕ) (beneficiary : Option Address) :
    Except DispatchError (State AccountId) := do
  -- lookup dispute initiator's address on controller chain when no beneficiary address specified
  let beneficiary ← okOr (beneficiary.or
    ((s.staking.stakerDetails.lookup disputeInitiator).map StakeInfo.address)) (.module .notReporter)
  ensure ((s.oracle.reports.lookup (queryId, timestamp)).isSome = true) .noValueExists
  let disputeId := disputeIdOf cfg queryId timestamp
  let voteRound ← nextVoteRound s.governance disputeId
  let (dispute, fee, s) ← (if voteRound = 1 then
      openFirstRound cfg s queryId timestamp disputeId s.prices.disputeFee
    else openLaterRound cfg s disputeId voteRound s.prices.disputeFee)
  let fee := min fee (Saturating.mul cfg.balanceMax s.prices.disputeFee 10)
  let s ← openRound cfg s disputeId voteRound fee disputeInitiator
  let s := s.depositEvent (.newDispute disputeId queryId timestamp dispute.disputedReporter)
  -- lookup corresponding address on controller chain
  let disputedReporter ← okOr (s.staking.stakerDetails.lookup dispute.disputedReporter)
    (.module .notReporter)
  let message ← transact cfg cfg.governance (beginParachainDisputeCall queryId timestamp
    dispute.value disputedReporter.address beneficiary dispute.slashedAmount)
    gasBeginParachainDispute
  s.sendXcm send message (.newDisputeSent cfg.governance.paraId cfg.governance.address)

/-! ## What a successful call did -/

section Effects

variable {cfg} {s s₁ s' : State AccountId} {queryId : QueryId} {timestamp : ℕ}
  {disputeId : DisputeId} {voteRound : ℕ} {fee fee' : ℕ} {dispute : Dispute AccountId}

omit [DecidableEq AccountId] in
theorem nextVoteRound_eq_ok {g : Governance AccountId} (h : nextVoteRound g disputeId = .ok voteRound) :
    voteRound = g.rounds disputeId + 1 ∧ voteRound ≤ maxVoteRounds := by
  simp only [nextVoteRound, bind_eq_ok, okOr_eq_ok, Checked.add_eq_some, guard_eq_ok,
    exists_const] at h
  obtain ⟨_, ⟨-, rfl⟩, hle, h⟩ := h
  cases h
  exact ⟨rfl, hle⟩

/-- What the first round of a dispute did besides opening the round. -/
structure FirstRound (cfg : Config AccountId) (s : State AccountId) (queryId : QueryId)
    (timestamp : ℕ) (disputeId : DisputeId) (dispute : Dispute AccountId) (iterations : ℕ)
    (s₁ : State AccountId) : Prop where
  reported : timestamp ≤ s.now
  within_lock : s.now - timestamp < reportingLock
  removed : s.oracle.removeValue cfg.maxDisputedTimeSeries queryId timestamp =
    .ok (iterations, s₁.oracle)
  queryId_eq : dispute.queryId = queryId
  timestamp_eq : dispute.timestamp = timestamp
  value_eq : s.oracle.retrieveData queryId timestamp = some dispute.value
  reporter_eq : s.oracle.getReporterByTimestamp queryId timestamp = some dispute.disputedReporter
  state_eq : s₁ = { s with
    oracle := s₁.oracle
    governance := { s.governance with
      openDisputesOnId := s.governance.openDisputesOnId.insert queryId
        ((s.governance.openDisputesOnId.lookup queryId).getD 0 + 1)
      disputeIdsByReporter := s.governance.disputeIdsByReporter.insert
        (dispute.disputedReporter, disputeId) ()
      disputeInfo := s.governance.disputeInfo.insert disputeId dispute }
    events := s.events ++ [.valueRemoved queryId timestamp] }

theorem openFirstRound_firstRound
    (h : openFirstRound cfg s queryId timestamp disputeId fee = .ok (dispute, fee', s₁)) :
    ∃ iterations, FirstRound cfg s queryId timestamp disputeId dispute iterations s₁ := by
  simp only [openFirstRound, bind_eq_ok, okOr_eq_ok, guard_eq_ok, Checked.sub_eq_some,
    Checked.add_eq_some, exists_const] at h
  obtain ⟨_, ⟨hreported, rfl⟩, hlock, _, ⟨-, rfl⟩, value, hvalue, reporter, hreporter,
    ⟨iterations, oracle⟩, hremoved, h⟩ := h
  cases h
  exact ⟨iterations, hreported, hlock, hremoved, rfl, rfl, hvalue, hreporter, rfl⟩

/-- What a later round of a dispute found. -/
structure LaterRound (s : State AccountId) (disputeId : DisputeId) (voteRound : ℕ)
    (dispute : Dispute AccountId) (prevVote : Vote AccountId) : Prop where
  previous_eq : s.governance.voteInfo.lookup (disputeId, voteRound - 1) = some prevVote
  tallied_le : prevVote.tallyDate ≤ s.now
  within_day : s.now - prevVote.tallyDate < days
  not_executed : prevVote.executed = false
  dispute_eq : s.governance.disputeInfo.lookup disputeId = some dispute

omit [DecidableEq AccountId] in
theorem openLaterRound_laterRound
    (h : openLaterRound cfg s disputeId voteRound fee = .ok (dispute, fee', s₁)) :
    s₁ = s ∧ ∃ prevVote, LaterRound s disputeId voteRound dispute prevVote := by
  simp only [openLaterRound, bind_eq_ok, okOr_eq_ok, guard_eq_ok, Checked.sub_eq_some,
    exists_const, one_mul] at h
  obtain ⟨_, ⟨-, rfl⟩, prevVote, hprevious, _, ⟨htallied, rfl⟩, hday, hexecuted, other, hdispute, h⟩ := h
  cases h
  exact ⟨rfl, prevVote, hprevious, htallied, hday, hexecuted, hdispute⟩

/-- What opening a round did to the state `s₁` that the preparation of the round left. -/
structure RoundOpened (cfg : Config AccountId) (s₁ : State AccountId) (disputeId : DisputeId)
    (voteRound : ℕ) (fee : ℕ) (initiator : AccountId) (events : List (Event AccountId))
    (s' : State AccountId) : Prop where
  transferred : transfer cfg s₁.ledger initiator cfg.disputeFees fee .protect = .ok s'.ledger
  state_eq : s' = { s₁ with
    ledger := s'.ledger
    governance := { s₁.governance with
      voteRounds := s₁.governance.voteRounds.insert disputeId voteRound
      voteCount := s₁.governance.voteCount + 1
      pendingVotes := s₁.governance.pendingVotes.insert disputeId (voteRound, s₁.now + 11 * hours)
      voteInfo := s₁.governance.voteInfo.insert (disputeId, voteRound)
        (newVote s₁ disputeId voteRound fee initiator) }
    events := s₁.events ++ events
    sentMessages := s'.sentMessages }

theorem openRound_eq_ok {initiator : AccountId}
    (h : openRound cfg s₁ disputeId voteRound fee initiator = .ok s') :
    RoundOpened cfg s₁ disputeId voteRound fee initiator [] s' := by
  obtain ⟨ledger, hledger, h⟩ := bind_eq_ok.mp h
  cases h
  exact ⟨hledger, by rw [List.append_nil]⟩

/-- What preparing a round did: the first round removes the disputed value, a later one finds the
round before it tallied and not executed. -/
def RoundPrepared (cfg : Config AccountId) (s : State AccountId) (queryId : QueryId)
    (timestamp : ℕ) (disputeId : DisputeId) (voteRound : ℕ) (dispute : Dispute AccountId)
    (s₁ : State AccountId) : Prop :=
  (voteRound = 1 ∧ ∃ iterations, FirstRound cfg s queryId timestamp disputeId dispute iterations s₁) ∨
    (voteRound ≠ 1 ∧ s₁ = s ∧ ∃ prevVote, LaterRound s disputeId voteRound dispute prevVote)

/-- The steps of a successful `begin_dispute`. -/
theorem beginDispute_eq_ok {send : Sender} {initiator : AccountId} {beneficiary : Option Address}
    (h : beginDispute cfg send s initiator queryId timestamp beneficiary = .ok s') :
    ∃ voteRound dispute fee s₁,
      voteRound = s.governance.rounds (disputeIdOf cfg queryId timestamp) + 1 ∧
      voteRound ≤ maxVoteRounds ∧
      RoundPrepared cfg s queryId timestamp (disputeIdOf cfg queryId timestamp) voteRound dispute s₁ ∧
      RoundOpened cfg s₁ (disputeIdOf cfg queryId timestamp) voteRound fee initiator
        [.newDispute (disputeIdOf cfg queryId timestamp) queryId timestamp dispute.disputedReporter,
          .newDisputeSent cfg.governance.paraId cfg.governance.address] s' := by
  simp only [beginDispute, bind_eq_ok, okOr_eq_ok, guard_eq_ok, exists_const, State.sendXcm_eq_ok] at h
  obtain ⟨beneficiary, -, -, voteRound, hround, ⟨dispute, fee, s₁⟩, hprepared, s₂, hopened, info, -,
    message, -, -, h⟩ := h
  obtain ⟨hnext, hle⟩ := nextVoteRound_eq_ok hround
  have hopenRound := openRound_eq_ok hopened
  refine ⟨voteRound, dispute, min fee (Saturating.mul cfg.balanceMax s₁.prices.disputeFee 10), s₁,
    hnext, hle, ?_, ?_, ?_⟩
  · split at hprepared
    · next hfirst => exact Or.inl ⟨hfirst, openFirstRound_firstRound hprepared⟩
    · next hlater => exact Or.inr ⟨hlater, openLaterRound_laterRound hprepared⟩
  · rw [← h]
    exact hopenRound.transferred
  · rw [← h, hopenRound.state_eq]
    simp [State.depositEvent]

/-- A dispute is announced to the governance contract by one message. -/
theorem beginDispute_sentMessages {send : Sender} {initiator : AccountId}
    {beneficiary : Option Address}
    (h : beginDispute cfg send s initiator queryId timestamp beneficiary = .ok s') :
    ∃ message, s'.sentMessages = s.sentMessages ++ [message] := by
  simp only [beginDispute, bind_eq_ok, okOr_eq_ok, guard_eq_ok, exists_const, State.sendXcm_eq_ok] at h
  obtain ⟨beneficiary, -, -, voteRound, -, ⟨dispute, fee, s₁⟩, hprepared, s₂, hopened, info, -,
    message, -, -, h⟩ := h
  refine ⟨message, ?_⟩
  have hsame : s₁.sentMessages = s.sentMessages := by
    split at hprepared
    · obtain ⟨_, hfirst⟩ := openFirstRound_firstRound hprepared
      rw [hfirst.state_eq]
    · rw [(openLaterRound_laterRound hprepared).1]
  obtain ⟨ledger, -, hopened⟩ := bind_eq_ok.mp hopened
  cases hopened
  rw [← h, ← hsame]
  rfl

end Effects

end TellorPallet
