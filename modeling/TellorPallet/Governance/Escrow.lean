import TellorPallet.Governance.Rounds

/-!
# The escrow of dispute fees

Each round of a dispute pays its fee into one account shared by all disputes. Executing the dispute
pays the fees of all its rounds out again, and as no round is added after the execution and no
dispute is executed twice, what is owed to the other disputes stays covered.
-/

namespace TellorPallet

open Outcome Transition
open scoped BigOperators

variable {AccountId : Type} [DecidableEq AccountId] {cfg : Config AccountId}

namespace Governance

/-- Whether a dispute was executed. -/
def isExecuted (g : Governance AccountId) (disputeId : DisputeId) : Bool :=
  (g.voteInfo.lookup (disputeId, g.rounds disputeId)).elim false Vote.executed

/-- The fee of a round. -/
def roundFee (g : Governance AccountId) (disputeId : DisputeId) (voteRound : ℕ) : ℕ :=
  (g.voteInfo.lookup (disputeId, voteRound)).elim 0 Vote.fee

/-- The fees of all rounds of a dispute. -/
def collectedFees (g : Governance AccountId) (disputeId : DisputeId) : ℕ :=
  ∑ r ∈ Finset.Icc 1 (g.rounds disputeId), g.roundFee disputeId r

/-- The fees of a dispute that is not executed yet. -/
def heldFees (g : Governance AccountId) (disputeId : DisputeId) : ℕ :=
  if g.isExecuted disputeId = true then 0 else g.collectedFees disputeId

/-- The fees of all disputes that are not executed yet. -/
def escrow (g : Governance AccountId) : ℕ := ∑ d ∈ g.voteRounds.keys, g.heldFees d

/-- What an account receives of the fee of a round. -/
def roundPayment (g : Governance AccountId) (disputeId : DisputeId) (result : VoteResult)
    (disputedReporter account : AccountId) (voteRound : ℕ) : ℕ :=
  (g.voteInfo.lookup (disputeId, voteRound)).elim 0 fun vote ↦
    if account = feeRecipient result vote.initiator disputedReporter then vote.fee else 0

variable {g g' : Governance AccountId} {disputeId : DisputeId}

omit [DecidableEq AccountId] in
theorem heldFees_eq_zero (h : disputeId ∉ g.voteRounds.keys) : g.heldFees disputeId = 0 := by
  have hrounds : g.rounds disputeId = 0 := FiniteMap.read_eq_default h 0
  rw [heldFees, collectedFees, hrounds]
  simp

/-- The fee of a round goes to its initiator, or to the disputed reporter when the dispute failed. -/
theorem sum_roundPayment (result : VoteResult) (disputedReporter account : AccountId)
    (rounds : Finset ℕ) :
    ∑ r ∈ rounds, g.roundPayment disputeId result disputedReporter account r =
      ∑ r ∈ rounds, (g.voteInfo.lookup (disputeId, r)).elim 0 fun round ↦
        match result with
        | .passed | .invalid => if account = round.initiator then round.fee else 0
        | .failed => if account = disputedReporter then round.fee else 0 := by
  refine Finset.sum_congr rfl fun r _ ↦ ?_
  rw [roundPayment]
  cases result <;> rfl

omit [DecidableEq AccountId] in
/-- When the fees of one dispute change, the escrow changes by as much. -/
theorem escrow_add_heldFees (hkeys : g'.voteRounds.keys = insert disputeId g.voteRounds.keys)
    (hother : ∀ other, other ≠ disputeId → g'.heldFees other = g.heldFees other) :
    g'.escrow + g.heldFees disputeId = g.escrow + g'.heldFees disputeId := by
  have hsub : g.voteRounds.keys ⊆ insert disputeId g.voteRounds.keys := Finset.subset_insert _ _
  have hmem : disputeId ∈ insert disputeId g.voteRounds.keys := Finset.mem_insert_self _ _
  have hold : g.escrow = ∑ d ∈ insert disputeId g.voteRounds.keys, g.heldFees d :=
    Finset.sum_subset hsub fun d _ hd ↦ heldFees_eq_zero hd
  rw [hold, escrow, hkeys, ← Finset.add_sum_erase _ _ hmem, ← Finset.add_sum_erase _ g.heldFees hmem]
  have hrest : ∑ d ∈ (insert disputeId g.voteRounds.keys).erase disputeId, g'.heldFees d =
      ∑ d ∈ (insert disputeId g.voteRounds.keys).erase disputeId, g.heldFees d :=
    Finset.sum_congr rfl fun d hd ↦ hother d (Finset.ne_of_mem_erase hd)
  rw [hrest]
  omega

end Governance

/-! ## The loop of an execution -/

section Loop

variable {g : Governance AccountId} {disputeId : DisputeId} {result : VoteResult}
  {disputedReporter : AccountId}

/-- Each round pays its own fee, to whom the result says. -/
theorem payRounds_ledger {final : ℕ} {finalVote : Vote AccountId}
    (hfinal : g.voteInfo.lookup (disputeId, final) = some finalVote) (account : AccountId) (n : ℕ)
    {ledger ledger' : Ledger AccountId}
    (h : payRounds cfg g disputeId final finalVote result disputedReporter n ledger = .ok ledger') :
    ledger' account +
        (if account = cfg.disputeFees then ∑ r ∈ Finset.Icc 1 n, g.roundFee disputeId r else 0) =
      ledger account +
        ∑ r ∈ Finset.Icc 1 n, g.roundPayment disputeId result disputedReporter account r := by
  induction n generalizing ledger with
  | zero =>
    cases h
    simp
  | succ n ih =>
    simp only [payRounds, bind_eq_ok] at h
    obtain ⟨vote, hread, mid, htransfer, hrest⟩ := h
    -- the vote held by the mutating closure is the stored one
    have hvote : g.voteInfo.lookup (disputeId, n + 1) = some vote := by
      split at hread
      · next heq =>
        cases hread
        rw [heq]
        exact hfinal
      · exact okOr_eq_ok.mp hread
    have hlater := ih hrest
    have hmoved := transfer_add htransfer account
    have hfee : g.roundFee disputeId (n + 1) = vote.fee := by
      rw [Governance.roundFee, hvote, Option.elim_some]
    have hpayment : g.roundPayment disputeId result disputedReporter account (n + 1) =
        if account = feeRecipient result vote.initiator disputedReporter then vote.fee else 0 := by
      rw [Governance.roundPayment, hvote, Option.elim_some]
    rw [Finset.sum_Icc_succ_top (Nat.le_add_left 1 n), Finset.sum_Icc_succ_top (Nat.le_add_left 1 n),
      hfee, hpayment]
    split at hlater
    · next heq =>
      rw [if_pos heq] at hmoved ⊢
      omega
    · next hne =>
      rw [if_neg hne] at hmoved ⊢
      omega

end Loop

/-! ## Moves -/

/-- The event by which a dispute is executed. -/
def Event.executes (disputeId : DisputeId) : Event AccountId → Bool
  | .voteExecuted executed _ => executed = disputeId
  | _ => false

/-- How often a dispute was executed. -/
def State.timesExecuted (s : State AccountId) (disputeId : DisputeId) : ℕ :=
  s.events.countP (Event.executes disputeId)

/-- The account of the dispute fees covers the escrow, and no dispute was executed more often than its
last vote says. -/
structure Escrowed (cfg : Config AccountId) (s : State AccountId) : Prop where
  indexed : ∀ disputeId, RoundsIndexed s.governance disputeId
  covered : s.governance.escrow ≤ s.ledger cfg.disputeFees
  executed : ∀ disputeId, s.timesExecuted disputeId = (s.governance.isExecuted disputeId).toNat

omit [DecidableEq AccountId] in
theorem State.timesExecuted_eq (s : State AccountId) (disputeId : DisputeId) :
    s.timesExecuted disputeId = s.voteEvents.countP (Event.executes disputeId) := by
  rw [State.voteEvents, List.countP_filter, State.timesExecuted]
  refine List.countP_congr fun event _ ↦ ?_
  cases event <;> simp [Event.executes, Event.isVoteEvent]

section Moves

variable {s s' : State AccountId} {d : DisputeId} {r fee : ℕ} {vote vote' : Vote AccountId}

omit [DecidableEq AccountId] in
theorem VoteUpdated.collectedFees (h : VoteUpdated s s' d r vote vote') (disputeId : DisputeId) :
    s'.governance.collectedFees disputeId = s.governance.collectedFees disputeId := by
  rw [Governance.collectedFees, Governance.collectedFees, h.rounds]
  refine Finset.sum_congr rfl fun i _ ↦ ?_
  rw [Governance.roundFee, Governance.roundFee, h.lookup]
  split
  · next heq =>
    rw [heq.1, heq.2, h.vote_eq]
    exact h.fee_eq
  · rfl

omit [DecidableEq AccountId] in
/-- Only an update of a last vote that says so executes a dispute. -/
theorem VoteUpdated.isExecuted (h : VoteUpdated s s' d r vote vote') (disputeId : DisputeId) :
    s'.governance.isExecuted disputeId =
      if disputeId = d ∧ s.governance.rounds disputeId = r then vote'.executed
      else s.governance.isExecuted disputeId := by
  rw [Governance.isExecuted, h.rounds, h.lookup]
  split
  · rfl
  · rfl

omit [DecidableEq AccountId] in
theorem VoteUpdated.isExecuted_of_eq (h : VoteUpdated s s' d r vote vote')
    (hexecuted : vote'.executed = vote.executed) (disputeId : DisputeId) :
    s'.governance.isExecuted disputeId = s.governance.isExecuted disputeId := by
  rw [h.isExecuted]
  split
  · next heq => rw [hexecuted, Governance.isExecuted, heq.2, heq.1, h.vote_eq, Option.elim_some]
  · rfl

omit [DecidableEq AccountId] in
/-- An update that executes nothing keeps the escrow. -/
theorem VoteUpdated.escrowed (h : VoteUpdated s s' d r vote vote')
    (hexecuted : vote'.executed = vote.executed) (hledger : s'.ledger = s.ledger)
    (hindexed : ∀ disputeId, RoundsIndexed s'.governance disputeId)
    (htimes : ∀ disputeId, s'.timesExecuted disputeId = s.timesExecuted disputeId)
    (hinv : Escrowed cfg s) : Escrowed cfg s' := by
  have hsame := h.isExecuted_of_eq hexecuted
  have hescrow : s'.governance.escrow = s.governance.escrow := by
    rw [Governance.escrow, Governance.escrow, h.rounds_eq]
    refine Finset.sum_congr rfl fun disputeId _ ↦ ?_
    rw [Governance.heldFees, Governance.heldFees, hsame, h.collectedFees]
  refine ⟨hindexed, ?_, fun disputeId ↦ ?_⟩
  · rw [hescrow, hledger]
    exact hinv.covered
  · rw [htimes, hsame]
    exact hinv.executed disputeId

theorem Opened.not_executed {initiator : AccountId} (h : Opened cfg s d r fee initiator s')
    (hindexed : RoundsIndexed s.governance d) : s.governance.isExecuted d = false := by
  have hround := h.round_eq
  rcases h.previous with hfirst | ⟨prevVote, hprevious, -, -, hnot⟩
  · cases hvote : s.governance.voteInfo.lookup (d, s.governance.rounds d) with
    | none => rw [Governance.isExecuted, hvote, Option.elim_none]
    | some vote =>
      have hrange := (hindexed.defined _).mp ⟨vote, hvote⟩
      omega
  · rw [show r - 1 = s.governance.rounds d by omega] at hprevious
    rw [Governance.isExecuted, hprevious, Option.elim_some, hnot]

/-- Opening a round neither executes a dispute nor takes an execution back. -/
theorem Opened.isExecuted {initiator : AccountId} (h : Opened cfg s d r fee initiator s')
    (hindexed : RoundsIndexed s.governance d) (other : DisputeId) :
    s'.governance.isExecuted other = s.governance.isExecuted other := by
  by_cases hd : other = d
  · subst hd
    rw [h.not_executed hindexed, Governance.isExecuted, h.rounds, if_pos rfl, h.lookup,
      if_pos ⟨rfl, h.round_eq.symm⟩]
    rfl
  · rw [Governance.isExecuted, h.rounds, if_neg hd, h.lookup, if_neg fun heq ↦ hd heq.1,
      Governance.isExecuted]

/-- Opening a round of a dispute that is not executed adds its fee, on both sides. -/
theorem Opened.escrowed {initiator : AccountId} (h : Opened cfg s d r fee initiator s')
    (hinv : Escrowed cfg s) : Escrowed cfg s' := by
  have hround := h.round_eq
  have hnot := h.not_executed (hinv.indexed d)
  have hexecuted := h.isExecuted (hinv.indexed d)
  have hcollected : s'.governance.collectedFees d = s.governance.collectedFees d + fee := by
    rw [Governance.collectedFees, h.rounds, if_pos rfl,
      Finset.sum_Icc_succ_top (Nat.le_add_left 1 _), Governance.collectedFees]
    congr 1
    · refine Finset.sum_congr rfl fun i hi ↦ ?_
      have hle := (Finset.mem_Icc.mp hi).2
      rw [Governance.roundFee, h.lookup, if_neg (by omega), Governance.roundFee]
    · rw [Governance.roundFee, h.lookup, if_pos ⟨rfl, hround.symm⟩]
      rfl
  have hother : ∀ other, other ≠ d → s'.governance.heldFees other = s.governance.heldFees other := by
    intro other hne
    have hlookup : ∀ i, s'.governance.voteInfo.lookup (other, i) =
        s.governance.voteInfo.lookup (other, i) := by
      intro i
      rw [h.lookup, if_neg fun heq ↦ hne heq.1]
    rw [Governance.heldFees, Governance.heldFees, hexecuted, Governance.collectedFees, h.rounds,
      if_neg hne, Governance.collectedFees]
    simp only [Governance.roundFee, hlookup]
  have hkeys : s'.governance.voteRounds.keys = insert d s.governance.voteRounds.keys := by
    rw [h.rounds_eq, FiniteMap.keys_insert]
  have hescrow := Governance.escrow_add_heldFees hkeys hother
  refine ⟨fun other ↦ h.roundsIndexed (hinv.indexed other), ?_, fun other ↦ ?_⟩
  · have hcovered := hinv.covered
    rw [Governance.heldFees, Governance.heldFees, hexecuted, hnot, hcollected] at hescrow
    rw [transfer_dest_eq h.transferred h.initiator_ne]
    simp only [Bool.false_eq_true, if_false] at hescrow
    omega
  · rw [State.timesExecuted_eq, h.quiet, ← State.timesExecuted_eq, hinv.executed, hexecuted]

/-- Executing a dispute executes no other. -/
theorem VoteExecuted.isExecuted {result : VoteResult} {dispute : Dispute AccountId}
    (h : VoteExecuted cfg s d vote result dispute s') (other : DisputeId) :
    s'.governance.isExecuted other = if other = d then true else s.governance.isExecuted other := by
  rw [h.voteUpdated.isExecuted]
  by_cases hd : other = d
  · rw [hd, if_pos ⟨rfl, rfl⟩, if_pos rfl]
  · rw [if_neg fun heq ↦ hd heq.1, if_neg hd]

theorem VoteExecuted.not_executed_before {result : VoteResult} {dispute : Dispute AccountId}
    (h : VoteExecuted cfg s d vote result dispute s') : s.governance.isExecuted d = false := by
  rw [Governance.isExecuted, h.vote_eq, Option.elim_some, h.not_executed]

/-- Executing a dispute releases its fees, on both sides. -/
theorem VoteExecuted.escrowed {result : VoteResult} {dispute : Dispute AccountId}
    (h : VoteExecuted cfg s d vote result dispute s') (hinv : Escrowed cfg s) :
    Escrowed cfg s' := by
  have hupdated := h.voteUpdated
  have hnot := h.not_executed_before
  have hexecuted : s'.governance.isExecuted d = true := by
    rw [h.isExecuted, if_pos rfl]
  have hother : ∀ other, other ≠ d →
      s'.governance.isExecuted other = s.governance.isExecuted other := by
    intro other hne
    rw [h.isExecuted, if_neg hne]
  have hmem : d ∈ s.governance.voteRounds.keys := by
    by_contra hnone
    have hround := h.round_pos
    rw [Governance.rounds, FiniteMap.read_eq_default hnone] at hround
    exact lt_irrefl 0 hround
  have hkeys : s'.governance.voteRounds.keys = insert d s.governance.voteRounds.keys := by
    rw [hupdated.rounds_eq, Finset.insert_eq_of_mem hmem]
  have hescrow := Governance.escrow_add_heldFees hkeys fun other hne ↦ by
    rw [Governance.heldFees, Governance.heldFees, hother other hne, hupdated.collectedFees]
  refine ⟨fun other ↦ hupdated.roundsIndexed (fun _ ↦ Or.inr rfl) (hinv.indexed other), ?_,
    fun other ↦ ?_⟩
  · have hcovered := hinv.covered
    have hpaid := payRounds_ledger h.vote_eq cfg.disputeFees _ h.paid
    rw [if_pos rfl] at hpaid
    rw [Governance.heldFees, Governance.heldFees, hnot, hexecuted, if_pos rfl,
      if_neg Bool.false_ne_true, Governance.collectedFees] at hescrow
    omega
  · rw [State.timesExecuted, congrArg State.events h.state_eq, List.countP_append]
    have hbefore := hinv.executed other
    rw [State.timesExecuted] at hbefore
    rw [hbefore]
    by_cases hd : other = d
    · subst hd
      rw [hnot, hexecuted]
      simp [Event.executes]
    · rw [hother other hd]
      simp [Event.executes, Ne.symm hd]

theorem RoundStep.escrowed (s s' : State AccountId) (hinv : Escrowed cfg s) (h : RoundStep cfg s s') :
    Escrowed cfg s' := by
  have hindexed : ∀ disputeId, RoundsIndexed s'.governance disputeId :=
    fun disputeId ↦ h.roundsIndexed (hinv.indexed disputeId)
  cases h with
  | quiet hgovernance hnow hbalance hquiet =>
    refine ⟨hindexed, ?_, fun disputeId ↦ ?_⟩
    · rw [hgovernance]
      exact hinv.covered.trans hbalance
    · rw [State.timesExecuted_eq, hquiet, ← State.timesExecuted_eq, hgovernance]
      exact hinv.executed disputeId
  | voted h =>
    refine h.voteUpdated.escrowed rfl (congrArg State.ledger h.state_eq :) hindexed
      (fun disputeId ↦ ?_) hinv
    rw [State.timesExecuted, congrArg State.events h.state_eq]
    simp [State.timesExecuted, Event.executes]
  | sent hpending h =>
    refine h.voteUpdated.escrowed rfl (congrArg State.ledger h.state_eq :) hindexed
      (fun disputeId ↦ ?_) hinv
    rw [State.timesExecuted, congrArg State.events h.state_eq]
    simp [State.timesExecuted, Event.executes]
  | opened h => exact h.escrowed hinv
  | tallied h =>
    refine h.voteUpdated.escrowed rfl (congrArg State.ledger h.state_eq :) hindexed
      (fun disputeId ↦ ?_) hinv
    rw [State.timesExecuted, congrArg State.events h.state_eq]
    simp [State.timesExecuted, Event.executes]
  | executed h => exact h.escrowed hinv

theorem Reachable.escrowed (h : Reachable cfg s) : Escrowed cfg s := by
  refine h.roundInvariant (Escrowed cfg) (fun s₀ hgenesis ↦ ?_) RoundStep.escrowed
  refine ⟨fun disputeId ↦ roundsIndexed_genesis hgenesis, ?_, fun disputeId ↦ ?_⟩
  · obtain ⟨ledger, blockNumber, now, -, rfl⟩ := hgenesis
    simp [State.genesis, Governance.escrow]
  · obtain ⟨ledger, blockNumber, now, -, rfl⟩ := hgenesis
    simp [State.genesis, State.timesExecuted, Governance.isExecuted]

end Moves

/-- In every reachable state the account of the dispute fees covers the fees of all rounds of all
disputes not executed yet, and no dispute was executed twice. An execution pays the fee of each round
once: to its initiator when the last result is passed or invalid, to the disputed reporter when it is
failed. -/
theorem escrow_of_reachable {s : State AccountId} (h : Reachable cfg s) :
    s.governance.escrow ≤ s.ledger cfg.disputeFees ∧
      (∀ d, s.timesExecuted d = (s.governance.isExecuted d).toNat ∧ s.timesExecuted d ≤ 1) ∧
      ∀ send origin d s', dispatch cfg send s origin (.reportVoteExecuted d) = .ok s' →
        s.governance.isExecuted d = false ∧ s'.governance.isExecuted d = true ∧
          (∀ r, (∃ vote, s.governance.voteInfo.lookup (d, r) = some vote) ↔
            1 ≤ r ∧ r ≤ s.governance.rounds d) ∧
          ∃ vote result dispute,
            s.governance.voteInfo.lookup (d, s.governance.rounds d) = some vote ∧
            vote.result = some result ∧ s.governance.disputeInfo.lookup d = some dispute ∧
            ∀ account,
              s'.ledger account +
                  (if account = cfg.disputeFees then s.governance.collectedFees d else 0) =
                s.ledger account + ∑ r ∈ Finset.Icc 1 (s.governance.rounds d),
                  (s.governance.voteInfo.lookup (d, r)).elim 0 fun round ↦
                    match result with
                    | .passed | .invalid => if account = round.initiator then round.fee else 0
                    | .failed => if account = dispute.disputedReporter then round.fee else 0 := by
  have hinv := h.escrowed
  refine ⟨hinv.covered, fun d ↦ ⟨hinv.executed d, ?_⟩, fun send origin d s' hdispatch ↦ ?_⟩
  · rw [hinv.executed]
    exact Bool.toNat_le _
  · obtain ⟨-, -, hcall⟩ := bind_eq_ok.mp hdispatch
    obtain ⟨vote, result, dispute, hexecuted⟩ := executeVote_executed hcall
    refine ⟨?_, ?_, (hinv.indexed d).defined, vote, result, dispute, hexecuted.vote_eq,
      hexecuted.result_eq, hexecuted.dispute_eq, fun account ↦ ?_⟩
    · rw [Governance.isExecuted, hexecuted.vote_eq, Option.elim_some, hexecuted.not_executed]
    · rw [hexecuted.voteUpdated.isExecuted, if_pos ⟨rfl, rfl⟩]
    · rw [← Governance.sum_roundPayment]
      exact payRounds_ledger hexecuted.vote_eq account _ hexecuted.paid

/-- The dispute of the mock runtime is executed once, and its escrow is empty afterwards. -/
theorem escrow_of_reachable_executed :
    (run (step Mock.config) (Mock.rounds ++ [Mock.block (4 * days + 60), Mock.execute])
        Mock.genesis).timesExecuted Mock.disputeId = 1 ∧
      (run (step Mock.config) (Mock.rounds ++ [Mock.block (4 * days + 60), Mock.execute])
          Mock.genesis).governance.escrow = 0 ∧
      (run (step Mock.config) (Mock.rounds ++ [Mock.block (4 * days + 60), Mock.execute])
          Mock.genesis).governance.escrow ≤
        (run (step Mock.config) (Mock.rounds ++ [Mock.block (4 * days + 60), Mock.execute])
          Mock.genesis).ledger Mock.config.disputeFees :=
  ⟨by decide +kernel, by decide +kernel, (escrow_of_reachable (Mock.reachableBy_run
    (Mock.rounds ++ [Mock.block (4 * days + 60), Mock.execute]) (by decide +kernel))).1⟩

end TellorPallet
