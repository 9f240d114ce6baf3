import TellorPallet.Governance.Escrow
import TellorPallet.Staking.Acceptance

/-!
# No dispute is stuck

Once the account of the dispute fees holds the existential deposit beside the escrow, it does so for good,
and every fee can be paid out again. The reports of the governance contract then conclude any dispute: a
tally is accepted as soon as the voting period is over, and the execution a day later.
-/

namespace TellorPallet

open Outcome Transition
open scoped BigOperators

variable {AccountId : Type} [DecidableEq AccountId] {cfg : Config AccountId}

/-! ## The reserve -/

section Reserve

variable {s s' : State AccountId} {d : DisputeId} {r fee : ℕ} {vote vote' : Vote AccountId}

omit [DecidableEq AccountId] in
theorem VoteUpdated.escrow_eq (h : VoteUpdated s s' d r vote vote')
    (hexecuted : vote'.executed = vote.executed) :
    s'.governance.escrow = s.governance.escrow := by
  rw [Governance.escrow, Governance.escrow, h.rounds_eq]
  refine Finset.sum_congr rfl fun disputeId _ ↦ ?_
  rw [Governance.heldFees, Governance.heldFees, h.isExecuted_of_eq hexecuted, h.collectedFees]

theorem Opened.escrow_eq {initiator : AccountId} (h : Opened cfg s d r fee initiator s')
    (hindexed : ∀ disputeId, RoundsIndexed s.governance disputeId) :
    s'.governance.escrow = s.governance.escrow + fee := by
  have hround := h.round_eq
  have hexecuted := h.isExecuted (hindexed d)
  have hkeys : s'.governance.voteRounds.keys = insert d s.governance.voteRounds.keys := by
    rw [h.rounds_eq, FiniteMap.keys_insert]
  have hother : ∀ other, other ≠ d → s'.governance.heldFees other = s.governance.heldFees other := by
    intro other hne
    have hfee : ∀ i, s'.governance.roundFee other i = s.governance.roundFee other i := fun i ↦ by
      rw [Governance.roundFee, h.lookup, if_neg fun heq ↦ hne heq.1, Governance.roundFee]
    rw [Governance.heldFees, Governance.heldFees, hexecuted, Governance.collectedFees, h.rounds,
      if_neg hne, Governance.collectedFees]
    simp only [hfee]
  have hcollected : s'.governance.collectedFees d = s.governance.collectedFees d + fee := by
    rw [Governance.collectedFees, h.rounds, if_pos rfl, Finset.sum_Icc_succ_top (Nat.le_add_left 1 _),
      Governance.collectedFees]
    congr 1
    · refine Finset.sum_congr rfl fun i hi ↦ ?_
      have hle := (Finset.mem_Icc.mp hi).2
      rw [Governance.roundFee, h.lookup, if_neg (by omega), Governance.roundFee]
    · rw [Governance.roundFee, h.lookup, if_pos ⟨rfl, hround.symm⟩]
      rfl
  have hescrow := Governance.escrow_add_heldFees hkeys hother
  rw [Governance.heldFees, Governance.heldFees, hexecuted, h.not_executed (hindexed d), hcollected]
    at hescrow
  simp only [Bool.false_eq_true, if_false] at hescrow
  omega

theorem VoteExecuted.escrow_add {result : VoteResult} {dispute : Dispute AccountId}
    (h : VoteExecuted cfg s d vote result dispute s') :
    s'.governance.escrow + s.governance.collectedFees d = s.governance.escrow := by
  have hupdated := h.voteUpdated
  have hmem : d ∈ s.governance.voteRounds.keys := by
    by_contra hnone
    have hround := h.round_pos
    rw [Governance.rounds, FiniteMap.read_eq_default hnone] at hround
    exact lt_irrefl 0 hround
  have hkeys : s'.governance.voteRounds.keys = insert d s.governance.voteRounds.keys := by
    rw [hupdated.rounds_eq, Finset.insert_eq_of_mem hmem]
  have hescrow := Governance.escrow_add_heldFees hkeys fun other hne ↦ by
    rw [Governance.heldFees, Governance.heldFees, h.isExecuted, if_neg hne, hupdated.collectedFees]
  rwa [Governance.heldFees, Governance.heldFees, h.not_executed_before, h.isExecuted, if_pos rfl,
    if_pos rfl, if_neg Bool.false_ne_true, Nat.add_zero] at hescrow

/-- What the account of the dispute fees holds beside the escrow never becomes less. -/
theorem RoundStep.reserve_le (h : RoundStep cfg s s')
    (hindexed : ∀ disputeId, RoundsIndexed s.governance disputeId) :
    s.ledger cfg.disputeFees + s'.governance.escrow ≤
      s'.ledger cfg.disputeFees + s.governance.escrow := by
  cases h with
  | quiet hgovernance hnow hbalance hquiet =>
    rw [hgovernance]
    exact Nat.add_le_add_right hbalance _
  | voted h => rw [h.voteUpdated.escrow_eq rfl, congrArg State.ledger h.state_eq]
  | sent hpending h => rw [h.voteUpdated.escrow_eq rfl, congrArg State.ledger h.state_eq]
  | opened h =>
    rw [h.escrow_eq hindexed, transfer_dest_eq h.transferred h.initiator_ne]
    omega
  | tallied h => rw [h.voteUpdated.escrow_eq rfl, congrArg State.ledger h.state_eq]
  | executed h =>
    have hescrow := h.escrow_add
    have hpaid := payRounds_ledger h.vote_eq cfg.disputeFees _ h.paid
    rw [if_pos rfl] at hpaid
    rw [Governance.collectedFees] at hescrow
    omega

/-- The account of the dispute fees holds the existential deposit beside the escrow. -/
def Reserved (cfg : Config AccountId) (s : State AccountId) : Prop :=
  s.governance.escrow + cfg.minimumBalance ≤ s.ledger cfg.disputeFees

instance (s : State AccountId) : Decidable (Reserved cfg s) := inferInstanceAs (Decidable (_ ≤ _))

theorem Reserved.of_reaches (hreaches : Reaches (step cfg) (Admissible cfg) s s')
    (hreachable : Reachable cfg s) (h : Reserved cfg s) : Reserved cfg s' := by
  have hboth : (∀ d, RoundsIndexed s'.governance d) ∧ Reserved cfg s' := by
    refine Reaches.invariant
      (fun mid input (hmid : (∀ d, RoundsIndexed mid.governance d) ∧ Reserved cfg mid) hadmits ↦ ?_)
      hreaches ⟨hreachable.roundsIndexed, h⟩
    refine (step_effect hadmits).roundInvariant
      (fun mid ↦ (∀ d, RoundsIndexed mid.governance d) ∧ Reserved cfg mid) (fun a b hab hmove ↦ ?_) hmid
    refine ⟨fun d ↦ hmove.roundsIndexed (hab.1 d), ?_⟩
    have hreserve := hmove.reserve_le hab.1
    have hbefore := hab.2
    unfold Reserved at hbefore ⊢
    omega
  exact hboth.2

end Reserve

/-! ## Dates -/

/-- Every vote was started and tallied in the past, and the tallied ones have a result. -/
def Dated (s : State AccountId) : Prop :=
  ∀ key vote, s.governance.voteInfo.lookup key = some vote →
    vote.startDate ≤ s.now ∧ vote.tallyDate ≤ s.now ∧ (0 < vote.tallyDate → vote.result.isSome = true)

section Dates

variable {s s' : State AccountId} {d : DisputeId} {r : ℕ} {vote vote' : Vote AccountId}

omit [DecidableEq AccountId] in
theorem VoteUpdated.dated (h : VoteUpdated s s' d r vote vote')
    (hvote : (vote.tallyDate ≤ s.now ∧ (0 < vote.tallyDate → vote.result.isSome = true)) →
      vote'.tallyDate ≤ s.now ∧ (0 < vote'.tallyDate → vote'.result.isSome = true))
    (hinv : Dated s) : Dated s' := by
  intro key other hother
  obtain ⟨i, j⟩ := key
  rw [h.now_eq]
  rw [h.lookup] at hother
  split at hother
  · cases hother
    have hbefore := hinv _ _ h.vote_eq
    rw [h.startDate_eq]
    exact ⟨hbefore.1, hvote hbefore.2⟩
  · exact hinv _ _ hother

theorem RoundStep.dated (h : RoundStep cfg s s') (hinv : Dated s) : Dated s' := by
  cases h with
  | quiet hgovernance hnow hbalance hquiet =>
    intro key vote hvote
    rw [hgovernance] at hvote
    obtain ⟨hstart, htally, hresult⟩ := hinv key vote hvote
    exact ⟨hstart.trans hnow, htally.trans hnow, hresult⟩
  | voted h => exact h.voteUpdated.dated id hinv
  | sent hpending h => exact h.voteUpdated.dated id hinv
  | opened h =>
    intro key vote hvote
    obtain ⟨i, j⟩ := key
    rw [h.now_eq]
    rw [h.lookup] at hvote
    split at hvote
    · cases hvote
      exact ⟨le_rfl, Nat.zero_le _, fun hpositive ↦ absurd hpositive (lt_irrefl 0)⟩
    · exact hinv _ _ hvote
  | tallied h => exact h.voteUpdated.dated (fun _ ↦ ⟨le_rfl, fun _ ↦ rfl⟩) hinv
  | executed h => exact h.voteUpdated.dated id hinv

theorem Reachable.dated (h : Reachable cfg s) : Dated s := by
  refine h.roundInvariant Dated (fun s₀ hgenesis key vote hvote ↦ ?_) fun _ _ hinv hmove ↦
    hmove.dated hinv
  obtain ⟨ledger, blockNumber, now, -, rfl⟩ := hgenesis
  simp [State.genesis] at hvote

end Dates

/-! ## Execution -/

section Execution

variable {s : State AccountId} {disputeId : DisputeId}

/-- Those who may receive fees of a dispute: the disputed reporter and the initiators of its rounds. -/
def Governance.feeRecipients (g : Governance AccountId) (disputeId : DisputeId) : List AccountId :=
  ((g.disputeInfo.lookup disputeId).map Dispute.disputedReporter).toList ++
    (List.range' 1 (g.rounds disputeId)).filterMap fun voteRound ↦
      (g.voteInfo.lookup (disputeId, voteRound)).map Vote.initiator

omit [DecidableEq AccountId] in
theorem VoteUpdated.feeRecipients_eq {s' : State AccountId} {d : DisputeId} {r : ℕ}
    {vote vote' : Vote AccountId} (h : VoteUpdated s s' d r vote vote') (disputeId : DisputeId) :
    s'.governance.feeRecipients disputeId = s.governance.feeRecipients disputeId := by
  rw [Governance.feeRecipients, Governance.feeRecipients, h.disputeInfo_eq, h.rounds]
  congr 1
  refine List.filterMap_congr fun voteRound _ ↦ ?_
  rw [h.lookup]
  split
  · next heq =>
    rw [heq.1, heq.2, h.vote_eq]
    exact congrArg some h.initiator_eq
  · rfl

/-- Fees can be paid: the account of the dispute fees covers them above the existential deposit, and they
fit into the balances of those who may receive them. -/
structure FeesPayable (cfg : Config AccountId) (recipients : List AccountId) (ledger : Ledger AccountId)
    (total : ℕ) : Prop where
  covered : cfg.minimumBalance + total ≤ ledger cfg.disputeFees
  fits : ∀ account ∈ recipients, ledger account + total ≤ cfg.balanceMax

/-- A payable fee leaves the others payable. -/
theorem FeesPayable.transfer (hplain : PlainAsset cfg) {recipients : List AccountId}
    {ledger : Ledger AccountId} {fee rest : ℕ} (h : FeesPayable cfg recipients ledger (rest + fee))
    {dest : AccountId} (hdest : dest ∈ recipients) :
    ∃ ledger', transfer cfg ledger cfg.disputeFees dest fee .protect = .ok ledger' ∧
      FeesPayable cfg recipients ledger' rest := by
  have hcovered := h.covered
  have hpermits : cfg.permits ledger cfg.disputeFees dest fee .protect = true :=
    (hplain.protects ledger cfg.disputeFees dest fee (by omega)).mpr (by omega)
  have hroom := h.fits dest hdest
  refine ⟨_, (transfer_eq_ok cfg).mpr ⟨⟨by omega, Or.inr (by omega), hpermits⟩, rfl⟩, ?_,
    fun account haccount ↦ ?_⟩
  · have hloss := ledger.le_move_add cfg.disputeFees dest cfg.disputeFees fee
    omega
  · have hfits := h.fits account haccount
    simp only [Ledger.move]
    split <;> split <;> omega

theorem payRounds_isOk (hplain : PlainAsset cfg) {g : Governance AccountId} {final : ℕ}
    {finalVote : Vote AccountId} (hfinal : g.voteInfo.lookup (disputeId, final) = some finalVote)
    (result : VoteResult) {disputedReporter : AccountId} {recipients : List AccountId} {n : ℕ}
    (hreporter : disputedReporter ∈ recipients)
    (hdefined : ∀ r, 1 ≤ r → r ≤ n →
      ∃ vote, g.voteInfo.lookup (disputeId, r) = some vote ∧ vote.initiator ∈ recipients)
    {ledger : Ledger AccountId}
    (h : FeesPayable cfg recipients ledger (∑ r ∈ Finset.Icc 1 n, g.roundFee disputeId r)) :
    ∃ ledger', payRounds cfg g disputeId final finalVote result disputedReporter n ledger =
      .ok ledger' := by
  induction n generalizing ledger with
  | zero => exact ⟨ledger, rfl⟩
  | succ n ih =>
    obtain ⟨vote, hvote, hinitiator⟩ := hdefined (n + 1) (Nat.le_add_left 1 n) le_rfl
    have hrecipient : feeRecipient result vote.initiator disputedReporter ∈ recipients := by
      cases result with
      | passed => exact hinitiator
      | invalid => exact hinitiator
      | failed => exact hreporter
    have hread : (if n + 1 = final then .ok finalVote
        else okOr (g.voteInfo.lookup (disputeId, n + 1)) (.module .invalidVote)) =
          (.ok vote : Except DispatchError (Vote AccountId)) := by
      split
      · next heq =>
        rw [heq, hfinal] at hvote
        rw [Option.some.inj hvote]
      · rw [hvote]
        rfl
    have hfee : g.roundFee disputeId (n + 1) = vote.fee := by
      rw [Governance.roundFee, hvote, Option.elim_some]
    rw [Finset.sum_Icc_succ_top (Nat.le_add_left 1 n), hfee] at h
    obtain ⟨mid, hpaid, hrest⟩ := h.transfer hplain hrecipient
    obtain ⟨ledger', hlater⟩ := ih (fun r hpos hle ↦ hdefined r hpos (by omega)) hrest
    refine ⟨ledger', ?_⟩
    simp only [payRounds, bind_eq_ok]
    exact ⟨vote, hread, mid, hpaid, hlater⟩

/-- Nothing stands in the way of paying out the fees of a dispute: the account of the dispute fees keeps
its reserve, and the recipients can take the fees. -/
structure PayoutReady (cfg : Config AccountId) (s : State AccountId) (disputeId : DisputeId) : Prop where
  reserved : Reserved cfg s
  fits : ∀ account ∈ s.governance.feeRecipients disputeId,
    s.ledger account + s.governance.collectedFees disputeId ≤ cfg.balanceMax

omit [DecidableEq AccountId] in
theorem Governance.collectedFees_le_escrow {g : Governance AccountId} (hpos : 0 < g.rounds disputeId)
    (hnot : g.isExecuted disputeId = false) : g.collectedFees disputeId ≤ g.escrow := by
  have hmem : disputeId ∈ g.voteRounds.keys := by
    by_contra hnone
    rw [Governance.rounds, FiniteMap.read_eq_default hnone] at hpos
    exact lt_irrefl 0 hpos
  have hheld : g.heldFees disputeId = g.collectedFees disputeId := by
    rw [Governance.heldFees, hnot, if_neg Bool.false_ne_true]
  rw [← hheld]
  exact Finset.single_le_sum (f := g.heldFees) (fun d _ ↦ Nat.zero_le _) hmem

omit [DecidableEq AccountId] in
/-- A tally of a dispute that is not tallied yet is accepted once the voting period is over. -/
theorem tallyVotes_isOk (hindexed : RoundsIndexed s.governance disputeId) {vote : Vote AccountId}
    (hvote : s.governance.voteInfo.lookup (disputeId, s.governance.rounds disputeId) = some vote)
    (hnot : vote.executed = false) (hopen : vote.tallyDate = 0)
    (hperiod : vote.startDate + min (s.governance.rounds disputeId) 6 * days ≤ s.now)
    (result : VoteResult) :
    ∃ s' dispute, tallyVotes s disputeId result = .ok s' ∧
      VoteTallied s disputeId result vote dispute s' := by
  have hpos : 1 ≤ s.governance.rounds disputeId := ((hindexed.defined _).mp ⟨vote, hvote⟩).1
  obtain ⟨dispute, hdispute⟩ := hindexed.dispute hpos
  have hround := hindexed.round_eq _ vote hvote
  have hduration : vote.voteRound * days ≤ s.now - vote.startDate ∨ 6 * days ≤ s.now - vote.startDate := by
    rcases le_total (s.governance.rounds disputeId) 6 with hle | hle
    · rw [min_eq_left hle] at hperiod
      rw [hround]
      omega
    · rw [min_eq_right hle] at hperiod
      omega
  have htallied : VoteTallied s disputeId result vote dispute _ :=
    ⟨hvote, hnot, hopen, by omega, hduration, hdispute, rfl⟩
  exact ⟨_, dispute, htallied.tallyVotes_eq, htallied⟩

/-- A day after its last tally, a dispute can be executed. -/
theorem executeVote_isOk (hplain : PlainAsset cfg) (hready : PayoutReady cfg s disputeId)
    (hindexed : RoundsIndexed s.governance disputeId) (hdated : Dated s)
    (hvalid : disputeId ≠ 0 ∧ disputeId ≠ cfg.keccak256 []) {vote : Vote AccountId}
    (hvote : s.governance.voteInfo.lookup (disputeId, s.governance.rounds disputeId) = some vote)
    (hnot : vote.executed = false) (htallied : 0 < vote.tallyDate)
    (hday : vote.tallyDate + days ≤ s.now) :
    ∃ s', executeVote cfg s disputeId = .ok s' ∧ s'.governance.isExecuted disputeId = true := by
  have hpos : 1 ≤ s.governance.rounds disputeId := ((hindexed.defined _).mp ⟨vote, hvote⟩).1
  obtain ⟨dispute, hdispute⟩ := hindexed.dispute hpos
  obtain ⟨-, hpast, hsome⟩ := hdated _ _ hvote
  obtain ⟨result, hresult⟩ := Option.isSome_iff_exists.mp (hsome htallied)
  have hopen : s.governance.isExecuted disputeId = false := by
    rw [Governance.isExecuted, hvote, Option.elim_some, hnot]
  have hcollected := Governance.collectedFees_le_escrow hpos hopen
  have hpayable : FeesPayable cfg (s.governance.feeRecipients disputeId) s.ledger
      (s.governance.collectedFees disputeId) := by
    have hreserved := hready.reserved
    unfold Reserved at hreserved
    exact ⟨by omega, hready.fits⟩
  have hreporter : dispute.disputedReporter ∈ s.governance.feeRecipients disputeId := by
    rw [Governance.feeRecipients, hdispute]
    exact List.mem_cons_self
  have hdefined (r : ℕ) (hr : 1 ≤ r) (hle : r ≤ s.governance.rounds disputeId) :
      ∃ vote, s.governance.voteInfo.lookup (disputeId, r) = some vote ∧
        vote.initiator ∈ s.governance.feeRecipients disputeId := by
    obtain ⟨found, hfound⟩ := (hindexed.defined r).mpr ⟨hr, hle⟩
    refine ⟨found, hfound, List.mem_append_right _ (List.mem_filterMap.mpr ⟨r, ?_, ?_⟩)⟩
    · rw [List.mem_range'_1]
      omega
    · rw [hfound]
      rfl
  obtain ⟨ledger, hpaid⟩ := payRounds_isOk hplain hvote result hreporter hdefined hpayable
  have hok : ∃ s', executeVote cfg s disputeId = .ok s' := by
    simp only [executeVote, bind_eq_ok, okOr_eq_ok, guard_eq_ok, exists_const, Checked.sub_eq_some,
      one_mul]
    exact ⟨_, ⟨hvalid.1, hvalid.2, by rw [hdispute]; rfl⟩, hpos, vote, hvote, hnot, htallied, result,
      hresult, _, ⟨hpast, rfl⟩, by omega, dispute, hdispute, ledger, hpaid, rfl⟩
  obtain ⟨s', hexecute⟩ := hok
  obtain ⟨_, _, _, hexecuted⟩ := executeVote_executed hexecute
  exact ⟨s', hexecute, by rw [hexecuted.isExecuted, if_pos rfl]⟩

end Execution

/-! ## Conclusion -/

/-- The governance contract reports the tally of a dispute. -/
def Input.tally (send : Sender) (disputeId : DisputeId) (result : VoteResult) : Input AccountId :=
  .extrinsic send .governance (.reportVoteTallied disputeId result)

/-- The governance contract reports that a dispute is to be executed. -/
def Input.execute (send : Sender) (disputeId : DisputeId) : Input AccountId :=
  .extrinsic send .governance (.reportVoteExecuted disputeId)

section Conclusion

variable {s₀ s s' : State AccountId} {disputeId : DisputeId} {vote : Vote AccountId}

theorem step_extrinsic {send : Sender} {origin : Origin AccountId} {call : Call AccountId}
    (h : dispatch cfg send s origin call = .ok s') :
    step cfg (.extrinsic send origin call) s = s' := by
  rw [step, applyCall, h]

theorem isExecuted_step_execute (hplain : PlainAsset cfg) (hready : PayoutReady cfg s disputeId)
    (hreachable : Reachable cfg s) (hvalid : disputeId ≠ 0 ∧ disputeId ≠ cfg.keccak256 [])
    (hvote : s.governance.voteInfo.lookup (disputeId, s.governance.rounds disputeId) = some vote)
    (hnot : vote.executed = false) (htallied : 0 < vote.tallyDate)
    (hday : vote.tallyDate + days ≤ s.now) (send : Sender) :
    (step cfg (.execute send disputeId) s).governance.isExecuted disputeId = true := by
  obtain ⟨s', hexecute, hexecuted⟩ := executeVote_isOk hplain hready (hreachable.roundsIndexed disputeId)
    hreachable.dated hvalid hvote hnot htallied hday
  have hdispatch : dispatch cfg send s .governance (.reportVoteExecuted disputeId) = .ok s' :=
    bind_eq_ok.mpr ⟨(), guard_eq_ok.mpr rfl, hexecute⟩
  rw [Input.execute, step_extrinsic hdispatch]
  exact hexecuted

theorem Reachable.newBlock (h : Reachable cfg s) {blockNumber now : ℕ} (hnow : s.now ≤ now) :
    Reachable cfg { s with blockNumber := blockNumber, now := now } :=
  have hadmits : Admissible cfg s (.newBlock blockNumber now) := hnow
  ReachableBy.step cfg h hadmits

/-- From every state that a run reaches after the dispute fees account was given its existential deposit,
the governance contract concludes each open dispute at its first attempt: a tally is accepted at any time
after the voting period, with any result, and the execution at any time from a day after the tally. -/
theorem concluded_of_reachable (hplain : PlainAsset cfg) (hregistered : Reachable cfg s₀)
    (hreserved : Reserved cfg s₀) (hreaches : Reaches (step cfg) (Admissible cfg) s₀ s)
    (hfits : ∀ account ∈ s.governance.feeRecipients disputeId,
      s.ledger account + s.governance.collectedFees disputeId ≤ cfg.balanceMax)
    (hvalid : disputeId ≠ 0 ∧ disputeId ≠ cfg.keccak256 [])
    (hvote : s.governance.voteInfo.lookup (disputeId, s.governance.rounds disputeId) = some vote)
    (hnot : vote.executed = false) (send : Sender) :
    (∀ result blockNumber now blockNumber' now', vote.tallyDate = 0 → s.now ≤ now →
      vote.startDate + min (s.governance.rounds disputeId) 6 * days ≤ now → now + days ≤ now' →
      (run (step cfg) [.newBlock blockNumber now, .tally send disputeId result,
        .newBlock blockNumber' now', .execute send disputeId] s).governance.isExecuted disputeId =
          true) ∧
      ∀ blockNumber now, 0 < vote.tallyDate → s.now ≤ now → vote.tallyDate + days ≤ now →
        (run (step cfg) [.newBlock blockNumber now, .execute send disputeId]
          s).governance.isExecuted disputeId = true := by
  obtain ⟨genesis, hgenesis, hbefore⟩ := hregistered
  have hreachable : Reachable cfg s := ⟨genesis, hgenesis, hbefore.trans hreaches⟩
  have hready : PayoutReady cfg s disputeId :=
    ⟨hreserved.of_reaches hreaches ⟨genesis, hgenesis, hbefore⟩, hfits⟩
  refine ⟨fun result b now b' now' hopen hlater hperiod hday ↦ ?_, fun b now htallied hlater hday ↦ ?_⟩
  · let s₁ : State AccountId := { s with blockNumber := b, now := now }
    have hreachable₁ : Reachable cfg s₁ := hreachable.newBlock hlater
    obtain ⟨s₂, dispute, htally, htallied⟩ := tallyVotes_isOk (s := s₁)
      (hreachable₁.roundsIndexed disputeId) hvote hnot hopen hperiod result
    have hdispatch : dispatch cfg send s₁ .governance (.reportVoteTallied disputeId result) = .ok s₂ :=
      bind_eq_ok.mpr ⟨(), guard_eq_ok.mpr rfl, htally⟩
    have hsignable : Admissible cfg s₁ (.tally send disputeId result) := fun _ _ ↦ nofun
    have hstep : step cfg (.tally send disputeId result) s₁ = s₂ := step_extrinsic hdispatch
    have hreachable₂ : Reachable cfg s₂ := hstep ▸ ReachableBy.step cfg hreachable₁ hsignable
    have hupdated := htallied.voteUpdated
    have hescrow : s₂.governance.escrow = s.governance.escrow := hupdated.escrow_eq rfl
    have hledger : s₂.ledger = s.ledger := (congrArg State.ledger htallied.state_eq :)
    have hnow : s₂.now = now := hupdated.now_eq
    have hready₂ : PayoutReady cfg { s₂ with blockNumber := b', now := now' } disputeId := by
      refine ⟨?_, fun account haccount ↦ ?_⟩
      · have hreserve := hready.reserved
        unfold Reserved at hreserve ⊢
        rwa [hescrow, hledger]
      · rw [hledger, hupdated.collectedFees]
        exact hfits account (hupdated.feeRecipients_eq disputeId ▸ haccount)
    have hrounds : s₂.governance.rounds disputeId = s.governance.rounds disputeId := hupdated.rounds _
    have hvote₂ : s₂.governance.voteInfo.lookup (disputeId, s₂.governance.rounds disputeId) =
        some { vote with result := some result, tallyDate := now } := by
      rw [hupdated.lookup, if_pos ⟨rfl, hrounds⟩]
    have hpositive : 0 < now := by
      have hpos : 1 ≤ s.governance.rounds disputeId :=
        (((hreachable.roundsIndexed disputeId).defined _).mp ⟨vote, hvote⟩).1
      have hperiods : 1 * days ≤ min (s.governance.rounds disputeId) 6 * days :=
        Nat.mul_le_mul_right days (le_min hpos (by decide))
      have hdays : 0 < days := by decide
      omega
    have hexecuted := isExecuted_step_execute (s := { s₂ with blockNumber := b', now := now' }) hplain
      hready₂ (hreachable₂.newBlock (by rw [hnow]; omega)) hvalid hvote₂ hnot hpositive hday send
    change (step cfg (.execute send disputeId) (step cfg (.newBlock b' now')
      (step cfg (.tally send disputeId result) s₁))).governance.isExecuted disputeId = true
    rw [hstep]
    exact hexecuted
  · exact isExecuted_step_execute (s := { s with blockNumber := b, now := now }) hplain
      ⟨hready.reserved, hfits⟩ (hreachable.newBlock hlater) hvalid hvote hnot htallied hday send

/-- The dispute of the mock runtime is concluded by a tally after one day and an execution after two. -/
theorem concluded_of_reachable_reports :
    (run (step Mock.config) [Mock.block (days + 30), .tally Mock.send Mock.disputeId .failed,
        Mock.block (2 * days + 30), .execute Mock.send Mock.disputeId]
      (run (step Mock.config) Mock.reports Mock.genesis)).governance.isExecuted Mock.disputeId = true := by
  have hround : ∃ vote ∈ (run (step Mock.config) Mock.reports Mock.genesis).governance.voteInfo.lookup
      (Mock.disputeId, 1), vote.executed = false ∧ vote.tallyDate = 0 ∧
        vote.startDate = Mock.start + 30 := by decide +kernel
  obtain ⟨vote, hvote, hnot, hopen, hstart⟩ := hround
  have hrounds : (run (step Mock.config) Mock.reports Mock.genesis).governance.rounds Mock.disputeId = 1 := by
    decide +kernel
  have hconcluded := concluded_of_reachable Mock.plainAsset ⟨_, Mock.isGenesis_genesis, Reaches.refl _⟩
    (by decide +kernel) (reaches_run Mock.reports _ (by decide +kernel)) (by decide +kernel)
    (by decide +kernel) (hrounds ▸ hvote) hnot Mock.send
  exact hconcluded.1 .failed 2 (Mock.start + (days + 30)) 2 (Mock.start + (2 * days + 30)) hopen
    (by decide +kernel) (by rw [hstart, hrounds]; decide) (by decide)

end Conclusion

end TellorPallet
