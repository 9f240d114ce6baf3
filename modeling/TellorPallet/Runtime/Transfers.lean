import TellorPallet.AutoPay.FeedClaims
import TellorPallet.Foundation.Journal
import TellorPallet.Runtime.Effects
import TellorPallet.Runtime.Mock

/-!
# The transfers of a run

Which funds a call moves, from whom and to whom, and that no input moves any other. A run therefore comes
with a journal: nothing is minted or lost, every account of the pallet pays for its own purpose only, and
a user never loses more than the amounts of the calls the user signed.
-/

namespace TellorPallet

open Ledger Outcome Transition

variable {AccountId : Type} [DecidableEq AccountId] (cfg : Config AccountId)

/-- The fee for the next round of the dispute of a report. -/
def nextRoundFee (s : State AccountId) (queryId : QueryId) (timestamp : ℕ) : ℕ :=
  let disputeId := disputeIdOf cfg queryId timestamp
  let doublings := if s.governance.rounds disputeId = 0 then
      (s.governance.openDisputesOnId.lookup queryId).getD 0
    else s.governance.rounds disputeId
  min (Saturating.mul cfg.balanceMax s.prices.disputeFee (Saturating.pow cfg.balanceMax 2 doublings))
    (Saturating.mul cfg.balanceMax s.prices.disputeFee 10)

/-- A claimed reward, less the fee for the stakers. -/
def rewardEntries (reporter : AccountId) (reward : ℕ) : List (Entry AccountId) :=
  [⟨cfg.tips, reporter, reward - feeOn cfg reward⟩, ⟨cfg.tips, cfg.stakingRewards, feeOn cfg reward⟩]

/-- The fees of the rounds of a dispute, that of the last round first. -/
def feeEntries (g : Governance AccountId) (disputeId : DisputeId) (result : VoteResult)
    (disputedReporter : AccountId) (rounds : ℕ) : List (Entry AccountId) :=
  (List.range' 1 rounds).reverse.filterMap fun voteRound ↦
    (g.voteInfo.lookup (disputeId, voteRound)).map fun vote ↦
      ⟨cfg.disputeFees, feeRecipient result vote.initiator disputedReporter, vote.fee⟩

/-- The transfers of a successful call, in their order. -/
def Call.Transfers (s : State AccountId) (origin : Origin AccountId) (entries : List (Entry AccountId)) :
    Call AccountId → Prop
  | .register _ => entries.Sublist
      ([cfg.disputeFees, cfg.stakingRewards, cfg.tips].map (⟨cfg.account, ·, cfg.minimumBalance⟩))
  | .claimOnetimeTip .. => ∃ reporter reward, origin = .signed reporter ∧
      entries = rewardEntries cfg reporter reward
  | .claimTip .. => ∃ reporter reward, origin = .signed reporter ∧
      entries = rewardEntries cfg reporter reward
  | .fundFeed _ _ amount => ∃ feedFunder, origin = .signed feedFunder ∧
      entries = [⟨feedFunder, cfg.tips, amount⟩]
  | .setupDataFeed _ _ _ _ _ _ _ _ amount => ∃ feedCreator, origin = .signed feedCreator ∧
      entries = [⟨feedCreator, cfg.tips, amount⟩]
  | .tip _ amount _ => ∃ tipper, origin = .signed tipper ∧ entries = [⟨tipper, cfg.tips, amount⟩]
  | .addStakingRewards amount => ∃ source, origin = .signed source ∧
      entries = [⟨source, cfg.stakingRewards, amount⟩]
  | .beginDispute queryId timestamp _ => ∃ initiator, origin = .signed initiator ∧
      entries = [⟨initiator, cfg.disputeFees, nextRoundFee cfg s queryId timestamp⟩]
  | .reportStakeDeposited reporter _ _ | .reportStakingWithdrawRequest reporter _ _
  | .reportSlash reporter _ =>
      ∀ entry ∈ entries, entry.source = cfg.stakingRewards ∧ entry.dest = reporter
  | .reportVoteExecuted disputeId => ∃ dispute vote result,
      s.governance.disputeInfo.lookup disputeId = some dispute ∧
        s.governance.voteInfo.lookup (disputeId, s.governance.rounds disputeId) = some vote ∧
        vote.result = some result ∧ vote.executed = false ∧
        entries = feeEntries cfg s.governance disputeId result dispute.disputedReporter
          (s.governance.rounds disputeId)
  | _ => entries = []

/-- The transfers of an input. -/
def Input.Transfers (s : State AccountId) (entries : List (Entry AccountId)) :
    Input AccountId → Prop
  | .extrinsic send origin call =>
    if (dispatch cfg send s origin call).isOk then call.Transfers cfg s origin entries else entries = []
  | _ => entries = []

/-- The journal of a run: the transfers of its inputs, each in the state it meets. -/
def Journal : List (Input AccountId) → State AccountId → List (Entry AccountId) → Prop
  | [], _, entries => entries = []
  | input :: rest, s, entries => ∃ first later, entries = first ++ later ∧
      input.Transfers cfg s first ∧ Journal rest (step cfg input s) later

/-- The funds of its signer that a call may take. -/
def Call.spends (s : State AccountId) : Call AccountId → ℕ
  | .fundFeed _ _ amount => amount
  | .setupDataFeed _ _ _ _ _ _ _ _ amount => amount
  | .tip _ amount _ => amount
  | .addStakingRewards amount => amount
  | .beginDispute queryId timestamp _ => nextRoundFee cfg s queryId timestamp
  | _ => 0

/-- The funds of an account that an input may take. -/
def Input.spends (s : State AccountId) (account : AccountId) : Input AccountId → ℕ
  | .extrinsic _ origin call => if origin = .signed account then call.spends cfg s else 0
  | _ => 0

/-- The funds of an account that the inputs of a run may take. -/
def spending (account : AccountId) : List (Input AccountId) → State AccountId → ℕ
  | [], _ => 0
  | input :: rest, s => input.spends cfg s account + spending account rest (step cfg input s)

/-! ## Transfers of calls -/

section Calls

variable {cfg} {s s' : State AccountId} {send : Sender}

theorem posted_of_transfer {ledger ledger' : Ledger AccountId} {source dest : AccountId} {amount : ℕ}
    {preservation : Preservation}
    (h : transfer cfg ledger source dest amount preservation = .ok ledger') :
    Posted ledger [⟨source, dest, amount⟩] ledger' := by
  obtain ⟨⟨hcovered, -⟩, rfl⟩ := (transfer_eq_ok cfg).mp h
  exact .single hcovered

theorem posted_zero (ledger : Ledger AccountId) (source dest : AccountId) :
    Posted ledger [⟨source, dest, 0⟩] ledger := by
  have hposted : Posted ledger [⟨source, dest, 0⟩] (ledger.move source dest 0) := .single (Nat.zero_le _)
  rwa [move_zero] at hposted

theorem posted_of_doAddStakingRewards {source : AccountId} {amount : ℕ}
    (h : doAddStakingRewards cfg s source amount = .ok s') :
    Posted s.ledger [⟨source, cfg.stakingRewards, amount⟩] s'.ledger := by
  obtain ⟨st, rate, hledger, -, -⟩ := doAddStakingRewards_eq_ok h
  split at hledger
  · exact posted_of_transfer hledger
  · next hzero =>
    rw [Nat.eq_zero_of_not_pos hzero, ← Except.ok.inj hledger]
    exact posted_zero _ _ _

theorem posted_of_payReward {reporter : AccountId} {reward : ℕ}
    (h : payReward cfg s reporter reward = .ok s') :
    Posted s.ledger (rewardEntries cfg reporter reward) s'.ledger := by
  obtain ⟨fee, ledger, hfee, -, htransfer, hadd⟩ := payReward_eq_ok h
  have hshare : fee = feeOn cfg reward := hfee
  rw [hshare] at htransfer hadd
  exact (posted_of_transfer htransfer).append (posted_of_doAddStakingRewards hadd)

theorem posted_of_fundAccounts {accounts : List AccountId} {ledger ledger' : Ledger AccountId}
    (h : accounts.foldlM (fundAccount cfg) ledger = .ok ledger') :
    ∃ entries, entries.Sublist (accounts.map (⟨cfg.account, ·, cfg.minimumBalance⟩)) ∧
      Posted ledger entries ledger' := by
  induction accounts generalizing ledger with
  | nil =>
    rw [List.foldlM_nil, pure_eq_ok] at h
    exact ⟨[], List.Sublist.refl _, .of_eq h.symm⟩
  | cons account rest ih =>
    rw [List.foldlM_cons, bind_eq_ok] at h
    obtain ⟨mid, hfund, hrest⟩ := h
    obtain ⟨entries, hsublist, hposted⟩ := ih hrest
    unfold fundAccount at hfund
    split at hfund
    · exact ⟨_, hsublist.cons_cons _, (posted_of_transfer hfund).append hposted⟩
    · cases hfund
      exact ⟨entries, hsublist.cons _, hposted⟩

theorem posted_of_beginDispute {initiator : AccountId} {queryId : QueryId} {timestamp : ℕ}
    {beneficiary : Option Address}
    (h : beginDispute cfg send s initiator queryId timestamp beneficiary = .ok s') :
    Posted s.ledger [⟨initiator, cfg.disputeFees, nextRoundFee cfg s queryId timestamp⟩] s'.ledger := by
  simp only [beginDispute, bind_eq_ok, okOr_eq_ok, guard_eq_ok, exists_const, State.sendXcm_eq_ok] at h
  obtain ⟨beneficiary, -, -, voteRound, hround, ⟨dispute, fee, s₁⟩, hprepared, s₂, hopened, info, -,
    message, -, -, h⟩ := h
  obtain ⟨hnext, -⟩ := nextVoteRound_eq_ok hround
  have hprepared' : s₁.ledger = s.ledger ∧ s₁.prices = s.prices ∧
      fee = Saturating.mul cfg.balanceMax s.prices.disputeFee (Saturating.pow cfg.balanceMax 2
        (if s.governance.rounds (disputeIdOf cfg queryId timestamp) = 0 then
          (s.governance.openDisputesOnId.lookup queryId).getD 0
        else s.governance.rounds (disputeIdOf cfg queryId timestamp))) := by
    split at hprepared
    · next hfirst =>
      rw [if_pos (by omega)]
      simp only [openFirstRound, bind_eq_ok, okOr_eq_ok, guard_eq_ok, Checked.sub_eq_some,
        Checked.add_eq_some, exists_const] at hprepared
      obtain ⟨_, -, -, _, ⟨-, rfl⟩, value, -, reporter, -, ⟨iterations, oracle⟩, -, hprepared⟩ := hprepared
      cases hprepared
      exact ⟨rfl, rfl, rfl⟩
    · next hlater =>
      rw [if_neg (by omega)]
      simp only [openLaterRound, bind_eq_ok, okOr_eq_ok, guard_eq_ok, Checked.sub_eq_some,
        exists_const] at hprepared
      obtain ⟨_, -, prevVote, -, _, -, -, -, _, -, hprepared⟩ := hprepared
      cases hprepared
      rw [hnext]
      exact ⟨rfl, rfl, rfl⟩
  obtain ⟨hledger, hprices, hfee⟩ := hprepared'
  have htransfer := (openRound_eq_ok hopened).transferred
  rw [hledger, hprices, hfee] at htransfer
  rw [← h]
  exact posted_of_transfer htransfer

theorem posted_of_payRounds {g : Governance AccountId} {disputeId : DisputeId} {finalVoteRound : ℕ}
    {finalVote : Vote AccountId} {result : VoteResult} {disputedReporter : AccountId}
    (hfinal : g.voteInfo.lookup (disputeId, finalVoteRound) = some finalVote) {voteRound : ℕ}
    {ledger ledger' : Ledger AccountId}
    (h : payRounds cfg g disputeId finalVoteRound finalVote result disputedReporter voteRound ledger =
      .ok ledger') :
    Posted ledger (feeEntries cfg g disputeId result disputedReporter voteRound) ledger' := by
  induction voteRound generalizing ledger with
  | zero => exact .of_eq (Except.ok.inj h).symm
  | succ voteRound ih =>
    obtain ⟨vote, hvote, h⟩ := bind_eq_ok.mp h
    obtain ⟨paid, hpaid, h⟩ := bind_eq_ok.mp h
    have hlookup : g.voteInfo.lookup (disputeId, 1 + 1 * voteRound) = some vote := by
      rw [Nat.one_mul, Nat.add_comm]
      split at hvote
      · next heq => rw [heq, hfinal, Except.ok.inj hvote]
      · exact okOr_eq_ok.mp hvote
    have hentries : feeEntries cfg g disputeId result disputedReporter (voteRound + 1) =
        ⟨cfg.disputeFees, feeRecipient result vote.initiator disputedReporter, vote.fee⟩ ::
          feeEntries cfg g disputeId result disputedReporter voteRound := by
      rw [feeEntries, List.range'_concat, List.reverse_append, List.reverse_singleton,
        List.singleton_append, List.filterMap_cons, hlookup]
      rfl
    rw [hentries]
    exact (posted_of_transfer hpaid).append (ih h)

/-- The moves of a report pay its reporter out of the staking rewards. -/
theorem posted_of_reported {reporter : AccountId} {settled : Option ℕ} {info info' : StakeInfo}
    {event : Event AccountId} {s₁ : State AccountId}
    (h : Reported cfg s reporter settled info s₁ info' event s') :
    ∃ entries, (∀ entry ∈ entries, entry.source = cfg.stakingRewards ∧ entry.dest = reporter) ∧
      Posted s.ledger entries s'.ledger := by
  have hmoves := h.invariant (fun after ↦ ∃ entries : List (Entry AccountId),
      (∀ entry ∈ entries, entry.source = cfg.stakingRewards ∧ entry.dest = reporter) ∧
        Posted s.ledger entries after.1.ledger) ?_ ⟨[], by simp, .nil _⟩
  · rw [h.state_eq]
    exact hmoves
  · rintro before after ⟨entries, hentries, hposted⟩ hmove
    cases hmove with
    | settle hsettled hupdate =>
      obtain ⟨u, st, st₁, stake', -, -, hpaid, -, -⟩ := updateStakeAndPayRewards_eq_ok hupdate
      rcases hpaid with ⟨-, stake, pending, hpaid⟩ | ⟨-, hledger, -⟩
      · refine ⟨_, fun entry hmem ↦ ?_, hposted.append (posted_of_transfer hpaid.transferred)⟩
        rcases List.mem_append.mp hmem with hearlier | hlast
        · exact hentries entry hearlier
        · rw [List.mem_singleton.mp hlast]
          exact ⟨rfl, rfl⟩
      · exact ⟨entries, hentries, hledger ▸ hposted⟩
    | release hlocked htotal => exact ⟨entries, hentries, hposted⟩
    | lock amount => exact ⟨entries, hentries, hposted⟩
    | note startDate startVoteCount startVoteTally => exact ⟨entries, hentries, hposted⟩

theorem ledger_voteOnMultipleDisputes {voter : AccountId} {votes : List (DisputeId × Option Bool)}
    (h : voteOnMultipleDisputes cfg s voter votes = .ok s') : s'.ledger = s.ledger := by
  refine foldlM_invariant (fun mid ↦ mid.ledger = s.ledger) ?_ votes s s' rfl h
  intro mid vote mid' hmid hvote
  obtain ⟨_, hcast⟩ := doVote_cast hvote
  rw [hcast.state_eq]
  exact hmid

omit [DecidableEq AccountId] in
theorem ledger_eq_of_steps
    (h : Relation.ReflTransGen (fun before after : State AccountId ↦ after.ledger = before.ledger) s s') :
    s'.ledger = s.ledger := by
  induction h with
  | refl => rfl
  | tail _ hlast ih => exact hlast.trans ih

omit [DecidableEq AccountId] in
theorem ledger_doSendVotes (s : State AccountId) (timestamp max : ℕ) :
    (doSendVotes cfg send s timestamp max).ledger = s.ledger :=
  ledger_eq_of_steps (doSendVotes_steps send (fun _ hsent ↦ by rw [hsent.state_eq]) s timestamp max)

omit [DecidableEq AccountId] in
theorem ledger_updatePrices (s : State AccountId) : (updatePrices cfg s).ledger = s.ledger := by
  unfold updatePrices
  split
  · split
    · next updated hupdated => exact (congrArg State.ledger (updateStakeAmount_frame hupdated).1 :)
    · rfl
  · rfl

/-- A successful call makes its transfers and no others. -/
theorem posted_of_dispatch {origin : Origin AccountId} {call : Call AccountId}
    (h : dispatch cfg send s origin call = .ok s') :
    ∃ entries, call.Transfers cfg s origin entries ∧ Posted s.ledger entries s'.ledger := by
  cases call with
  | register gasLimit =>
    obtain ⟨_, -, h⟩ := bind_eq_ok.mp h
    simp only [register, bind_eq_ok] at h
    obtain ⟨ledger, hfunded, location, -, interior, -, message, -, hsent⟩ := h
    obtain ⟨entries, hsublist, hposted⟩ := posted_of_fundAccounts hfunded
    obtain ⟨-, hstate⟩ := State.sendXcm_eq_ok.mp hsent
    rw [← hstate]
    exact ⟨entries, hsublist, hposted⟩
  | claimOnetimeTip queryId timestamps =>
    obtain ⟨reporter, horigin, h⟩ := bind_eq_ok.mp h
    obtain ⟨reward, a, s₁, hclaimed⟩ := claimOnetimeTip_claimed h
    refine ⟨_, ⟨reporter, reward, ensureSigned_eq_ok.mp horigin, rfl⟩, ?_⟩
    have hledger := congrArg State.ledger hclaimed.state_eq
    rw [hledger]
    exact (posted_of_payReward hclaimed.paid :)
  | claimTip feedId queryId timestamps =>
    obtain ⟨reporter, horigin, h⟩ := bind_eq_ok.mp h
    obtain ⟨feed, reward, a, s₁, hclaimed⟩ := claimTip_claimed h
    refine ⟨_, ⟨reporter, reward, ensureSigned_eq_ok.mp horigin, rfl⟩, ?_⟩
    have hledger := congrArg State.ledger hclaimed.state_eq
    rw [hledger]
    exact (posted_of_payReward hclaimed.paid :)
  | fundFeed feedId queryId amount =>
    obtain ⟨feedFunder, horigin, h⟩ := bind_eq_ok.mp h
    obtain ⟨_, hfunded⟩ := doFundFeed_funded h
    exact ⟨_, ⟨feedFunder, ensureSigned_eq_ok.mp horigin, rfl⟩,
      posted_of_transfer hfunded.transferred⟩
  | setupDataFeed queryId reward startTime interval window priceThreshold rewardIncreasePerSecond
      queryData amount =>
    obtain ⟨feedCreator, horigin, h⟩ := bind_eq_ok.mp h
    obtain ⟨s₁, -, hsetup, hrest⟩ := setupDataFeed_eq_ok h
    refine ⟨_, ⟨feedCreator, ensureSigned_eq_ok.mp horigin, rfl⟩, ?_⟩
    have hledger : s₁.ledger = s.ledger := by rw [hsetup.frame]
    rw [← hledger]
    rcases hrest with ⟨rfl, rfl⟩ | hfund
    · exact posted_zero _ _ _
    · obtain ⟨_, hfunded⟩ := doFundFeed_funded hfund
      exact posted_of_transfer hfunded.transferred
  | tip queryId amount queryData =>
    obtain ⟨tipper, horigin, h⟩ := bind_eq_ok.mp h
    obtain ⟨_, htipped⟩ := tip_tipped h
    exact ⟨_, ⟨tipper, ensureSigned_eq_ok.mp horigin, rfl⟩, posted_of_transfer htipped.transferred⟩
  | addStakingRewards amount =>
    obtain ⟨source, horigin, h⟩ := bind_eq_ok.mp h
    obtain ⟨_, hadded, hevents, -⟩ := addStakingRewards_eq_ok h
    refine ⟨_, ⟨source, ensureSigned_eq_ok.mp horigin, rfl⟩, ?_⟩
    rw [hevents]
    exact (posted_of_doAddStakingRewards hadded :)
  | submitValue queryId value nonce queryData =>
    obtain ⟨reporter, -, h⟩ := bind_eq_ok.mp h
    obtain ⟨_, hsubmission⟩ := submitValue_submission h
    exact ⟨[], rfl, .of_eq (by rw [hsubmission.state_eq])⟩
  | updateStakeAmount =>
    obtain ⟨_, -, h⟩ := bind_eq_ok.mp h
    exact ⟨[], rfl, .of_eq (by rw [(updateStakeAmount_frame h).1])⟩
  | beginDispute queryId timestamp beneficiary =>
    obtain ⟨initiator, horigin, h⟩ := bind_eq_ok.mp h
    exact ⟨_, ⟨initiator, ensureSigned_eq_ok.mp horigin, rfl⟩, posted_of_beginDispute h⟩
  | vote disputeId supports =>
    obtain ⟨voter, -, h⟩ := bind_eq_ok.mp h
    obtain ⟨_, hcast⟩ := doVote_cast h
    exact ⟨[], rfl, .of_eq (by rw [hcast.state_eq])⟩
  | voteOnMultipleDisputes votes =>
    obtain ⟨voter, -, h⟩ := bind_eq_ok.mp h
    exact ⟨[], rfl, .of_eq (ledger_voteOnMultipleDisputes h)⟩
  | sendVotes maxVotes =>
    obtain ⟨_, -, h⟩ := bind_eq_ok.mp h
    cases h
    exact ⟨[], rfl, .of_eq (ledger_doSendVotes s s.now maxVotes)⟩
  | reportStakeDeposited reporter amount address =>
    obtain ⟨_, -, h⟩ := bind_eq_ok.mp h
    obtain ⟨_, _, _, hreported⟩ := reportStakeDeposited_reported h
    exact posted_of_reported hreported
  | reportStakingWithdrawRequest reporter amount address =>
    obtain ⟨_, -, h⟩ := bind_eq_ok.mp h
    obtain ⟨_, _, _, hreported⟩ := reportStakingWithdrawRequest_reported h
    exact posted_of_reported hreported
  | reportStakeWithdrawn reporter amount =>
    obtain ⟨_, -, h⟩ := bind_eq_ok.mp h
    obtain ⟨_, hwithdrawn⟩ := reportStakeWithdrawn_withdrawn h
    exact ⟨[], rfl, .of_eq (by rw [hwithdrawn.state_eq]; rfl)⟩
  | reportSlash reporter amount =>
    obtain ⟨_, -, h⟩ := bind_eq_ok.mp h
    obtain ⟨_, _, _, hreported⟩ := reportSlash_reported h
    exact posted_of_reported hreported
  | reportVoteTallied disputeId result =>
    obtain ⟨_, -, h⟩ := bind_eq_ok.mp h
    obtain ⟨_, _, htallied⟩ := tallyVotes_tallied h
    exact ⟨[], rfl, .of_eq (by rw [htallied.state_eq])⟩
  | reportVoteExecuted disputeId =>
    obtain ⟨_, -, h⟩ := bind_eq_ok.mp h
    obtain ⟨vote, result, dispute, hexecuted⟩ := executeVote_executed h
    exact ⟨_, ⟨dispute, vote, result, hexecuted.dispute_eq, hexecuted.vote_eq, hexecuted.result_eq,
      hexecuted.not_executed, rfl⟩, posted_of_payRounds hexecuted.vote_eq hexecuted.paid⟩

end Calls

/-! ## Transfers of runs -/

section Runs

variable {cfg} {s : State AccountId}

/-- The input is not a change of a balance from outside the pallet. -/
def Input.isInternal : Input AccountId → Bool
  | .external .. => false
  | _ => true

/-- The input is not a change of the account's balance from outside the pallet. -/
def Input.spares (account : AccountId) : Input AccountId → Bool
  | .external other _ => decide (other ≠ account)
  | _ => true

theorem posted_of_step {input : Input AccountId} (h : input.isInternal = true) :
    ∃ entries, input.Transfers cfg s entries ∧ Posted s.ledger entries (step cfg input s).ledger := by
  cases input with
  | newBlock blockNumber now => exact ⟨[], rfl, .nil _⟩
  | onInitialize send =>
    exact ⟨[], rfl, .of_eq ((ledger_doSendVotes _ _ _).trans (ledger_updatePrices s))⟩
  | external account balance => cases h
  | extrinsic send origin call =>
    simp only [Input.Transfers, step, applyCall]
    cases hdispatch : dispatch cfg send s origin call with
    | error error => exact ⟨[], rfl, .nil _⟩
    | ok s' => exact posted_of_dispatch hdispatch

theorem exists_posted_journal (inputs : List (Input AccountId))
    (h : ∀ input ∈ inputs, input.isInternal = true) :
    ∃ entries, Journal cfg inputs s entries ∧ Posted s.ledger entries (run (step cfg) inputs s).ledger := by
  induction inputs generalizing s with
  | nil => exact ⟨[], rfl, .nil _⟩
  | cons input rest ih =>
    obtain ⟨first, htransfers, hfirst⟩ := posted_of_step (h input List.mem_cons_self)
    obtain ⟨later, hrest, hlater⟩ := ih fun other hother ↦ h other (List.mem_cons_of_mem _ hother)
    exact ⟨first ++ later, ⟨first, later, rfl, htransfers, hrest⟩, hfirst.append hlater⟩

/-- A run without changes from outside has a journal: it moves funds by the transfers of its inputs only,
and any accounts that include the parties hold together what they held before. -/
theorem journal_of_run (inputs : List (Input AccountId)) (h : ∀ input ∈ inputs, input.isInternal = true) :
    ∃ entries, Journal cfg inputs s entries ∧
      Posted s.ledger entries (run (step cfg) inputs s).ledger ∧
      ∀ accounts : Finset AccountId, parties entries ⊆ accounts →
        ∑ account ∈ accounts, (run (step cfg) inputs s).ledger account =
          ∑ account ∈ accounts, s.ledger account := by
  obtain ⟨entries, hentries, hposted⟩ := exists_posted_journal inputs h
  exact ⟨entries, hentries, hposted, fun accounts hparties ↦ hposted.sum_eq hparties⟩

/-- The run of the mock runtime in which two tips and a reward are paid. -/
theorem journal_of_run_payments :
    ∃ entries, Journal Mock.config Mock.payments Mock.genesis entries ∧
      Posted Mock.genesis.ledger entries (run (step Mock.config) Mock.payments Mock.genesis).ledger ∧
      ∀ accounts : Finset ℕ, parties entries ⊆ accounts →
        ∑ account ∈ accounts, (run (step Mock.config) Mock.payments Mock.genesis).ledger account =
          ∑ account ∈ accounts, Mock.genesis.ledger account :=
  journal_of_run Mock.payments (by decide)

/-- The transfers of a call take from a user what the user's signature allows. -/
theorem Call.Transfers.outgoing_le {origin : Origin AccountId} {call : Call AccountId}
    {entries : List (Entry AccountId)} {account : AccountId} (haccount : account ∉ palletAccounts cfg)
    (h : call.Transfers cfg s origin entries) :
    outgoing account entries ≤ if origin = .signed account then call.spends cfg s else 0 := by
  have hpallet : ∀ source ∈ palletAccounts cfg, account ≠ source := fun source hsource heq ↦
    haccount (heq ▸ hsource)
  have hfree (hsources : ∀ entry ∈ entries, entry.source ∈ palletAccounts cfg) (bound : ℕ) :
      outgoing account entries ≤ bound := by
    rw [outgoing_eq_zero fun entry hentry ↦ hpallet _ (hsources entry hentry)]
    exact Nat.zero_le _
  have hsigned {signer dest : AccountId} {amount : ℕ} (horigin : origin = .signed signer)
      (hentries : entries = [⟨signer, dest, amount⟩]) :
      outgoing account entries ≤ if origin = .signed account then amount else 0 := by
    rw [hentries, outgoing_cons, outgoing_nil, Nat.add_zero, horigin]
    simp only [Origin.signed.injEq]
    split
    · next heq => rw [if_pos heq.symm]
    · exact Nat.zero_le _
  cases call with
  | register gasLimit =>
    apply hfree
    intro entry hentry
    obtain ⟨dest, -, rfl⟩ := List.mem_map.mp (h.subset hentry)
    exact List.mem_cons_self
  | claimOnetimeTip queryId timestamps =>
    obtain ⟨reporter, reward, -, rfl⟩ := h
    apply hfree
    simp [rewardEntries, palletAccounts]
  | claimTip feedId queryId timestamps =>
    obtain ⟨reporter, reward, -, rfl⟩ := h
    apply hfree
    simp [rewardEntries, palletAccounts]
  | fundFeed feedId queryId amount =>
    obtain ⟨feedFunder, horigin, hentries⟩ := h
    exact hsigned horigin hentries
  | setupDataFeed queryId reward startTime interval window priceThreshold rewardIncreasePerSecond
      queryData amount =>
    obtain ⟨feedCreator, horigin, hentries⟩ := h
    exact hsigned horigin hentries
  | tip queryId amount queryData =>
    obtain ⟨tipper, horigin, hentries⟩ := h
    exact hsigned horigin hentries
  | addStakingRewards amount =>
    obtain ⟨source, horigin, hentries⟩ := h
    exact hsigned horigin hentries
  | beginDispute queryId timestamp beneficiary =>
    obtain ⟨initiator, horigin, hentries⟩ := h
    exact hsigned horigin hentries
  | reportStakeDeposited reporter amount address =>
    exact hfree (fun entry hentry ↦ by rw [(h entry hentry).1]; simp [palletAccounts]) _
  | reportStakingWithdrawRequest reporter amount address =>
    exact hfree (fun entry hentry ↦ by rw [(h entry hentry).1]; simp [palletAccounts]) _
  | reportSlash reporter amount =>
    exact hfree (fun entry hentry ↦ by rw [(h entry hentry).1]; simp [palletAccounts]) _
  | reportVoteExecuted disputeId =>
    obtain ⟨dispute, vote, result, -, -, -, -, rfl⟩ := h
    apply hfree
    intro entry hentry
    obtain ⟨voteRound, -, hround⟩ := List.mem_filterMap.mp hentry
    obtain ⟨found, -, rfl⟩ := Option.map_eq_some_iff.mp hround
    simp [palletAccounts]
  | _ => exact (congrArg (outgoing account) h).le.trans (Nat.zero_le _)

theorem le_step_ledger_add {input : Input AccountId} {account : AccountId}
    (haccount : account ∉ palletAccounts cfg) (h : input.spares account = true) :
    s.ledger account ≤ (step cfg input s).ledger account + input.spends cfg s account := by
  cases input with
  | newBlock blockNumber now => exact Nat.le_add_right _ _
  | onInitialize send =>
    refine le_of_eq_of_le ?_ (Nat.le_add_right _ _)
    exact congrFun ((ledger_doSendVotes _ _ _).trans (ledger_updatePrices s)).symm account
  | external other balance =>
    refine le_of_eq_of_le ?_ (Nat.le_add_right _ _)
    exact (Function.update_of_ne (of_decide_eq_true h).symm _ _).symm
  | extrinsic send origin call =>
    rw [step, applyCall]
    cases hdispatch : dispatch cfg send s origin call with
    | error error => exact Nat.le_add_right _ _
    | ok s' =>
      obtain ⟨entries, htransfers, hposted⟩ := posted_of_dispatch hdispatch
      exact (hposted.le_add account).trans (Nat.add_le_add_left (htransfers.outgoing_le haccount) _)

/-- Users lose at most what they signed for: the amounts of their tips, feed fundings and reward
additions, and the fees of the dispute rounds they opened. -/
theorem le_ledger_of_run {account : AccountId} (haccount : account ∉ palletAccounts cfg)
    (inputs : List (Input AccountId)) (h : ∀ input ∈ inputs, input.spares account = true) :
    s.ledger account ≤
      (run (step cfg) inputs s).ledger account + spending cfg account inputs s := by
  induction inputs generalizing s with
  | nil => exact le_rfl
  | cons input rest ih =>
    have hfirst : s.ledger account ≤ (step cfg input s).ledger account + input.spends cfg s account :=
      le_step_ledger_add haccount (h input List.mem_cons_self)
    have hrest := ih (s := step cfg input s) fun other hother ↦ h other (List.mem_cons_of_mem _ hother)
    calc s.ledger account
        ≤ (step cfg input s).ledger account + input.spends cfg s account := hfirst
      _ ≤ (run (step cfg) rest (step cfg input s)).ledger account +
            spending cfg account rest (step cfg input s) + input.spends cfg s account :=
          Nat.add_le_add_right hrest _
      _ = (run (step cfg) (input :: rest) s).ledger account + spending cfg account (input :: rest) s := by
          rw [spending, Nat.add_assoc, Nat.add_comm (spending cfg account rest _)]
          rfl

/-- A user who funds a feed with 1000 and tips 100, and gets nothing back. -/
theorem le_ledger_of_run_payments :
    spending Mock.config 5 Mock.payments Mock.genesis = 1100 ∧
      Mock.genesis.ledger 5 ≤ (run (step Mock.config) Mock.payments Mock.genesis).ledger 5 +
        spending Mock.config 5 Mock.payments Mock.genesis :=
  ⟨by decide +kernel, le_ledger_of_run (by decide) Mock.payments (by decide)⟩

end Runs

end TellorPallet
