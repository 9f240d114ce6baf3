import TellorPallet.Governance.Escrow
import TellorPallet.Staking.VotingRecords

/-!
# Governance counters

The dispute fee and the rewards of the stakers are computed from counters that are updated with every
round opened, vote cast and dispute executed: the number of rounds of all disputes, of rounds each
account voted in, and of open disputes on each query. Here the counters are compared with what they
count, which is in storage besides.
-/

namespace TellorPallet

open Outcome Transition

variable {AccountId : Type} [DecidableEq AccountId] {cfg : Config AccountId}

namespace Governance

/-- The rounds an account voted in. -/
def votedRounds (g : Governance AccountId) (voter : AccountId) : Finset (DisputeId × ℕ) :=
  (FiniteMap.keysWhere g.votes fun key voted ↦ key.2.2 = voter && voted).image
    fun key ↦ (key.1, key.2.1)

/-- The disputes on a query that are not executed. -/
def openDisputes (g : Governance AccountId) (queryId : QueryId) : Finset DisputeId :=
  FiniteMap.keysWhere g.disputeInfo fun disputeId dispute ↦
    dispute.queryId = queryId && !g.isExecuted disputeId

variable {g : Governance AccountId}

theorem mem_votedRounds {voter : AccountId} {disputeId : DisputeId} {voteRound : ℕ} :
    (disputeId, voteRound) ∈ g.votedRounds voter ↔
      g.didVote disputeId voteRound voter = true := by
  have hread : g.didVote disputeId voteRound voter = true ↔
      g.votes.lookup (disputeId, voteRound, voter) = some true := by
    rw [didVote, FiniteMap.read, Option.getD_eq_iff]
    simp
  simp only [votedRounds, Finset.mem_image, FiniteMap.mem_keysWhere, Bool.and_eq_true,
    decide_eq_true_eq, Prod.mk.injEq, hread]
  constructor
  · rintro ⟨⟨d, r, account⟩, ⟨voted, hvoted, rfl, rfl⟩, rfl, rfl⟩
    exact hvoted
  · intro hvoted
    exact ⟨(disputeId, voteRound, voter), ⟨true, hvoted, rfl, rfl⟩, rfl, rfl⟩

omit [DecidableEq AccountId] in
theorem mem_openDisputes {queryId : QueryId} {disputeId : DisputeId} :
    disputeId ∈ g.openDisputes queryId ↔ ∃ dispute, g.disputeInfo.lookup disputeId = some dispute ∧
      dispute.queryId = queryId ∧ g.isExecuted disputeId = false := by
  simp only [openDisputes, FiniteMap.mem_keysWhere, Bool.and_eq_true, decide_eq_true_eq,
    Bool.not_eq_true']

end Governance

/-- The tally of an account is the number of rounds it voted in, all of them opened. -/
structure VotesTallied (g : Governance AccountId) : Prop where
  opened : ∀ d r voter, g.didVote d r voter = true → 1 ≤ r ∧ r ≤ g.rounds d
  voteTally_eq : FiniteMap.Counts g.voteTallyByAddress g.votedRounds

/-- The counter of a query is the number of its open disputes, each of which has a round. -/
structure DisputesCounted (g : Governance AccountId) : Prop where
  opened : ∀ d dispute, g.disputeInfo.lookup d = some dispute → 1 ≤ g.rounds d
  openDisputesOnId_eq : FiniteMap.Counts g.openDisputesOnId g.openDisputes

/-- All counters are the numbers of what they count. -/
structure Counted (g : Governance AccountId) : Prop where
  indexed : ∀ disputeId, RoundsIndexed g disputeId
  voteCount_eq : g.voteCount = FiniteMap.total g.voteRounds fun _ rounds ↦ rounds
  votes : VotesTallied g
  disputes : DisputesCounted g

section Frames

variable {g g' : Governance AccountId}

theorem VotesTallied.congr (h : VotesTallied g) (hvotes : g'.votes = g.votes)
    (htally : g'.voteTallyByAddress = g.voteTallyByAddress)
    (hrounds : ∀ d, g.rounds d ≤ g'.rounds d) : VotesTallied g' := by
  constructor
  · intro d r voter hvoted
    rw [Governance.didVote, hvotes] at hvoted
    obtain ⟨hpositive, hle⟩ := h.opened d r voter hvoted
    exact ⟨hpositive, hle.trans (hrounds d)⟩
  · intro voter
    rw [htally, Governance.votedRounds, hvotes]
    exact h.voteTally_eq voter

omit [DecidableEq AccountId] in
theorem DisputesCounted.congr (h : DisputesCounted g) (hdisputes : g'.disputeInfo = g.disputeInfo)
    (hcount : g'.openDisputesOnId = g.openDisputesOnId) (hrounds : ∀ d, g.rounds d ≤ g'.rounds d)
    (hexecuted : ∀ d, g'.isExecuted d = g.isExecuted d) : DisputesCounted g' := by
  constructor
  · intro d dispute hdispute
    rw [hdisputes] at hdispute
    exact (h.opened d dispute hdispute).trans (hrounds d)
  · intro queryId
    rw [hcount, h.openDisputesOnId_eq queryId]
    simp only [Governance.openDisputes, hdisputes, hexecuted]

/-- An account votes at most once in each of the rounds. -/
theorem Counted.voteTally_le (h : Counted g) (voter : AccountId) : g.voteTally voter ≤ g.voteCount := by
  have hopened : ∀ d r, (d, r) ∈ g.votedRounds voter → 1 ≤ r ∧ r ≤ g.rounds d :=
    fun d r hmem ↦ h.votes.opened d r voter (Governance.mem_votedRounds.mp hmem)
  calc g.voteTally voter
      = (g.votedRounds voter).card := h.votes.voteTally_eq voter
    _ ≤ FiniteMap.total g.voteRounds fun _ rounds ↦ rounds := FiniteMap.card_le_total hopened
    _ = g.voteCount := h.voteCount_eq.symm

end Frames

/-! ## Moves -/

section Moves

variable {s s' : State AccountId} {d : DisputeId}

theorem VoteCast.votesTallied {voter : AccountId} {supports : Option Bool} {vote : Vote AccountId}
    (h : VoteCast cfg s voter d supports vote s') (hindexed : RoundsIndexed s.governance d)
    (hinv : VotesTallied s.governance) : VotesTallied s'.governance := by
  have htally : s'.governance.voteTallyByAddress =
      s.governance.voteTallyByAddress.insert voter (s.governance.voteTally voter + 1) := by
    rw [h.state_eq]
  have hnew : (d, s.governance.rounds d) ∉ s.governance.votedRounds voter := by
    rw [Governance.mem_votedRounds, h.fresh hindexed]
    exact Bool.false_ne_true
  have hmem : ∀ account p, p ∈ s'.governance.votedRounds account ↔
      (account = voter ∧ p = (d, s.governance.rounds d)) ∨ p ∈ s.governance.votedRounds account := by
    rintro account ⟨i, r⟩
    rw [Governance.mem_votedRounds, h.didVote, Governance.mem_votedRounds]
    simp only [Prod.mk.injEq]
    split
    · next heq => simp [heq]
    · next hne =>
      have hother : ¬(account = voter ∧ i = d ∧ r = s.governance.rounds d) :=
        fun hsame ↦ hne ⟨hsame.2.1, hsame.2.2, hsame.1⟩
      simp [hother]
  refine ⟨fun i r account hvoted ↦ ?_, ?_⟩
  · rw [h.didVote] at hvoted
    rw [h.voteUpdated.rounds]
    split at hvoted
    · next heq =>
      -- the current round, in which the vote is cast, was opened
      cases heq
      exact (hindexed.defined _).mp ⟨vote, h.vote_eq⟩
    · exact hinv.opened i r account hvoted
  · rw [htally]
    exact hinv.voteTally_eq.insert hnew hmem

/-- Executing a dispute takes it out of the open ones, and one off the counter of its query. -/
theorem VoteExecuted.disputesCounted {vote : Vote AccountId} {result : VoteResult}
    {dispute : Dispute AccountId} (h : VoteExecuted cfg s d vote result dispute s')
    (hinv : DisputesCounted s.governance) : DisputesCounted s'.governance := by
  have hupdated := h.voteUpdated
  have hopen : d ∈ s.governance.openDisputes dispute.queryId :=
    Governance.mem_openDisputes.mpr ⟨dispute, h.dispute_eq, rfl, h.not_executed_before⟩
  have hmem : ∀ queryId other, other ∈ s'.governance.openDisputes queryId ↔
      ¬(queryId = dispute.queryId ∧ other = d) ∧ other ∈ s.governance.openDisputes queryId := by
    intro queryId other
    rw [Governance.mem_openDisputes, Governance.mem_openDisputes, hupdated.disputeInfo_eq,
      h.isExecuted]
    split
    · next heq =>
      subst heq
      rw [h.dispute_eq]
      simp only [Option.some.injEq, exists_eq_left']
      constructor
      · rintro ⟨-, hnot⟩
        cases hnot
      · rintro ⟨hne, heq, -⟩
        exact absurd ⟨heq.symm, trivial⟩ hne
    · next hne => simp [hne]
  refine ⟨fun other otherDispute hother ↦ ?_, ?_⟩
  · rw [hupdated.disputeInfo_eq] at hother
    rw [hupdated.rounds]
    exact hinv.opened other otherDispute hother
  · rw [h.openDisputesOnId_eq, hinv.openDisputesOnId_eq.lookup_eq hopen, Option.elim_some]
    exact hinv.openDisputesOnId_eq.erase hopen hmem

/-- The first round of a dispute adds it to the open ones, and one to the counter of its query. -/
theorem FirstRound.disputesCounted {s₁ : State AccountId} {queryId : QueryId} {timestamp fee : ℕ}
    {dispute : Dispute AccountId} {iterations : ℕ} {initiator : AccountId}
    {events : List (Event AccountId)}
    (hfirst : FirstRound cfg s queryId timestamp d dispute iterations s₁)
    (hopened : RoundOpened cfg s₁ d 1 fee initiator events s')
    (h : Opened cfg s d 1 fee initiator s') (hindexed : RoundsIndexed s.governance d)
    (hinv : DisputesCounted s.governance) : DisputesCounted s'.governance := by
  have hnew : s.governance.disputeInfo.lookup d = none := by
    have hround := h.round_eq
    cases hlookup : s.governance.disputeInfo.lookup d with
    | none => rfl
    | some before =>
      have hpositive := hinv.opened d before hlookup
      omega
  have hinfo : s'.governance.disputeInfo = s.governance.disputeInfo.insert d dispute := by
    rw [hopened.state_eq, hfirst.state_eq]
  have hcount : s'.governance.openDisputesOnId = s.governance.openDisputesOnId.insert queryId
      (FiniteMap.read s.governance.openDisputesOnId 0 queryId + 1) := by
    rw [hopened.state_eq, hfirst.state_eq]
    rfl
  have hnotMem : d ∉ s.governance.openDisputes queryId := by
    rw [Governance.mem_openDisputes, hnew]
    rintro ⟨_, hsome, -⟩
    cases hsome
  have hmem : ∀ query other, other ∈ s'.governance.openDisputes query ↔
      (query = queryId ∧ other = d) ∨ other ∈ s.governance.openDisputes query := by
    intro query other
    rw [Governance.mem_openDisputes, Governance.mem_openDisputes, h.isExecuted hindexed, hinfo,
      FiniteMap.lookup_insert_ite]
    split
    · next hsame =>
      rw [hsame, hnew, h.not_executed hindexed]
      simp [hfirst.queryId_eq, eq_comm]
    · next hne => simp [hne]
  refine ⟨fun other otherDispute hother ↦ ?_, ?_⟩
  · rw [hinfo, FiniteMap.lookup_insert_ite] at hother
    rw [h.rounds]
    split
    · exact Nat.le_add_left 1 _
    · next hne =>
      rw [if_neg hne] at hother
      exact hinv.opened other otherDispute hother
  · rw [hcount]
    exact hinv.openDisputesOnId_eq.insert hnotMem hmem

/-- Opening a round counts it. -/
theorem Opened.voteCount_eq {voteRound fee : ℕ} {initiator : AccountId}
    (h : Opened cfg s d voteRound fee initiator s')
    (hcount : s'.governance.voteCount = s.governance.voteCount + 1)
    (hinv : s.governance.voteCount = FiniteMap.total s.governance.voteRounds fun _ rounds ↦ rounds) :
    s'.governance.voteCount = FiniteMap.total s'.governance.voteRounds fun _ rounds ↦ rounds := by
  have htotal := FiniteMap.total_insert s.governance.voteRounds d voteRound fun _ rounds ↦ rounds
  have hbefore : (s.governance.voteRounds.lookup d).elim 0 (fun rounds ↦ rounds) =
      s.governance.rounds d := by
    rw [Governance.rounds, FiniteMap.read]
    cases s.governance.voteRounds.lookup d <;> rfl
  have hround := h.round_eq
  rw [hbefore] at htotal
  rw [hcount, hinv, h.rounds_eq]
  omega

end Moves

/-! ## Runs -/

section Steps

variable {s s' : State AccountId} {d : DisputeId} {r : ℕ} {vote vote' : Vote AccountId}

omit [DecidableEq AccountId] in
/-- An update of a vote that executes nothing keeps the open disputes. -/
theorem VoteUpdated.disputesCounted (h : VoteUpdated s s' d r vote vote')
    (hexecuted : vote'.executed = vote.executed)
    (hcount : s'.governance.openDisputesOnId = s.governance.openDisputesOnId)
    (hinv : DisputesCounted s.governance) : DisputesCounted s'.governance :=
  hinv.congr h.disputeInfo_eq hcount (fun other ↦ (h.rounds other).ge)
    (h.isExecuted_of_eq hexecuted)

/-- An update of a vote that no account cast keeps the tallies. -/
theorem VoteUpdated.votesTallied (h : VoteUpdated s s' d r vote vote')
    (hvotes : s'.governance.votes = s.governance.votes)
    (htally : s'.governance.voteTallyByAddress = s.governance.voteTallyByAddress)
    (hinv : VotesTallied s.governance) : VotesTallied s'.governance :=
  hinv.congr hvotes htally fun other ↦ (h.rounds other).ge

/-- An update of a vote opens no round. -/
theorem VoteUpdated.counted (h : VoteUpdated s s' d r vote vote')
    (hindexed : ∀ disputeId, RoundsIndexed s'.governance disputeId)
    (hcount : s'.governance.voteCount = s.governance.voteCount)
    (hvotes : VotesTallied s'.governance) (hdisputes : DisputesCounted s'.governance)
    (hinv : Counted s.governance) : Counted s'.governance := by
  refine ⟨hindexed, ?_, hvotes, hdisputes⟩
  rw [hcount, h.rounds_eq]
  exact hinv.voteCount_eq

theorem Minor.counted (h : Minor cfg s s') (hinv : Counted s.governance) :
    Counted s'.governance := by
  have hindexed : ∀ disputeId, RoundsIndexed s'.governance disputeId :=
    fun disputeId ↦ h.roundStep.roundsIndexed (hinv.indexed disputeId)
  cases h with
  | funded haccount h => exact hinv
  | registered hevent h =>
    obtain ⟨-, rfl⟩ := State.sendXcm_eq_ok.mp h
    exact hinv
  | priced h hquiet =>
    rw [h]
    exact hinv
  | voted h =>
    have hvotes := h.votesTallied (hinv.indexed _) hinv.votes
    have hdisputes := h.voteUpdated.disputesCounted rfl
      (congrArg (fun s ↦ s.governance.openDisputesOnId) h.state_eq :) hinv.disputes
    exact h.voteUpdated.counted hindexed
      (congrArg (fun s ↦ s.governance.voteCount) h.state_eq :) hvotes hdisputes hinv
  | sent hpending h =>
    have hvotes := h.voteUpdated.votesTallied
      (congrArg (fun s ↦ s.governance.votes) h.state_eq :)
      (congrArg (fun s ↦ s.governance.voteTallyByAddress) h.state_eq :) hinv.votes
    have hdisputes := h.voteUpdated.disputesCounted rfl
      (congrArg (fun s ↦ s.governance.openDisputesOnId) h.state_eq :) hinv.disputes
    exact h.voteUpdated.counted hindexed
      (congrArg (fun s ↦ s.governance.voteCount) h.state_eq :) hvotes hdisputes hinv

theorem Opened.counted {voteRound fee timestamp : ℕ} {initiator : AccountId} {queryId : QueryId}
    {dispute : Dispute AccountId} {s₁ : State AccountId} {events : List (Event AccountId)}
    (h : Opened cfg s d voteRound fee initiator s')
    (hprepared : RoundPrepared cfg s queryId timestamp d voteRound dispute s₁)
    (hopened : RoundOpened cfg s₁ d voteRound fee initiator events s')
    (hinv : Counted s.governance) : Counted s'.governance := by
  have hrounds : ∀ other, s.governance.rounds other ≤ s'.governance.rounds other := by
    intro other
    rw [h.rounds]
    split
    · next heq => exact heq ▸ Nat.le_succ _
    · exact le_rfl
  have hstate := hopened.state_eq
  have hindexed : ∀ disputeId, RoundsIndexed s'.governance disputeId :=
    fun disputeId ↦ h.roundsIndexed (hinv.indexed disputeId)
  rcases hprepared with ⟨rfl, iterations, hfirst⟩ | ⟨-, rfl, prevVote, hlater⟩
  · have hprepare := hfirst.state_eq
    refine ⟨hindexed, h.voteCount_eq ?_ hinv.voteCount_eq, hinv.votes.congr ?_ ?_ hrounds,
      hfirst.disputesCounted hopened h (hinv.indexed d) hinv.disputes⟩
    · rw [hstate, hprepare]
    · rw [hstate, hprepare]
    · rw [hstate, hprepare]
  · refine ⟨hindexed, h.voteCount_eq ?_ hinv.voteCount_eq, hinv.votes.congr ?_ ?_ hrounds,
      hinv.disputes.congr ?_ ?_ hrounds (h.isExecuted (hinv.indexed d))⟩
    · rw [hstate]
    · rw [hstate]
    · rw [hstate]
    · rw [hstate]
    · rw [hstate]

theorem Effect.counted {input : Input AccountId} (h : Effect cfg s input s')
    (hinv : Counted s.governance) : Counted s'.governance := by
  have hstep := h.governanceStep
  have hindexed : ∀ disputeId, RoundsIndexed s'.governance disputeId := by
    intro disputeId
    exact h.roundInvariant (fun s ↦ RoundsIndexed s.governance disputeId)
      (fun _ _ hmid hmove ↦ hmove.roundsIndexed hmid) (hinv.indexed disputeId)
  clear h
  cases hstep with
  | unchanged hgovernance =>
    rw [hgovernance]
    exact hinv
  | minor h =>
    clear hindexed
    induction h with
    | refl => exact hinv
    | tail _ hlast ih => exact hlast.counted ih
  | disputed h hprepared hopened => exact h.counted hprepared hopened hinv
  | tallied h =>
    have hvotes := h.voteUpdated.votesTallied
      (congrArg (fun s ↦ s.governance.votes) h.state_eq :)
      (congrArg (fun s ↦ s.governance.voteTallyByAddress) h.state_eq :) hinv.votes
    have hdisputes := h.voteUpdated.disputesCounted rfl
      (congrArg (fun s ↦ s.governance.openDisputesOnId) h.state_eq :) hinv.disputes
    exact h.voteUpdated.counted hindexed
      (congrArg (fun s ↦ s.governance.voteCount) h.state_eq :) hvotes hdisputes hinv
  | executed h =>
    have hvotes := h.voteUpdated.votesTallied
      (congrArg (fun s ↦ s.governance.votes) h.state_eq :)
      (congrArg (fun s ↦ s.governance.voteTallyByAddress) h.state_eq :) hinv.votes
    exact h.voteUpdated.counted hindexed
      (congrArg (fun s ↦ s.governance.voteCount) h.state_eq :) hvotes
      (h.disputesCounted hinv.disputes) hinv

theorem Reachable.counted (h : Reachable cfg s) : Counted s.governance := by
  refine h.invariant (fun s ↦ Counted s.governance) (fun s₀ hgenesis ↦ ?_)
    fun s₀ input s₁ hinv heffect ↦ heffect.counted hinv
  have hindexed : ∀ disputeId, RoundsIndexed s₀.governance disputeId :=
    fun disputeId ↦ roundsIndexed_genesis hgenesis
  obtain ⟨ledger, blockNumber, now, -, rfl⟩ := hgenesis
  refine ⟨hindexed, ?_, ⟨?_, ?_⟩, ⟨?_, ?_⟩⟩
  · simp [State.genesis]
  · simp [State.genesis, Governance.didVote]
  · simp [State.genesis, FiniteMap.Counts, Governance.votedRounds, FiniteMap.keysWhere]
  · simp [State.genesis]
  · simp [State.genesis, FiniteMap.Counts, Governance.openDisputes, FiniteMap.keysWhere]

end Steps

/-- In every state reached, the number of votes is the number of rounds of all disputes; the tally of
an account is the number of rounds it voted in, and no more than that; the counter of a query is the
number of its disputes whose last round is not executed. The records of the stakers count from numbers
of votes and tallies that were reached, so that the share of a pending reward does not underflow,
neither for a record as it is stored nor for what a deposit makes of it. -/
theorem counters_of_reachable {s : State AccountId} (h : Reachable cfg s) :
    s.governance.voteCount = FiniteMap.total s.governance.voteRounds (fun _ rounds ↦ rounds) ∧
      (∀ voter, s.governance.voteTally voter = (s.governance.votedRounds voter).card ∧
        s.governance.voteTally voter ≤ s.governance.voteCount) ∧
      (∀ queryId, (s.governance.openDisputesOnId.lookup queryId).getD 0 =
        (s.governance.openDisputes queryId).card) ∧
      (∀ staker info, s.staking.stakerDetails.lookup staker = some info →
        info.startVoteCount ≤ s.governance.voteCount ∧
        info.startVoteTally ≤ s.governance.voteTally staker ∧
        ∀ pendingReward, Staking.participationShare cfg s.governance staker info pendingReward ≠
          .error underflow) ∧
      ∀ staker address amount pendingReward, Staking.participationShare cfg s.governance staker
        (((s.staking.stakerDetails.lookup staker).getD (StakeInfo.new address)).relocked
          s.governance staker amount) pendingReward ≠ .error underflow := by
  have hcounted := h.counted
  have hstarted := h.votesStarted
  refine ⟨hcounted.voteCount_eq, fun voter ↦ ⟨hcounted.votes.voteTally_eq voter,
    hcounted.voteTally_le voter⟩, hcounted.disputes.openDisputesOnId_eq, fun staker info hinfo ↦ ?_,
    fun staker address amount ↦ (hstarted.relocked staker address amount).participationShare_ne_underflow⟩
  have hrecord := hstarted staker info hinfo
  exact ⟨hrecord.1, hrecord.2, hrecord.participationShare_ne_underflow⟩

namespace Mock

/-- Two rounds of the dispute, with one vote in the first round and two in the second. -/
def countedVotes : List (Input ℕ) :=
  reports ++ [.extrinsic send (.signed 7) (.vote disputeId (some true)), block (days + 30),
    tally .failed, block (days + 60), dispute 9 20,
    .extrinsic send (.signed 7) (.voteOnMultipleDisputes [(disputeId, some false)]),
    .extrinsic send (.signed 8) (.vote disputeId none)]

end Mock

theorem counters_of_reachable_countedVotes :
    (run (step Mock.config) Mock.countedVotes Mock.genesis).governance.voteCount = 2 ∧
      ((run (step Mock.config) Mock.countedVotes Mock.genesis).governance.votedRounds 7).card = 2 ∧
      ((run (step Mock.config) Mock.countedVotes Mock.genesis).governance.votedRounds 8).card = 1 ∧
      ((run (step Mock.config) Mock.countedVotes Mock.genesis).governance.openDisputes
        Mock.queryId).card = 1 := by
  have hreached : Reachable Mock.config (run (step Mock.config) Mock.countedVotes Mock.genesis) :=
    Mock.reachableBy_run Mock.countedVotes (by decide +kernel)
  obtain ⟨-, hvotes, hdisputes, -⟩ := counters_of_reachable hreached
  rw [← (hvotes 7).1, ← (hvotes 8).1, ← hdisputes Mock.queryId]
  decide +kernel

end TellorPallet
