import TellorPallet.Governance.Queue

/-!
# The votes cast

Storage keeps of a vote that it was cast, and of its weight only the sum it went into. The votes cast
are recorded beside the state, each with the weights its voter had at that moment, from the successful
calls alone. As far as tallies are concerned an input is a sequence of the moves below, and casting a
vote is the only one that is recorded.
-/

namespace TellorPallet

open Outcome Transition

variable {AccountId : Type} [DecidableEq AccountId] (cfg : Config AccountId)

/-- A vote cast in a round of a dispute. -/
structure Cast (AccountId : Type) where
  disputeId : DisputeId
  voteRound : ℕ
  voter : AccountId
  supports : Option Bool
  /-- The reports the voter had submitted. -/
  reports : ℕ
  /-- The total of the tips the voter had paid. -/
  userTips : ℕ
deriving DecidableEq

/-- A vote on the current round of a dispute, with the weights the voter has now. -/
def castOf (s : State AccountId) (voter : AccountId) (ballot : DisputeId × Option Bool) :
    Cast AccountId where
  disputeId := ballot.1
  voteRound := s.governance.rounds ballot.1
  voter := voter
  supports := ballot.2
  reports := (s.staking.stakerDetails.lookup voter).elim 0 StakeInfo.reportsSubmitted
  userTips := s.autoPay.tipsByAddress voter

/-- The votes that a voter casts one after the other. -/
def castsOf (voter : AccountId) : List (DisputeId × Option Bool) → State AccountId →
    List (Cast AccountId)
  | [], _ => []
  | ballot :: rest, s =>
    match doVote cfg s voter ballot.1 ballot.2 with
    | .ok s' => castOf s voter ballot :: castsOf voter rest s'
    | .error _ => []

/-- The ballots of a call that votes. -/
def Call.ballots : Call AccountId → Option (List (DisputeId × Option Bool))
  | .vote disputeId supports => some [(disputeId, supports)]
  | .voteOnMultipleDisputes votes => some votes
  | _ => none

/-- The votes of every successful `vote` and `vote_on_multiple_disputes` are recorded. -/
def recordCasts (s : State AccountId) (input : Input AccountId) (casts : List (Cast AccountId)) :
    List (Cast AccountId) :=
  match input with
  | .extrinsic send (.signed voter) call =>
    match call.ballots, dispatch cfg send s (.signed voter) call with
    | some ballots, .ok _ => casts ++ castsOf cfg voter ballots s
    | _, _ => casts
  | _ => casts

/-- The moves an input is made of, as far as tallies are concerned, with the votes cast so far. -/
inductive TallyStep : State AccountId × List (Cast AccountId) →
    State AccountId × List (Cast AccountId) → Prop where
  | quiet {s s' : State AccountId} {casts : List (Cast AccountId)}
      (hgovernance : s'.governance = s.governance)
      (hmessages : s.sentMessages <+: s'.sentMessages) : TallyStep (s, casts) (s', casts)
  | cast {s s' : State AccountId} {casts : List (Cast AccountId)} {voter : AccountId}
      {ballot : DisputeId × Option Bool} (h : doVote cfg s voter ballot.1 ballot.2 = .ok s') :
      TallyStep (s, casts) (s', casts ++ [castOf s voter ballot])
  | sent {s s' : State AccountId} {casts : List (Cast AccountId)} {send : Sender}
      {disputeId : DisputeId} {pending : ℕ × ℕ} {vote : Vote AccountId} {message : Message}
      (hpending : s.governance.pendingVotes.lookup disputeId = some pending)
      (h : VoteSent cfg send s disputeId pending.1 vote message s') :
      TallyStep (s, casts) (s', casts)
  | opened {s s' : State AccountId} {casts : List (Cast AccountId)} {disputeId : DisputeId}
      {voteRound fee : ℕ} {initiator : AccountId}
      (h : Opened cfg s disputeId voteRound fee initiator s')
      (hvotes : s'.governance.votes = s.governance.votes)
      (hmessages : s.sentMessages <+: s'.sentMessages) : TallyStep (s, casts) (s', casts)
  | tallied {s s' : State AccountId} {casts : List (Cast AccountId)} {disputeId : DisputeId}
      {result : VoteResult} {vote : Vote AccountId} {dispute : Dispute AccountId}
      (h : VoteTallied s disputeId result vote dispute s') : TallyStep (s, casts) (s', casts)
  | executed {s s' : State AccountId} {casts : List (Cast AccountId)} {disputeId : DisputeId}
      {vote : Vote AccountId} {result : VoteResult} {dispute : Dispute AccountId}
      (h : VoteExecuted cfg s disputeId vote result dispute s') : TallyStep (s, casts) (s', casts)

section Steps

variable {cfg} {s s' : State AccountId} {casts : List (Cast AccountId)}

theorem tallySteps_votes {voter : AccountId} {ballots : List (DisputeId × Option Bool)}
    (h : voteOnMultipleDisputes cfg s voter ballots = .ok s') :
    Relation.ReflTransGen (TallyStep cfg) (s, casts) (s', casts ++ castsOf cfg voter ballots s) := by
  induction ballots generalizing s casts with
  | nil =>
    cases h
    rw [castsOf, List.append_nil]
  | cons ballot rest ih =>
    rw [voteOnMultipleDisputes, List.foldlM_cons, bind_eq_ok] at h
    obtain ⟨mid, hmid, hrest⟩ := h
    have hlater := @ih mid (casts ++ [castOf s voter ballot]) hrest
    rw [List.append_assoc] at hlater
    rw [castsOf, hmid]
    exact Relation.ReflTransGen.head (.cast hmid) hlater

theorem tallySteps_doSendVotes (send : Sender) (s : State AccountId) (timestamp max : ℕ) :
    Relation.ReflTransGen (TallyStep cfg) (s, casts)
      (doSendVotes cfg send s timestamp max, casts) := by
  have hsteps : Relation.ReflTransGen (fun s s' ↦ TallyStep cfg (s, casts) (s', casts)) s
      (doSendVotes cfg send s timestamp max) := doSendVotes_steps send .sent s timestamp max
  exact Relation.ReflTransGen.lift (fun s ↦ (s, casts)) (fun _ _ hstep ↦ hstep) _ _ hsteps

theorem tallySteps_updatePrices (s : State AccountId) :
    Relation.ReflTransGen (TallyStep cfg) (s, casts) (updatePrices cfg s, casts) := by
  apply Relation.ReflTransGen.single
  apply TallyStep.quiet (updatePrices_frame s)
  unfold updatePrices
  split
  · split
    · next updated hupdated =>
      have hmessages := congrArg State.sentMessages (updateStakeAmount_frame hupdated).1
      exact hmessages ▸ List.prefix_rfl
    · exact List.prefix_rfl
  · exact List.prefix_rfl

/-- A call that does not vote casts no vote. -/
theorem dispatch_tallySteps {send : Sender} {origin : Origin AccountId} {call : Call AccountId}
    (hsigner : ∀ account ∈ palletAccounts cfg, origin ≠ .signed account)
    (hcall : call.ballots = none) (h : dispatch cfg send s origin call = .ok s') :
    Relation.ReflTransGen (TallyStep cfg) (s, casts) (s', casts) := by
  have hquiet : ∀ {s'' : State AccountId}, s''.governance = s.governance →
      s''.sentMessages = s.sentMessages →
      Relation.ReflTransGen (TallyStep cfg) (s, casts) (s'', casts) := by
    intro s'' hgovernance hmessages
    exact Relation.ReflTransGen.single (.quiet hgovernance (hmessages ▸ List.prefix_rfl))
  cases call with
  | register gasLimit =>
    obtain ⟨_, -, h⟩ := bind_eq_ok.mp h
    simp only [register, bind_eq_ok] at h
    obtain ⟨ledger, -, location, -, interior, -, message, -, hsent⟩ := h
    obtain ⟨-, rfl⟩ := State.sendXcm_eq_ok.mp hsent
    exact Relation.ReflTransGen.single (.quiet rfl (List.prefix_append _ _))
  | claimOnetimeTip queryId timestamps =>
    obtain ⟨_, -, h⟩ := bind_eq_ok.mp h
    obtain ⟨_, _, _, hclaimed⟩ := claimOnetimeTip_claimed h
    have hframe := hclaimed.frame
    exact hquiet (congrArg State.governance hframe :) (congrArg State.sentMessages hframe :)
  | claimTip feedId queryId timestamps =>
    obtain ⟨_, -, h⟩ := bind_eq_ok.mp h
    obtain ⟨_, _, _, _, hclaimed⟩ := claimTip_claimed h
    have hframe := hclaimed.frame
    exact hquiet (congrArg State.governance hframe :) (congrArg State.sentMessages hframe :)
  | fundFeed feedId queryId amount =>
    obtain ⟨_, -, h⟩ := bind_eq_ok.mp h
    obtain ⟨_, hfunded⟩ := doFundFeed_funded h
    have hframe := hfunded.frame
    exact hquiet (congrArg State.governance hframe :) (congrArg State.sentMessages hframe :)
  | setupDataFeed queryId reward startTime interval window priceThreshold rewardIncreasePerSecond
      queryData amount =>
    obtain ⟨_, -, h⟩ := bind_eq_ok.mp h
    obtain ⟨s₁, -, hsetup, hrest⟩ := setupDataFeed_eq_ok h
    have hfirst := hsetup.frame
    rcases hrest with ⟨-, rfl⟩ | hfund
    · exact hquiet (congrArg State.governance hfirst :) (congrArg State.sentMessages hfirst :)
    · obtain ⟨_, hfunded⟩ := doFundFeed_funded hfund
      have hframe := hfunded.frame
      exact hquiet ((congrArg State.governance hframe :).trans (congrArg State.governance hfirst :))
        ((congrArg State.sentMessages hframe :).trans (congrArg State.sentMessages hfirst :))
  | tip queryId amount queryData =>
    obtain ⟨_, -, h⟩ := bind_eq_ok.mp h
    obtain ⟨_, htipped⟩ := tip_tipped h
    have hframe := htipped.frame
    exact hquiet (congrArg State.governance hframe :) (congrArg State.sentMessages hframe :)
  | addStakingRewards amount =>
    obtain ⟨_, -, h⟩ := bind_eq_ok.mp h
    obtain ⟨s₁, hadded, hevents, -⟩ := addStakingRewards_eq_ok h
    have hframe := doAddStakingRewards_frame hadded
    exact hquiet ((congrArg State.governance hevents :).trans (congrArg State.governance hframe :))
      ((congrArg State.sentMessages hevents :).trans (congrArg State.sentMessages hframe :))
  | submitValue queryId value nonce queryData =>
    obtain ⟨_, -, h⟩ := bind_eq_ok.mp h
    obtain ⟨_, hsubmission⟩ := submitValue_submission h
    have hframe := hsubmission.state_eq
    exact hquiet (congrArg State.governance hframe :) (congrArg State.sentMessages hframe :)
  | updateStakeAmount =>
    obtain ⟨_, -, h⟩ := bind_eq_ok.mp h
    have hframe := (updateStakeAmount_frame h).1
    exact hquiet (congrArg State.governance hframe :) (congrArg State.sentMessages hframe :)
  | beginDispute queryId timestamp beneficiary =>
    obtain ⟨initiator, horigin, h⟩ := bind_eq_ok.mp h
    rw [ensureSigned_eq_ok] at horigin
    obtain ⟨message, hmessages⟩ := beginDispute_sentMessages h
    obtain ⟨_, _, _, _, hround, hmax, hprepared, hopened⟩ := beginDispute_eq_ok h
    have hmem : cfg.disputeFees ∈ palletAccounts cfg := by simp [palletAccounts]
    have hinitiator : initiator ≠ cfg.disputeFees := by
      intro heq
      exact hsigner _ hmem (horigin.trans (congrArg Origin.signed heq))
    apply Relation.ReflTransGen.single
    apply TallyStep.opened (opened_of_prepared hinitiator hround hmax hprepared hopened ?_)
    · rw [hopened.state_eq]
      rcases hprepared with ⟨-, iterations, hfirst⟩ | ⟨-, rfl, -⟩
      · rw [hfirst.state_eq]
      · rfl
    · rw [hmessages]
      exact List.prefix_append _ _
    · simp [Event.isVoteEvent]
  | vote disputeId supports => cases hcall
  | voteOnMultipleDisputes votes => cases hcall
  | sendVotes maxVotes =>
    obtain ⟨_, -, h⟩ := bind_eq_ok.mp h
    cases h
    exact tallySteps_doSendVotes send s s.now maxVotes
  | reportVoteTallied disputeId result =>
    obtain ⟨_, -, h⟩ := bind_eq_ok.mp h
    obtain ⟨_, _, htallied⟩ := tallyVotes_tallied h
    exact Relation.ReflTransGen.single (.tallied htallied)
  | reportVoteExecuted disputeId =>
    obtain ⟨_, -, h⟩ := bind_eq_ok.mp h
    obtain ⟨_, _, _, hexecuted⟩ := executeVote_executed h
    exact Relation.ReflTransGen.single (.executed hexecuted)
  | _ =>
    obtain ⟨_, -, hframe⟩ := reportsStake_frame rfl h
    exact hquiet (congrArg State.governance hframe :) (congrArg State.sentMessages hframe :)

/-- A call that votes casts its ballots. -/
theorem votes_of_dispatch {send : Sender} {voter : AccountId} {call : Call AccountId}
    {ballots : List (DisputeId × Option Bool)} (hcall : call.ballots = some ballots)
    (h : dispatch cfg send s (.signed voter) call = .ok s') :
    voteOnMultipleDisputes cfg s voter ballots = .ok s' := by
  cases call with
  | vote disputeId supports =>
    cases hcall
    have hvote : doVote cfg s voter disputeId supports = .ok s' := h
    rw [voteOnMultipleDisputes, List.foldlM_cons, bind_eq_ok]
    exact ⟨s', hvote, rfl⟩
  | voteOnMultipleDisputes votes =>
    cases hcall
    exact h
  | _ => cases hcall

/-- Every admissible input is a sequence of such moves. -/
theorem step_tallySteps {input : Input AccountId} (h : Admissible cfg s input) :
    Relation.ReflTransGen (TallyStep cfg) (s, casts)
      (step cfg input s, recordCasts cfg s input casts) := by
  cases input with
  | newBlock blockNumber now => exact Relation.ReflTransGen.single (.quiet rfl List.prefix_rfl)
  | external account balance => exact Relation.ReflTransGen.single (.quiet rfl List.prefix_rfl)
  | onInitialize send =>
    exact (tallySteps_updatePrices s).trans (tallySteps_doSendVotes send _ _ _)
  | extrinsic send origin call =>
    change Relation.ReflTransGen _ _ (applyCall cfg send s origin call, _)
    unfold applyCall
    cases haccepted : dispatch cfg send s origin call with
    | error e =>
      have hsame : recordCasts cfg s (.extrinsic send origin call) casts = casts := by
        unfold recordCasts
        cases origin with
        | signed voter =>
          dsimp only
          rw [haccepted]
          cases call.ballots <;> rfl
        | _ => rfl
      rw [hsame]
    | ok s' =>
      dsimp only
      cases hcall : call.ballots with
      | none =>
        have hsame : recordCasts cfg s (.extrinsic send origin call) casts = casts := by
          unfold recordCasts
          cases origin with
          | signed voter =>
            dsimp only
            rw [hcall]
          | _ => rfl
        rw [hsame]
        exact dispatch_tallySteps h hcall haccepted
      | some ballots =>
        cases origin with
        | signed voter =>
          have hrecorded : recordCasts cfg s (.extrinsic send (.signed voter) call) casts =
              casts ++ castsOf cfg voter ballots s := by
            unfold recordCasts
            dsimp only
            rw [hcall, haccepted]
          rw [hrecorded]
          exact tallySteps_votes (votes_of_dispatch hcall haccepted)
        | _ =>
          cases call with
          | vote disputeId supports => cases haccepted
          | voteOnMultipleDisputes votes => cases haccepted
          | _ => cases hcall

end Steps

end TellorPallet
