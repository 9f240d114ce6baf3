import TellorPallet.AutoPay.Payments

/-!
# What moves a feed

Of all inputs only the three feed calls touch the feeds and their index, and only `claim_tip` deposits
a `TipClaimed` event. What was claimed from a feed is read off these events; what was paid into it is
recorded beside the state, from the accepted calls alone.
-/

namespace TellorPallet

open Outcome

variable {AccountId : Type} [DecidableEq AccountId] (cfg : Config AccountId)

/-! ## Claims and funding -/

/-- The gross amount that an event says was claimed from a feed. -/
def Event.claimedFrom (key : QueryId × FeedId) : Event AccountId → ℕ
  | .tipClaimed feedId queryId amount _ => if (queryId, feedId) = key then amount else 0
  | _ => 0

/-- The sum of the gross amounts of the `TipClaimed` events of a feed. -/
def State.claimedFrom (s : State AccountId) (key : QueryId × FeedId) : ℕ :=
  (s.events.map (Event.claimedFrom key)).sum

/-- The feed that a call pays into, and the amount. -/
def Call.funding : Call AccountId → Option ((QueryId × FeedId) × ℕ)
  | .fundFeed feedId queryId amount => some ((queryId, feedId), amount)
  | .setupDataFeed queryId reward startTime interval window priceThreshold rewardIncreasePerSecond _
      amount =>
    some ((queryId, feedIdOf cfg queryId
      (newFeed reward startTime interval window priceThreshold rewardIncreasePerSecond)), amount)
  | _ => none

/-- What an input adds to what was paid into each feed: the amount of an accepted call. -/
def recordFunding (s : State AccountId) (input : Input AccountId) (funded : QueryId × FeedId → ℕ) :
    QueryId × FeedId → ℕ :=
  match input with
  | .extrinsic send origin call =>
    match call.funding cfg with
    | none => funded
    | some (key, amount) =>
      match dispatch cfg send s origin call with
      | .ok _ => Function.update funded key (funded key + amount)
      | .error _ => funded
  | _ => funded

/-- The feed that an input asks to set up. -/
def Input.setUpFeed : Input AccountId → Option (QueryId × FeedId)
  | .extrinsic _ _ (.setupDataFeed queryId reward startTime interval window priceThreshold
      rewardIncreasePerSecond _ _) =>
    some (queryId, feedIdOf cfg queryId
      (newFeed reward startTime interval window priceThreshold rewardIncreasePerSecond))
  | _ => none

/-- The admissible inputs that set up no feed whose identifier collides with that of a feed of another
query. -/
def FeedIdsApart (s : State AccountId) (input : Input AccountId) : Prop :=
  Admissible cfg s input ∧ ∀ new ∈ input.setUpFeed cfg, ∀ key ∈ s.autoPay.dataFeeds.keys,
    key.2 = new.2 → key.1 = new.1

-- the quantifiers run over the stored feeds, not over all identifiers
instance (s : State AccountId) (input : Input AccountId) : Decidable (FeedIdsApart cfg s input) :=
  @instDecidableAnd _ _ _ (@Option.decidableForallMem _ _ (fun _ ↦ Finset.decidableDforallFinset) _)

omit [DecidableEq AccountId] in
theorem State.claimedFrom_append {s s' : State AccountId} {events : List (Event AccountId)}
    (h : s'.events = s.events ++ events) (key : QueryId × FeedId) :
    s'.claimedFrom key = s.claimedFrom key + (events.map (Event.claimedFrom key)).sum := by
  rw [State.claimedFrom, h, List.map_append, List.sum_append]
  rfl

/-! ## Moves -/

/-- The feeds and their index are the same. -/
structure SameFeeds (a a' : AutoPay AccountId) : Prop where
  dataFeeds_eq : a'.dataFeeds = a.dataFeeds
  feedsWithFunding_eq : a'.feedsWithFunding = a.feedsWithFunding
  queryIds_eq : a'.queryIdFromDataFeedId = a.queryIdFromDataFeedId

omit [DecidableEq AccountId] in
theorem SameFeeds.of_eq {a a' : AutoPay AccountId} (h : a' = a) : SameFeeds a a' := by
  subst h
  exact ⟨rfl, rfl, rfl⟩

/-- The moves of a state with what was paid into its feeds. -/
inductive FeedStep : State AccountId × (QueryId × FeedId → ℕ) →
    State AccountId × (QueryId × FeedId → ℕ) → Prop where
  | quiet {s s' : State AccountId} {funded : QueryId × FeedId → ℕ}
      (hsame : SameFeeds s.autoPay s'.autoPay) (hclaims : ∀ key, s'.claimedFrom key = s.claimedFrom key) :
      FeedStep (s, funded) (s', funded)
  | setUp {s s' : State AccountId} {funded : QueryId × FeedId → ℕ} {queryId : QueryId} {feed : Feed}
      (hbalance : feed.balance = 0)
      (hapart : ∀ q, q ≠ queryId → s.autoPay.dataFeeds.lookup (q, feedIdOf cfg queryId feed) = none)
      (h : FeedSetUp cfg s queryId feed s') (hclaims : ∀ key, s'.claimedFrom key = s.claimedFrom key) :
      FeedStep (s, funded) (s', funded)
  | funded {s s' : State AccountId} {funded : QueryId × FeedId → ℕ} {feedFunder : AccountId}
      {feedId : FeedId} {queryId : QueryId} {amount : ℕ} {feed : Feed}
      (hfits : feed.balance + amount ≤ cfg.balanceMax)
      (h : FeedFunded cfg s feedFunder feedId queryId amount feed s')
      (hclaims : ∀ key, s'.claimedFrom key = s.claimedFrom key) :
      FeedStep (s, funded)
        (s', Function.update funded (queryId, feedId) (funded (queryId, feedId) + amount))
  | claimed {s s' : State AccountId} {funded : QueryId × FeedId → ℕ} {reporter : AccountId}
      {feedId : FeedId} {queryId : QueryId} {timestamps : List ℕ} {feed : Feed} {reward : ℕ}
      {a : AutoPay AccountId} {s₁ : State AccountId}
      (h : FeedClaimed cfg s reporter feedId queryId timestamps feed reward a s₁ s') :
      FeedStep (s, funded) (s', funded)

section Steps

variable {cfg} {s s' : State AccountId} {funded : QueryId × FeedId → ℕ}

/-- A move that leaves AutoPay alone and deposits no claim. -/
theorem FeedStep.of_events {events : List (Event AccountId)} (hautoPay : s'.autoPay = s.autoPay)
    (hevents : s'.events = s.events ++ events) (hnone : ∀ event ∈ events, ∀ key, event.claimedFrom key = 0) :
    FeedStep cfg (s, funded) (s', funded) := by
  apply FeedStep.quiet (SameFeeds.of_eq hautoPay)
  intro key
  rw [State.claimedFrom_append hevents, List.sum_eq_zero, Nat.add_zero]
  intro amount hamount
  obtain ⟨event, hevent, rfl⟩ := List.mem_map.mp hamount
  exact hnone event hevent key

theorem feedSteps_votes {voter : AccountId} {votes : List (DisputeId × Option Bool)}
    (h : voteOnMultipleDisputes cfg s voter votes = .ok s') :
    Relation.ReflTransGen (FeedStep cfg) (s, funded) (s', funded) := by
  refine foldlM_invariant (fun s' ↦ Relation.ReflTransGen (FeedStep cfg) (s, funded) (s', funded)) ?_
    votes s s' Relation.ReflTransGen.refl h
  intro mid vote mid' hmid hvote
  obtain ⟨_, hcast⟩ := doVote_cast hvote
  have hframe := hcast.state_eq
  exact hmid.tail (.of_events (congrArg State.autoPay hframe :) (congrArg State.events hframe :) (by
    simp [Event.claimedFrom]))

theorem feedSteps_doSendVotes (send : Sender) (s : State AccountId) (timestamp max : ℕ) :
    Relation.ReflTransGen (FeedStep cfg) (s, funded)
      (doSendVotes cfg send s timestamp max, funded) := by
  have hsent : ∀ {s s' : State AccountId} {disputeId : DisputeId} {pending : ℕ × ℕ}
      {vote : Vote AccountId} {message : Message},
      s.governance.pendingVotes.lookup disputeId = some pending →
        VoteSent cfg send s disputeId pending.1 vote message s' →
          FeedStep cfg (s, funded) (s', funded) := by
    intro s s' disputeId pending vote message _ h
    exact .of_events (congrArg State.autoPay h.state_eq :) (congrArg State.events h.state_eq :) (by
      simp [Event.claimedFrom])
  exact Relation.ReflTransGen.lift (fun s ↦ (s, funded)) (fun _ _ hstep ↦ hstep) _ _
    (doSendVotes_steps send hsent s timestamp max)

omit [DecidableEq AccountId] in
theorem claimedFrom_doUpdateStakeAmount (h : doUpdateStakeAmount cfg s = .ok s')
    (key : QueryId × FeedId) : s'.claimedFrom key = s.claimedFrom key := by
  simp only [doUpdateStakeAmount, bind_eq_ok] at h
  obtain ⟨price, -, scaled, -, h⟩ := h
  cases h
  simp [State.claimedFrom, State.depositEvent, Event.claimedFrom]

omit [DecidableEq AccountId] in
theorem claimedFrom_updateDisputeFee (h : updateDisputeFee cfg s = .ok s')
    (key : QueryId × FeedId) : s'.claimedFrom key = s.claimedFrom key := by
  simp only [updateDisputeFee, bind_eq_ok] at h
  obtain ⟨tokenPrice, -, fee, -, h⟩ := h
  split at h
  · cases h
    simp [State.claimedFrom, State.depositEvent, Event.claimedFrom]
  · cases h
    rfl

theorem feedStep_updateStakeAmount (h : updateStakeAmount cfg s = .ok s') :
    FeedStep cfg (s, funded) (s', funded) := by
  have hautoPay : s'.autoPay = s.autoPay := (congrArg State.autoPay (updateStakeAmount_frame h).1 :)
  apply FeedStep.quiet (SameFeeds.of_eq hautoPay)
  intro key
  obtain ⟨mid, hmid, h⟩ := bind_eq_ok.mp h
  calc
    s'.claimedFrom key = mid.claimedFrom key := claimedFrom_updateDisputeFee h key
    _ = s.claimedFrom key := claimedFrom_doUpdateStakeAmount hmid key

theorem feedSteps_updatePrices (s : State AccountId) :
    Relation.ReflTransGen (FeedStep cfg) (s, funded) (updatePrices cfg s, funded) := by
  unfold updatePrices
  split
  · split
    · next updated hupdated =>
      apply (Relation.ReflTransGen.single (feedStep_updateStakeAmount hupdated)).tail
      exact .quiet (SameFeeds.of_eq rfl) fun _ ↦ rfl
    · exact Relation.ReflTransGen.refl
  · exact Relation.ReflTransGen.refl

theorem Tipped.sameFeeds {tipper : AccountId} {queryId : QueryId} {amount : ℕ} {a : AutoPay AccountId}
    (h : Tipped cfg s tipper queryId amount a s') : SameFeeds s.autoPay s'.autoPay := by
  rw [h.autoPay_eq]
  cases h.added <;> exact ⟨rfl, rfl, rfl⟩

theorem claimedFrom_tip {tipper : AccountId} {queryId : QueryId} {amount : ℕ} {queryData : QueryData}
    (h : tip cfg s tipper queryId amount queryData = .ok s') (key : QueryId × FeedId) :
    s'.claimedFrom key = s.claimedFrom key := by
  simp only [tip, bind_eq_ok] at h
  obtain ⟨_, -, _, -, a, -, ledger, -, h⟩ := h
  cases h
  dsimp only [State.claimedFrom, State.depositEvent]
  rw [List.map_append, List.sum_append]
  split
  · simp [storeData, State.depositEvent, Event.claimedFrom]
  · simp [Event.claimedFrom]

theorem claimedFrom_doFundFeed {feedFunder : AccountId} {feedId : FeedId} {queryId : QueryId}
    {amount : ℕ} (h : doFundFeed cfg s feedFunder feedId queryId amount = .ok s')
    (key : QueryId × FeedId) : s'.claimedFrom key = s.claimedFrom key := by
  simp only [doFundFeed, bind_eq_ok] at h
  obtain ⟨feed, -, _, -, ledger, -, h⟩ := h
  cases h
  simp [State.claimedFrom, State.depositEvent, Event.claimedFrom]

omit [DecidableEq AccountId] in
theorem claimedFrom_storeFeed {feedCreator : AccountId} {queryId : QueryId} {feedId : FeedId}
    {feed : Feed} {queryData : QueryData} (key : QueryId × FeedId) :
    (storeFeed s feedCreator queryId feedId feed queryData).claimedFrom key = s.claimedFrom key := by
  simp [State.claimedFrom, storeFeed, storeData, State.depositEvent, Event.claimedFrom]

/-- The balance of a feed and what is paid into it fit the balance type: the tips account holds
both. -/
theorem FeedFunded.fits {feedFunder : AccountId} {feedId : FeedId} {queryId : QueryId} {amount : ℕ}
    {feed : Feed} (hsigner : feedFunder ≠ cfg.tips)
    (hcovered : feed.balance ≤ s.ledger cfg.tips)
    (h : FeedFunded cfg s feedFunder feedId queryId amount feed s') :
    feed.balance + amount ≤ cfg.balanceMax := by
  obtain ⟨⟨-, hfits, -⟩, -⟩ := (transfer_eq_ok cfg).mp h.transferred
  exact (Nat.add_le_add_right hcovered amount).trans (hfits.resolve_left hsigner)

omit [DecidableEq AccountId] in
theorem claimedFrom_of_reportsStake {event : Event AccountId} (h : event.reportsStake = true)
    (key : QueryId × FeedId) : event.claimedFrom key = 0 := by
  cases event with
  | tipClaimed feedId queryId amount reporter => cases h
  | _ => rfl

/-- A call that pays into no feed claims from a feed or does not touch the feeds. -/
theorem dispatch_feedSteps {send : Sender} {origin : Origin AccountId} {call : Call AccountId}
    (hcall : call.funding cfg = none) (h : dispatch cfg send s origin call = .ok s') :
    Relation.ReflTransGen (FeedStep cfg) (s, funded) (s', funded) := by
  have hquiet : ∀ {s'' : State AccountId} {event : Event AccountId}, s''.autoPay = s.autoPay →
      s''.events = s.events ++ [event] → (∀ key, event.claimedFrom key = 0) →
        Relation.ReflTransGen (FeedStep cfg) (s, funded) (s'', funded) := by
    intro s'' event hautoPay hevents hnone
    exact Relation.ReflTransGen.single (.of_events hautoPay hevents (by simpa using hnone))
  cases call with
  | register gasLimit =>
    obtain ⟨_, -, h⟩ := bind_eq_ok.mp h
    simp only [register, bind_eq_ok] at h
    obtain ⟨ledger, -, location, -, interior, -, message, -, hsent⟩ := h
    obtain ⟨-, rfl⟩ := State.sendXcm_eq_ok.mp hsent
    exact hquiet rfl rfl fun _ ↦ rfl
  | claimOnetimeTip queryId timestamps =>
    obtain ⟨_, -, h⟩ := bind_eq_ok.mp h
    obtain ⟨reward, a, s₁, hclaimed⟩ := claimOnetimeTip_claimed h
    apply Relation.ReflTransGen.single
    apply FeedStep.quiet
    · rw [hclaimed.state_eq, (congrArg State.autoPay (payReward_frame hclaimed.paid) :),
        claimTimestamps_frame hclaimed.claimed]
      exact ⟨rfl, rfl, rfl⟩
    · intro key
      exact State.claimedFrom_append (congrArg State.events hclaimed.frame :) key
  | claimTip feedId queryId timestamps =>
    obtain ⟨_, -, h⟩ := bind_eq_ok.mp h
    obtain ⟨_, _, _, _, hclaimed⟩ := claimTip_claimed h
    exact Relation.ReflTransGen.single (.claimed hclaimed)
  | fundFeed feedId queryId amount => cases hcall
  | setupDataFeed queryId reward startTime interval window priceThreshold rewardIncreasePerSecond
      queryData amount => cases hcall
  | tip queryId amount queryData =>
    obtain ⟨_, -, h⟩ := bind_eq_ok.mp h
    obtain ⟨a, htipped⟩ := tip_tipped h
    exact Relation.ReflTransGen.single (.quiet htipped.sameFeeds (claimedFrom_tip h))
  | addStakingRewards amount =>
    obtain ⟨source, -, h⟩ := bind_eq_ok.mp h
    obtain ⟨s₁, hadded, h⟩ := bind_eq_ok.mp h
    cases h
    have hframe := doAddStakingRewards_frame hadded
    have hevents : s₁.events = s.events := (congrArg State.events hframe :)
    split
    · have hdeposited : (s₁.depositEvent (.stakingRewardsAdded source amount)).events =
          s.events ++ [.stakingRewardsAdded source amount] := by rw [← hevents]; rfl
      exact hquiet (congrArg State.autoPay hframe :) hdeposited fun _ ↦ rfl
    · apply Relation.ReflTransGen.single
      exact .of_events (congrArg State.autoPay hframe :)
        (hevents.trans (List.append_nil _).symm) nofun
  | submitValue queryId value nonce queryData =>
    obtain ⟨_, -, h⟩ := bind_eq_ok.mp h
    obtain ⟨_, hsubmission⟩ := submitValue_submission h
    have hframe := hsubmission.state_eq
    exact hquiet (congrArg State.autoPay hframe :) (congrArg State.events hframe :) fun _ ↦ rfl
  | updateStakeAmount =>
    obtain ⟨_, -, h⟩ := bind_eq_ok.mp h
    exact Relation.ReflTransGen.single (feedStep_updateStakeAmount h)
  | beginDispute queryId timestamp beneficiary =>
    obtain ⟨_, -, h⟩ := bind_eq_ok.mp h
    obtain ⟨_, dispute, _, s₁, -, -, hprepared, hopened⟩ := beginDispute_eq_ok h
    have hfirst : Relation.ReflTransGen (FeedStep cfg) (s, funded) (s₁, funded) := by
      rcases hprepared with ⟨-, iterations, hfirst⟩ | ⟨-, rfl, -⟩
      · have hframe := hfirst.state_eq
        exact hquiet (congrArg State.autoPay hframe :) (congrArg State.events hframe :) fun _ ↦ rfl
      · exact Relation.ReflTransGen.refl
    have hframe := hopened.state_eq
    exact hfirst.tail (.of_events (congrArg State.autoPay hframe :) (congrArg State.events hframe :) (by
      simp [Event.claimedFrom]))
  | vote disputeId supports =>
    obtain ⟨voter, -, h⟩ := bind_eq_ok.mp h
    obtain ⟨_, hcast⟩ := doVote_cast h
    have hframe := hcast.state_eq
    exact hquiet (congrArg State.autoPay hframe :) (congrArg State.events hframe :) fun _ ↦ rfl
  | voteOnMultipleDisputes votes =>
    obtain ⟨voter, -, h⟩ := bind_eq_ok.mp h
    exact feedSteps_votes h
  | sendVotes maxVotes =>
    obtain ⟨_, -, h⟩ := bind_eq_ok.mp h
    cases h
    exact feedSteps_doSendVotes send s s.now maxVotes
  | reportVoteTallied disputeId result =>
    obtain ⟨_, -, h⟩ := bind_eq_ok.mp h
    obtain ⟨_, _, htallied⟩ := tallyVotes_tallied h
    have hframe := htallied.state_eq
    exact hquiet (congrArg State.autoPay hframe :) (congrArg State.events hframe :) fun _ ↦ rfl
  | reportVoteExecuted disputeId =>
    obtain ⟨_, -, h⟩ := bind_eq_ok.mp h
    obtain ⟨_, _, _, hexecuted⟩ := executeVote_executed h
    have hframe := hexecuted.state_eq
    exact hquiet (congrArg State.autoPay hframe :) (congrArg State.events hframe :) fun _ ↦ rfl
  | _ =>
    obtain ⟨_, hevent, hframe⟩ := reportsStake_frame rfl h
    exact hquiet (congrArg State.autoPay hframe :) (congrArg State.events hframe :)
      (claimedFrom_of_reportsStake hevent)

/-- A call that pays into a feed sets it up, or funds it, or both. -/
theorem funding_feedSteps {send : Sender} {origin : Origin AccountId} {call : Call AccountId}
    {key : QueryId × FeedId} {amount : ℕ}
    (hadmits : FeedIdsApart cfg s (.extrinsic send origin call))
    (hcovered : feedBalances s.autoPay ≤ s.ledger cfg.tips)
    (hcall : call.funding cfg = some (key, amount)) (h : dispatch cfg send s origin call = .ok s') :
    Relation.ReflTransGen (FeedStep cfg) (s, funded)
      (s', Function.update funded key (funded key + amount)) := by
  have hmem : cfg.tips ∈ palletAccounts cfg := by simp [palletAccounts]
  have hsigner : ∀ account, origin = .signed account → account ≠ cfg.tips :=
    fun account horigin heq ↦ hadmits.1 cfg.tips hmem (heq ▸ horigin)
  cases call with
  | fundFeed feedId queryId amount =>
    cases hcall
    obtain ⟨feedFunder, horigin, h⟩ := bind_eq_ok.mp h
    obtain ⟨feed, hfunded⟩ := doFundFeed_funded h
    have hle : feed.balance ≤ s.ledger cfg.tips :=
      (FiniteMap.le_total hfunded.feed_eq fun _ feed ↦ feed.balance).trans hcovered
    have hfits := hfunded.fits (hsigner feedFunder (ensureSigned_eq_ok.mp horigin)) hle
    exact Relation.ReflTransGen.single (.funded hfits hfunded (claimedFrom_doFundFeed h))
  | setupDataFeed queryId reward startTime interval window priceThreshold rewardIncreasePerSecond
      queryData amount =>
    cases hcall
    obtain ⟨feedCreator, horigin, h⟩ := bind_eq_ok.mp h
    obtain ⟨s₁, hstored, hsetup, hrest⟩ := setupDataFeed_eq_ok h
    have hapart : ∀ q, q ≠ queryId → s.autoPay.dataFeeds.lookup (q, feedIdOf cfg queryId
        (newFeed reward startTime interval window priceThreshold rewardIncreasePerSecond)) = none := by
      intro q hq
      cases hlookup : s.autoPay.dataFeeds.lookup (q, feedIdOf cfg queryId
        (newFeed reward startTime interval window priceThreshold rewardIncreasePerSecond)) with
      | none => rfl
      | some feed => exact absurd (hadmits.2 _ rfl _ (FiniteMap.mem_keys_of_lookup hlookup) rfl) hq
    have hfirst : Relation.ReflTransGen (FeedStep cfg) (s, funded) (s₁, funded) := by
      apply Relation.ReflTransGen.single
      apply FeedStep.setUp rfl hapart hsetup
      rw [hstored]
      exact claimedFrom_storeFeed
    rcases hrest with ⟨rfl, rfl⟩ | hfund
    · rw [Nat.add_zero, Function.update_eq_self]
      exact hfirst
    · obtain ⟨feed, hfunded⟩ := doFundFeed_funded hfund
      have hnew : feed.balance = 0 := by
        have hlookup := hfunded.feed_eq
        rw [hsetup.autoPay_eq, Finmap.lookup_insert] at hlookup
        rw [← Option.some.inj hlookup]
        rfl
      have hfits := hfunded.fits (hsigner feedCreator (ensureSigned_eq_ok.mp horigin))
        (hnew.le.trans (Nat.zero_le _))
      exact hfirst.tail (.funded hfits hfunded (claimedFrom_doFundFeed hfund))
  | _ => cases hcall

/-- Every input is a sequence of such moves. -/
theorem step_feedSteps {input : Input AccountId} (hadmits : FeedIdsApart cfg s input)
    (hcovered : feedBalances s.autoPay ≤ s.ledger cfg.tips) :
    Relation.ReflTransGen (FeedStep cfg) (s, funded)
      (step cfg input s, recordFunding cfg s input funded) := by
  have hsame : ∀ {s'' : State AccountId}, s''.autoPay = s.autoPay → s''.events = s.events →
      Relation.ReflTransGen (FeedStep cfg) (s, funded) (s'', funded) := by
    intro s'' hautoPay hevents
    apply Relation.ReflTransGen.single
    exact .of_events hautoPay (hevents.trans (List.append_nil _).symm) nofun
  cases input with
  | newBlock blockNumber now => exact hsame rfl rfl
  | external account balance => exact hsame rfl rfl
  | onInitialize send => exact (feedSteps_updatePrices s).trans (feedSteps_doSendVotes send _ _ _)
  | extrinsic send origin call =>
    change Relation.ReflTransGen _ _ (applyCall cfg send s origin call, _)
    cases haccepted : dispatch cfg send s origin call with
    | error e =>
      rw [applyCall, haccepted]
      unfold recordFunding
      dsimp only
      rw [haccepted]
      cases call.funding cfg <;> exact Relation.ReflTransGen.refl
    | ok s' =>
      rw [applyCall, haccepted]
      unfold recordFunding
      dsimp only
      rw [haccepted]
      cases hcall : call.funding cfg with
      | none => exact dispatch_feedSteps hcall haccepted
      | some funding => exact funding_feedSteps hadmits hcovered hcall haccepted

end Steps

end TellorPallet
