import TellorPallet.Runtime.Effects

/-!
# Tips and feeds along runs

Of all inputs only the calls of AutoPay touch the tips, the feeds and their indices. The terms of a
feed are fixed when it is set up: from then on only its balance changes.
-/

namespace TellorPallet

open Outcome

variable {AccountId : Type} [DecidableEq AccountId] {cfg : Config AccountId}

/-- What an input does to the tips and feeds. -/
inductive AutoPayStep (cfg : Config AccountId) (s s' : State AccountId) : Prop where
  | unchanged (hautoPay : s'.autoPay = s.autoPay)
  | tipped {tipper : AccountId} {queryId : QueryId} {amount : ℕ} {a : AutoPay AccountId}
      (h : Tipped cfg s tipper queryId amount a s')
  | feedSetUp {queryId : QueryId} {feed : Feed} (hbalance : feed.balance = 0)
      (h : FeedSetUp cfg s queryId feed s')
  | feedSetUpFunded {feedFunder : AccountId} {queryId : QueryId} {feed feed₁ : Feed} {amount : ℕ}
      {s₁ : State AccountId} (hbalance : feed.balance = 0) (h : FeedSetUp cfg s queryId feed s₁)
      (hfunded : FeedFunded cfg s₁ feedFunder (feedIdOf cfg queryId feed) queryId amount feed₁ s')
  | feedFunded {feedFunder : AccountId} {feedId : FeedId} {queryId : QueryId} {amount : ℕ}
      {feed : Feed} (h : FeedFunded cfg s feedFunder feedId queryId amount feed s')
  | onetimeClaimed {reporter : AccountId} {queryId : QueryId} {timestamps : List ℕ} {reward : ℕ}
      {a : AutoPay AccountId} {s₁ : State AccountId}
      (h : OnetimeClaimed cfg s reporter queryId timestamps reward a s₁ s')
  | feedClaimed {reporter : AccountId} {feedId : FeedId} {queryId : QueryId} {timestamps : List ℕ}
      {feed : Feed} {reward : ℕ} {a : AutoPay AccountId} {s₁ : State AccountId}
      (h : FeedClaimed cfg s reporter feedId queryId timestamps feed reward a s₁ s')

theorem Minor.autoPay_eq {s s' : State AccountId} (h : Minor cfg s s') : s'.autoPay = s.autoPay := by
  cases h with
  | funded haccount h => rfl
  | registered hevent h =>
    obtain ⟨-, rfl⟩ := State.sendXcm_eq_ok.mp h
    rfl
  | priced h hquiet => rw [h]
  | voted h => rw [h.state_eq]
  | sent hpending h => rw [h.state_eq]

theorem minor_autoPay_eq {s s' : State AccountId} (h : Relation.ReflTransGen (Minor cfg) s s') :
    s'.autoPay = s.autoPay := by
  induction h with
  | refl => rfl
  | tail _ hlast ih => exact hlast.autoPay_eq.trans ih

theorem Effect.autoPayStep {s s' : State AccountId} {input : Input AccountId}
    (h : Effect cfg s input s') : AutoPayStep cfg s s' := by
  cases h with
  | refused => exact .unchanged rfl
  | minor hinput h => exact .unchanged (minor_autoPay_eq h)
  | newBlock h => exact .unchanged rfl
  | external hbound hpallet => exact .unchanged rfl
  | tipped hsigner h => exact .tipped h
  | feedSetUp hbalance h => exact .feedSetUp hbalance h
  | feedSetUpFunded hsigner hbalance h hfunded => exact .feedSetUpFunded hbalance h hfunded
  | feedFunded hsigner h => exact .feedFunded h
  | onetimeClaimed hsigner h => exact .onetimeClaimed h
  | feedClaimed hsigner h => exact .feedClaimed h
  | rewardsAdded hsigner h hevents hquiet =>
    have hframe := doAddStakingRewards_frame h
    exact .unchanged ((congrArg State.autoPay hevents :).trans (congrArg State.autoPay hframe :))
  | submitted hevent h => exact .unchanged (congrArg State.autoPay h.state_eq :)
  | disputed hsigner hround hmax hprepared hopened =>
    have hopen := hopened.state_eq
    rcases hprepared with ⟨-, iterations, hfirst⟩ | ⟨-, rfl, -⟩
    · have hframe := hfirst.state_eq
      exact .unchanged ((congrArg State.autoPay hopen :).trans (congrArg State.autoPay hframe :))
    · exact .unchanged (congrArg State.autoPay hopen :)
  | tallied h => exact .unchanged (congrArg State.autoPay h.state_eq :)
  | executed h => exact .unchanged (congrArg State.autoPay h.state_eq :)
  | reported hevent haccepted hcall h => exact .unchanged (congrArg State.autoPay h.frame :)
  | withdrawn h => exact .unchanged (congrArg State.autoPay h.state_eq :)

/-! ## The terms of a feed -/

/-- Every feed is still there, with its terms; balances that the balance type held are held by it, and
no feed is without an interval when none was. -/
structure TermsKept (cfg : Config AccountId) (a a' : AutoPay AccountId) : Prop where
  kept : ∀ key feed, a.dataFeeds.lookup key = some feed →
    ∃ balance, a'.dataFeeds.lookup key = some { feed with balance := balance }
  bounded : (∀ key feed, a.dataFeeds.lookup key = some feed → feed.balance ≤ cfg.balanceMax) →
    ∀ key feed, a'.dataFeeds.lookup key = some feed → feed.balance ≤ cfg.balanceMax
  intervals : (∀ key feed, a.dataFeeds.lookup key = some feed → 0 < feed.interval) →
    ∀ key feed, a'.dataFeeds.lookup key = some feed → 0 < feed.interval

section Terms

variable {a a' a'' : AutoPay AccountId}

omit [DecidableEq AccountId] in
theorem TermsKept.of_eq (h : a'.dataFeeds = a.dataFeeds) : TermsKept cfg a a' := by
  refine ⟨fun key feed hfeed ↦ ⟨feed.balance, ?_⟩, fun hbounded ↦ ?_, fun hintervals ↦ ?_⟩
  · rw [h]
    exact hfeed
  · rw [h]
    exact hbounded
  · rw [h]
    exact hintervals

omit [DecidableEq AccountId] in
theorem TermsKept.trans (h : TermsKept cfg a a') (h' : TermsKept cfg a' a'') :
    TermsKept cfg a a'' := by
  refine ⟨fun key feed hfeed ↦ ?_, fun hbounded ↦ h'.bounded (h.bounded hbounded),
    fun hintervals ↦ h'.intervals (h.intervals hintervals)⟩
  obtain ⟨balance, hmid⟩ := h.kept key feed hfeed
  obtain ⟨balance', hlast⟩ := h'.kept key _ hmid
  exact ⟨balance', hlast⟩

omit [DecidableEq AccountId] in
/-- A feed is added or its balance changed. -/
theorem TermsKept.insert {key : QueryId × FeedId} {feed : Feed}
    (h : a'.dataFeeds = a.dataFeeds.insert key feed)
    (hterms : ∀ before, a.dataFeeds.lookup key = some before →
      feed = { before with balance := feed.balance })
    (hbound : (∀ key feed, a.dataFeeds.lookup key = some feed → feed.balance ≤ cfg.balanceMax) →
      feed.balance ≤ cfg.balanceMax)
    (hinterval : (∀ key feed, a.dataFeeds.lookup key = some feed → 0 < feed.interval) →
      0 < feed.interval) : TermsKept cfg a a' := by
  have hlookup : ∀ other, a'.dataFeeds.lookup other =
      if other = key then some feed else a.dataFeeds.lookup other := by
    rw [h]
    exact fun _ ↦ FiniteMap.lookup_insert_ite _ _ _ _
  have hall : ∀ {p : Feed → Prop}, p feed → (∀ key feed, a.dataFeeds.lookup key = some feed → p feed) →
      ∀ key feed, a'.dataFeeds.lookup key = some feed → p feed := by
    intro p hnew hold other after hafter
    rw [hlookup] at hafter
    split at hafter
    · cases hafter
      exact hnew
    · exact hold other after hafter
  refine ⟨fun other before hbefore ↦ ?_, fun hbounded ↦ hall (hbound hbounded) hbounded,
    fun hintervals ↦ hall (hinterval hintervals) hintervals⟩
  rw [hlookup]
  split
  · next heq =>
    rw [heq] at hbefore
    exact ⟨feed.balance, congrArg some (hterms before hbefore)⟩
  · exact ⟨before.balance, hbefore⟩

omit [DecidableEq AccountId] in
theorem FeedSetUp.termsKept {s s' : State AccountId} {queryId : QueryId} {feed : Feed}
    (hbalance : feed.balance = 0) (h : FeedSetUp cfg s queryId feed s') :
    TermsKept cfg s.autoPay s'.autoPay := by
  apply TermsKept.insert (congrArg AutoPay.dataFeeds h.autoPay_eq :)
  · intro before hbefore
    rw [h.absent] at hbefore
    cases hbefore
  · intro _
    rw [hbalance]
    exact Nat.zero_le _
  · exact fun _ ↦ h.interval_pos

theorem FeedFunded.termsKept {s s' : State AccountId} {feedFunder : AccountId} {feedId : FeedId}
    {queryId : QueryId} {amount : ℕ} {feed : Feed}
    (h : FeedFunded cfg s feedFunder feedId queryId amount feed s') :
    TermsKept cfg s.autoPay s'.autoPay := by
  apply TermsKept.insert (congrArg AutoPay.dataFeeds h.autoPay_eq :)
  · intro before hbefore
    rw [h.feed_eq] at hbefore
    cases hbefore
    rfl
  · exact fun _ ↦ Saturating.add_le_bound _ _ _
  · exact fun hintervals ↦ hintervals _ feed h.feed_eq

end Terms

theorem AutoPayStep.termsKept {s s' : State AccountId} (h : AutoPayStep cfg s s') :
    TermsKept cfg s.autoPay s'.autoPay := by
  cases h with
  | unchanged hautoPay => exact .of_eq (congrArg AutoPay.dataFeeds hautoPay :)
  | tipped h =>
    apply TermsKept.of_eq
    rw [h.autoPay_eq]
    cases h.added <;> rfl
  | feedSetUp hbalance h => exact h.termsKept hbalance
  | feedSetUpFunded hbalance h hfunded => exact (h.termsKept hbalance).trans hfunded.termsKept
  | feedFunded h => exact h.termsKept
  | onetimeClaimed h =>
    apply TermsKept.of_eq
    rw [h.state_eq, (congrArg State.autoPay (payReward_frame h.paid) :),
      claimTimestamps_frame h.claimed]
  | @feedClaimed reporter feedId queryId timestamps feed reward a s₁ h =>
    have hautoPay : s'.autoPay.dataFeeds = a.dataFeeds.insert (queryId, feedId)
        { feed with balance := feed.balance - reward } := by
      rw [h.state_eq]
      exact (congrArg (fun s ↦ s.autoPay.dataFeeds) (payReward_frame h.paid) :)
    have hfeeds : a.dataFeeds = s.autoPay.dataFeeds :=
      (congrArg AutoPay.dataFeeds (claimFeedTimestamps_frame h.claimed) :)
    rw [hfeeds] at hautoPay
    apply TermsKept.insert hautoPay
    · intro before hbefore
      rw [h.feed_eq] at hbefore
      cases hbefore
      rfl
    · intro hbounded
      exact (Nat.sub_le _ _).trans (hbounded _ feed h.feed_eq)
    · exact fun hintervals ↦ hintervals _ feed h.feed_eq

omit [DecidableEq AccountId] in
theorem feeds_bounded_genesis {s : State AccountId} (h : IsGenesis cfg s)
    (key : QueryId × FeedId) (feed : Feed) (hfeed : s.autoPay.dataFeeds.lookup key = some feed) :
    feed.balance ≤ cfg.balanceMax := by
  obtain ⟨ledger, blockNumber, now, -, rfl⟩ := h
  simp [State.genesis] at hfeed

theorem Reachable.feeds_bounded {s : State AccountId} (h : Reachable cfg s) :
    ∀ key feed, s.autoPay.dataFeeds.lookup key = some feed → feed.balance ≤ cfg.balanceMax := by
  apply h.invariant fun s : State AccountId ↦
    ∀ key feed, s.autoPay.dataFeeds.lookup key = some feed → feed.balance ≤ cfg.balanceMax
  · exact fun _ hgenesis ↦ feeds_bounded_genesis hgenesis
  · intro s s' input hbounded heffect
    exact heffect.autoPayStep.termsKept.bounded hbounded

/-- Every feed has an interval. -/
theorem Reachable.interval_pos {s : State AccountId} (h : Reachable cfg s) {key : QueryId × FeedId}
    {feed : Feed} (hfeed : s.autoPay.dataFeeds.lookup key = some feed) : 0 < feed.interval := by
  have hintervals : ∀ key feed, s.autoPay.dataFeeds.lookup key = some feed → 0 < feed.interval := by
    refine h.invariant (fun s ↦ ∀ key feed, s.autoPay.dataFeeds.lookup key = some feed →
      0 < feed.interval) (fun s hgenesis ↦ ?_)
      fun _ _ _ hintervals heffect ↦ heffect.autoPayStep.termsKept.intervals hintervals
    obtain ⟨ledger, blockNumber, now, -, rfl⟩ := hgenesis
    intro key feed hfeed
    simp [State.genesis] at hfeed
  exact hintervals key feed hfeed

end TellorPallet
