import TellorPallet.AutoPay.FeedSteps

/-!
# The index of funded feeds

A feed is listed as funded exactly while it has a balance, and the balance is what was paid into it
less what was claimed from it. A claim takes the feed off the list inside its loop, before it reduces
the balance; the two agree afterwards because the loop ends with the whole balance whenever it did so.
-/

namespace TellorPallet

open Outcome

variable {AccountId : Type} [DecidableEq AccountId] {cfg : Config AccountId}

/-- The feeds and their index, with what was paid into each feed. -/
structure FeedsIndexed (cfg : Config AccountId) (s : State AccountId)
    (funded : QueryId × FeedId → ℕ) : Prop where
  query : ∀ queryId feedId, s.autoPay.queryIdFromDataFeedId.lookup feedId = some queryId ↔
    ∃ feed, s.autoPay.dataFeeds.lookup (queryId, feedId) = some feed
  listed : ∀ feedId, s.autoPay.feedsWithFunding.lookup feedId = some () ↔
    ∃ queryId feed, s.autoPay.dataFeeds.lookup (queryId, feedId) = some feed ∧ 0 < feed.balance
  bounded : ∀ key feed, s.autoPay.dataFeeds.lookup key = some feed → feed.balance ≤ cfg.balanceMax
  balance : ∀ key, (s.autoPay.dataFeeds.lookup key).elim 0 Feed.balance + s.claimedFrom key =
    funded key

/-! ## The loop of a claim -/

/-- The index while a claim from a feed with `balance` has come to `reward`: the feed is off the list
exactly when its balance is exhausted. -/
def Delisted (feedId : FeedId) (balance : ℕ) (before : FiniteMap FeedId Unit) (reward : ℕ)
    (after : FiniteMap FeedId Unit) : Prop :=
  (reward < balance ∧ after = before) ∨
    (reward = balance ∧ ∀ f, after.lookup f = if f = feedId then none else before.lookup f)

theorem claimFeedTimestamp_delisted {o : Oracle AccountId} {now timestamp : ℕ} {feedId : FeedId}
    {queryId : QueryId} {reporter : AccountId} {balance reward reward' : ℕ} {last : Option ℕ}
    {before : FiniteMap FeedId Unit} {a a' : AutoPay AccountId} (hbound : balance ≤ cfg.balanceMax)
    (hlisted : Delisted feedId balance before reward a.feedsWithFunding)
    (h : claimFeedTimestamp cfg o now feedId queryId reporter balance last timestamp reward a =
      .ok (reward', a')) :
    Delisted feedId balance before reward' a'.feedsWithFunding := by
  simp only [claimFeedTimestamp, bind_eq_ok] at h
  obtain ⟨_, -, _, -, _, -, amount, -, ⟨capped, a₁⟩, hcap, h⟩ := h
  cases h
  unfold capReward at hcap
  split at hcap
  · obtain ⟨_, -, hcap⟩ := bind_eq_ok.mp hcap
    cases hcap
    refine Or.inr ⟨rfl, fun f ↦ ?_⟩
    rw [FiniteMap.lookup_erase_ite]
    split
    · rfl
    · next hne =>
      rcases hlisted with ⟨-, hsame⟩ | ⟨-, hlookup⟩
      · rw [hsame]
      · rw [hlookup, if_neg hne]
  · next hlt =>
    cases hcap
    rcases hlisted with ⟨-, hsame⟩ | ⟨rfl, -⟩
    · exact Or.inl ⟨not_le.mp hlt, hsame⟩
    · -- an exhausted balance stays exhausted
      exact absurd (Saturating.le_add hbound amount) hlt

theorem claimFeedTimestamps_delisted {o : Oracle AccountId} {now : ℕ} {feedId : FeedId}
    {queryId : QueryId} {reporter : AccountId} {balance reward reward' : ℕ} {last : Option ℕ}
    {timestamps : List ℕ} {before : FiniteMap FeedId Unit} {a a' : AutoPay AccountId}
    (hbound : balance ≤ cfg.balanceMax)
    (hlisted : Delisted feedId balance before reward a.feedsWithFunding)
    (h : claimFeedTimestamps cfg o now feedId queryId reporter balance last timestamps (reward, a) =
      .ok (reward', a')) :
    Delisted feedId balance before reward' a'.feedsWithFunding := by
  induction timestamps generalizing reward a with
  | nil =>
    cases h
    exact hlisted
  | cons timestamp rest ih =>
    simp only [claimFeedTimestamps, bind_eq_ok] at h
    obtain ⟨⟨reward₁, a₁⟩, hclaimed, hrest⟩ := h
    exact ih (claimFeedTimestamp_delisted hbound hlisted hclaimed) hrest

/-! ## Every move keeps the index -/

section Steps

variable {s s' : State AccountId} {funded funded' : QueryId × FeedId → ℕ}

omit [DecidableEq AccountId] in
theorem FeedsIndexed.query_unique (h : FeedsIndexed cfg s funded) {q q' : QueryId} {feedId : FeedId}
    {feed feed' : Feed} (hq : s.autoPay.dataFeeds.lookup (q, feedId) = some feed)
    (hq' : s.autoPay.dataFeeds.lookup (q', feedId) = some feed') : q = q' := by
  have hfirst := (h.query q feedId).mpr ⟨feed, hq⟩
  have hsecond := (h.query q' feedId).mpr ⟨feed', hq'⟩
  rw [hfirst] at hsecond
  exact Option.some.inj hsecond

omit [DecidableEq AccountId] in
/-- The balance of a feed is replaced, the list and the record of what was paid and claimed with it. -/
theorem FeedsIndexed.replace (h : FeedsIndexed cfg s funded) {queryId : QueryId} {feedId : FeedId}
    {feed : Feed} {balance : ℕ} (hfeed : s.autoPay.dataFeeds.lookup (queryId, feedId) = some feed)
    (hfeeds : s'.autoPay.dataFeeds =
      s.autoPay.dataFeeds.insert (queryId, feedId) { feed with balance := balance })
    (hqueries : s'.autoPay.queryIdFromDataFeedId = s.autoPay.queryIdFromDataFeedId)
    (hlisted : ∀ f, s'.autoPay.feedsWithFunding.lookup f =
      if f = feedId then if 0 < balance then some () else none
      else s.autoPay.feedsWithFunding.lookup f)
    (hbound : balance ≤ cfg.balanceMax)
    (hother : ∀ key, key ≠ (queryId, feedId) →
      s'.claimedFrom key = s.claimedFrom key ∧ funded' key = funded key)
    (hbalance : balance + s'.claimedFrom (queryId, feedId) = funded' (queryId, feedId)) :
    FeedsIndexed cfg s' funded' := by
  have hlookup : ∀ key, s'.autoPay.dataFeeds.lookup key =
      if key = (queryId, feedId) then some { feed with balance := balance }
      else s.autoPay.dataFeeds.lookup key := by
    rw [hfeeds]
    exact fun _ ↦ FiniteMap.lookup_insert_ite _ _ _ _
  refine ⟨fun q f ↦ ?_, fun f ↦ ?_, fun key feed' hfeed' ↦ ?_, fun key ↦ ?_⟩
  · rw [hqueries, h.query, hlookup]
    split
    · next heq =>
      rw [heq, hfeed]
      exact ⟨fun _ ↦ ⟨_, rfl⟩, fun _ ↦ ⟨_, rfl⟩⟩
    · rfl
  · rw [hlisted]
    split
    · next heq =>
      rw [heq]
      constructor
      · intro hpositive
        refine ⟨queryId, { feed with balance := balance }, ?_, ?_⟩
        · rw [hlookup, if_pos rfl]
        · by_contra hzero
          rw [if_neg hzero] at hpositive
          cases hpositive
      · rintro ⟨q, feed', hfeed', hpositive⟩
        rw [hlookup] at hfeed'
        split at hfeed'
        · cases hfeed'
          exact if_pos hpositive
        · next hne =>
          rw [h.query_unique hfeed' hfeed] at hne
          exact absurd rfl hne
    · next hne =>
      have hsame : ∀ q, s'.autoPay.dataFeeds.lookup (q, f) = s.autoPay.dataFeeds.lookup (q, f) := by
        intro q
        rw [hlookup, if_neg fun heq ↦ hne (Prod.mk.inj heq).2]
      simp only [hsame]
      exact h.listed f
  · rw [hlookup] at hfeed'
    split at hfeed'
    · cases hfeed'
      exact hbound
    · exact h.bounded key feed' hfeed'
  · rw [hlookup]
    split
    · next heq =>
      rw [heq]
      exact hbalance
    · next hne =>
      rw [(hother key hne).1, (hother key hne).2]
      exact h.balance key

omit [DecidableEq AccountId] in
/-- A new feed has no balance, and its identifier is new to the index. -/
theorem FeedsIndexed.setUp (h : FeedsIndexed cfg s funded) {queryId : QueryId} {feed : Feed}
    (hbalance : feed.balance = 0)
    (hapart : ∀ q, q ≠ queryId → s.autoPay.dataFeeds.lookup (q, feedIdOf cfg queryId feed) = none)
    (hset : FeedSetUp cfg s queryId feed s')
    (hclaims : ∀ key, s'.claimedFrom key = s.claimedFrom key) : FeedsIndexed cfg s' funded := by
  obtain ⟨feedId, hfeedId⟩ : ∃ feedId, feedId = feedIdOf cfg queryId feed := ⟨_, rfl⟩
  have habsent := hset.absent
  have hautoPay := hset.autoPay_eq
  rw [← hfeedId] at hapart habsent hautoPay
  have hnone : ∀ q, s.autoPay.dataFeeds.lookup (q, feedId) = none := by
    intro q
    by_cases hq : q = queryId
    · rw [hq]
      exact habsent
    · exact hapart q hq
  have hlookup : ∀ key, s'.autoPay.dataFeeds.lookup key =
      if key = (queryId, feedId) then some feed else s.autoPay.dataFeeds.lookup key := by
    rw [hautoPay]
    exact fun _ ↦ FiniteMap.lookup_insert_ite _ _ _ _
  refine ⟨fun q f ↦ ?_, fun f ↦ ?_, fun key feed' hfeed' ↦ ?_, fun key ↦ ?_⟩
  · rw [(congrArg AutoPay.queryIdFromDataFeedId hautoPay :), FiniteMap.lookup_insert_ite, hlookup]
    simp only [Prod.mk.injEq]
    split
    · next heq =>
      rw [heq]
      constructor
      · intro hq
        cases hq
        exact ⟨feed, by rw [if_pos ⟨rfl, rfl⟩]⟩
      · rintro ⟨feed', hfeed'⟩
        split at hfeed'
        · next hq => rw [hq.1]
        · rw [hnone] at hfeed'
          cases hfeed'
    · next hne =>
      rw [if_neg fun heq ↦ hne heq.2]
      exact h.query q f
  · rw [(congrArg AutoPay.feedsWithFunding hautoPay :), h.listed]
    constructor
    · rintro ⟨q, feed', hfeed', hpositive⟩
      refine ⟨q, feed', ?_, hpositive⟩
      rw [hlookup, if_neg]
      · exact hfeed'
      · intro heq
        rw [heq, habsent] at hfeed'
        cases hfeed'
    · rintro ⟨q, feed', hfeed', hpositive⟩
      rw [hlookup] at hfeed'
      split at hfeed'
      · cases hfeed'
        rw [hbalance] at hpositive
        exact absurd hpositive (lt_irrefl 0)
      · exact ⟨q, feed', hfeed', hpositive⟩
  · rw [hlookup] at hfeed'
    split at hfeed'
    · cases hfeed'
      rw [hbalance]
      exact Nat.zero_le _
    · exact h.bounded key feed' hfeed'
  · have hbefore := h.balance key
    rw [hlookup, hclaims]
    split
    · next heq =>
      rw [heq, habsent, Option.elim_none] at hbefore
      rw [heq, Option.elim_some, hbalance]
      exact hbefore
    · exact hbefore

/-- Every move of a feed keeps the index. -/
theorem FeedStep.feedsIndexed (h : FeedStep cfg (s, funded) (s', funded'))
    (hinv : FeedsIndexed cfg s funded) : FeedsIndexed cfg s' funded' := by
  cases h with
  | quiet hsame hclaims =>
    refine ⟨?_, ?_, ?_, ?_⟩
    · rw [hsame.queryIds_eq, hsame.dataFeeds_eq]
      exact hinv.query
    · rw [hsame.feedsWithFunding_eq, hsame.dataFeeds_eq]
      exact hinv.listed
    · rw [hsame.dataFeeds_eq]
      exact hinv.bounded
    · intro key
      rw [hsame.dataFeeds_eq, hclaims]
      exact hinv.balance key
  | setUp hbalance hapart h hclaims => exact hinv.setUp hbalance hapart h hclaims
  | @funded _ _ _ _ feedId queryId amount feed hfits h hclaims =>
    have hautoPay := h.autoPay_eq
    rw [Saturating.add_eq hfits] at hautoPay
    refine hinv.replace h.feed_eq (congrArg AutoPay.dataFeeds hautoPay :)
      (congrArg AutoPay.queryIdFromDataFeedId hautoPay :) (fun f ↦ ?_) hfits (fun key hkey ↦ ?_) ?_
    · rw [(congrArg AutoPay.feedsWithFunding hautoPay :), FiniteMap.lookup_insert_ite,
        if_pos (Nat.add_pos_right _ h.amount_pos)]
    · exact ⟨hclaims key, Function.update_of_ne hkey _ _⟩
    · have hbefore := hinv.balance (queryId, feedId)
      rw [h.feed_eq, Option.elim_some] at hbefore
      rw [hclaims, Function.update_self]
      omega
  | @claimed _ _ _ reporter feedId queryId timestamps feed reward a s₁ h =>
    have hbound := hinv.bounded _ feed h.feed_eq
    have hdelisted := claimFeedTimestamps_delisted hbound (Or.inl ⟨h.balance_pos, rfl⟩) h.claimed
    obtain ⟨hreward, ha, -⟩ := claimFeedTimestamps_eq_ok (Nat.zero_le _) h.claimed
    have hautoPay : s'.autoPay = { a with
        dataFeeds := a.dataFeeds.insert (queryId, feedId)
          { feed with balance := feed.balance - reward } } := by
      rw [h.state_eq]
      exact (congrArg State.autoPay (payReward_frame h.paid) :)
    have hclaims : ∀ key, s'.claimedFrom key = s.claimedFrom key +
        if (queryId, feedId) = key then reward else 0 :=
      State.claimedFrom_append (congrArg State.events h.frame :)
    apply hinv.replace h.feed_eq
    · rw [hautoPay, ha]
    · rw [hautoPay, ha]
    · intro f
      rw [(congrArg AutoPay.feedsWithFunding hautoPay :)]
      rcases hdelisted with ⟨hlt, hsame⟩ | ⟨heq, hlookup⟩
      · rw [hsame, if_pos (Nat.sub_pos_of_lt hlt)]
        split
        · next hf =>
          rw [hf]
          exact (hinv.listed feedId).mpr ⟨queryId, feed, h.feed_eq, h.balance_pos⟩
        · rfl
      · rw [hlookup, heq, Nat.sub_self, if_neg (lt_irrefl 0)]
    · exact (Nat.sub_le _ _).trans hbound
    · intro key hkey
      rw [hclaims, if_neg fun heq ↦ hkey heq.symm]
      exact ⟨rfl, rfl⟩
    · have hbefore := hinv.balance (queryId, feedId)
      rw [h.feed_eq, Option.elim_some] at hbefore
      rw [hclaims, if_pos rfl]
      omega

theorem feedsIndexed_of_steps {before after : State AccountId × (QueryId × FeedId → ℕ)}
    (h : Relation.ReflTransGen (FeedStep cfg) before after)
    (hinv : FeedsIndexed cfg before.1 before.2) : FeedsIndexed cfg after.1 after.2 := by
  induction h with
  | refl => exact hinv
  | tail _ hlast ih => exact hlast.feedsIndexed ih

omit [DecidableEq AccountId] in
theorem feedsIndexed_genesis (h : IsGenesis cfg s) : FeedsIndexed cfg s fun _ ↦ 0 := by
  obtain ⟨ledger, blockNumber, now, -, rfl⟩ := h
  constructor <;> simp [State.genesis, State.claimedFrom]

/-! ## Runs -/

/-- The tips account covers the feeds in every reachable state. -/
theorem Reachable.feedBalances_le (h : Reachable cfg s) :
    feedBalances s.autoPay ≤ s.ledger cfg.tips := by
  obtain ⟨history, hrecorded⟩ := ReachableBy.recordedBy cfg h
  have hcovered := (Recorded.payments hrecorded).covered
  omega

theorem ReachedWith.feedsIndexed
    (h : ReachedWith cfg (recordFunding cfg) (fun _ ↦ 0) (FeedIdsApart cfg) s funded) :
    Reachable cfg s ∧ FeedsIndexed cfg s funded := by
  apply h.invariant fun s funded ↦ Reachable cfg s ∧ FeedsIndexed cfg s funded
  · intro s₀ hgenesis
    exact ⟨⟨s₀, hgenesis, Transition.Reaches.refl s₀⟩, feedsIndexed_genesis hgenesis⟩
  · intro mid funded input hinv hadmits
    refine ⟨hinv.1.step cfg hadmits.1, ?_⟩
    exact feedsIndexed_of_steps (step_feedSteps hadmits hinv.1.feedBalances_le) hinv.2

/-- In every state reached without a collision of feed identifiers, a feed identifier is listed as
funded exactly when a feed of that identifier has a balance, it is mapped to the one query that the
feed is stored under, and the balance is what was paid into the feed by accepted calls less the gross
amounts of its `TipClaimed` events. -/
theorem feedIndex_of_reachedWith
    (h : ReachedWith cfg (recordFunding cfg) (fun _ ↦ 0) (FeedIdsApart cfg) s funded) :
    (∀ feedId, s.autoPay.feedsWithFunding.lookup feedId = some () ↔
      ∃ queryId feed, s.autoPay.dataFeeds.lookup (queryId, feedId) = some feed ∧ 0 < feed.balance) ∧
    (∀ queryId feedId, s.autoPay.queryIdFromDataFeedId.lookup feedId = some queryId ↔
      ∃ feed, s.autoPay.dataFeeds.lookup (queryId, feedId) = some feed) ∧
    ∀ key feed, s.autoPay.dataFeeds.lookup key = some feed →
      s.claimedFrom key ≤ funded key ∧ feed.balance = funded key - s.claimedFrom key := by
  have hinv := h.feedsIndexed.2
  refine ⟨hinv.listed, hinv.query, fun key feed hfeed ↦ ?_⟩
  have hbalance := hinv.balance key
  rw [hfeed, Option.elim_some] at hbalance
  omega

end Steps

/-- Of the 1000 paid into the feed of the mock runtime 100 are claimed, and it stays listed. -/
theorem feedIndex_of_reachedWith_payments :
    (Transition.run (Transition.recording (step Mock.config) (recordFunding Mock.config)) Mock.payments
      (Mock.genesis, fun _ ↦ 0)).1.autoPay.feedsWithFunding.lookup Mock.feedId = some () := by
  have hreached : ReachedWith Mock.config (recordFunding Mock.config) (fun _ ↦ 0)
      (FeedIdsApart Mock.config) _ _ := Mock.reachedWith_run Mock.payments (by decide +kernel)
  have hfeed : (Transition.run (Transition.recording (step Mock.config) (recordFunding Mock.config))
      Mock.payments (Mock.genesis, fun _ ↦ 0)).1.autoPay.dataFeeds.lookup
        (Mock.queryId, Mock.feedId) = some ⟨100, 900, Mock.start, 3600, 600, 0, 0⟩ := by
    decide +kernel
  exact ((feedIndex_of_reachedWith hreached).1 Mock.feedId).mpr
    ⟨Mock.queryId, _, hfeed, Nat.succ_pos 899⟩

end TellorPallet
