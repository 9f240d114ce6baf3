import TellorPallet.AutoPay.FeedIndex
import TellorPallet.AutoPay.Listing

/-!
# Listed details

The details of funded feeds and tipped queries are looked up through three further maps: from a feed
to its query, from both to the terms of the feed, and from a query to its data. Keys are hashes of what
is stored under them. In every reachable state no listed item is dropped on the way, and each detail
that is listed hashes to the identifier it is listed for.
-/

namespace TellorPallet

open Outcome Transition

variable {AccountId : Type} [DecidableEq AccountId] (cfg : Config AccountId)

section Reads

variable (s : State AccountId)

/-- `get_query_data`. -/
def getQueryData (queryId : QueryId) : Option QueryData := s.queryData.lookup queryId

/-- `get_query_id_from_feed_id`. -/
def getQueryIdFromFeedId (feedId : FeedId) : Option QueryId :=
  s.autoPay.queryIdFromDataFeedId.lookup feedId

/-- `get_data_feed`. -/
def getDataFeed (feedId : FeedId) : Option Feed :=
  (s.autoPay.queryIdFromDataFeedId.lookup feedId).bind fun queryId ↦
    s.autoPay.dataFeeds.lookup (queryId, feedId)

/-- `get_current_feeds`. -/
def getCurrentFeeds (queryId : QueryId) : List FeedId :=
  ((s.autoPay.dataFeeds.keys.filter fun key ↦ key.1 = queryId).image Prod.snd).sort (· ≤ ·)

/-- `get_funded_feeds`. -/
def getFundedFeeds : List FeedId := FiniteMap.sortedKeys s.autoPay.feedsWithFunding

/-- `get_funded_feed_details`. -/
def getFundedFeedDetails : List (Feed × QueryData) :=
  (getFundedFeeds s).filterMap fun feedId ↦
    (getDataFeed s feedId).bind fun feedDetail ↦
      (getQueryIdFromFeedId s feedId).bind fun queryId ↦
        (getQueryData s queryId).map fun queryData ↦ (feedDetail, queryData)

end Reads

/-! ## The invariant -/

/-- Everything stored for a listing is stored under its hash, and nothing that a listing needs is
missing. -/
structure Described (s : State AccountId) : Prop where
  data : ∀ queryId queryData, s.queryData.lookup queryId = some queryData →
    cfg.keccak256 queryData = queryId
  feed : ∀ queryId feedId feed, s.autoPay.dataFeeds.lookup (queryId, feedId) = some feed →
    feedIdOf cfg queryId feed = feedId ∧ queryId ∈ s.queryData ∧
      feedId ∈ s.autoPay.queryIdFromDataFeedId
  query : ∀ feedId queryId, s.autoPay.queryIdFromDataFeedId.lookup feedId = some queryId →
    (queryId, feedId) ∈ s.autoPay.dataFeeds
  funded : ∀ feedId, feedId ∈ s.autoPay.feedsWithFunding → feedId ∈ s.autoPay.queryIdFromDataFeedId
  tipped : ∀ queryId, 0 < s.autoPay.countTips queryId → queryId ∈ s.queryData
  listed : ∀ queryId, queryId ∈ s.autoPay.queryIdsWithFunding → queryId ∈ s.queryData

/-- The stored feeds are the same but for their balances. -/
def SameTerms (before after : FiniteMap (QueryId × FeedId) Feed) : Prop :=
  (∀ key, key ∈ after ↔ key ∈ before) ∧ ∀ queryId feedId feed,
    after.lookup (queryId, feedId) = some feed → ∃ earlier,
      before.lookup (queryId, feedId) = some earlier ∧
        feedIdOf cfg queryId feed = feedIdOf cfg queryId earlier

/-- What an input does to the items that a listing reads. -/
inductive DetailsMove (s s' : State AccountId) : Prop where
  /-- Nothing is stored that was not there, apart from the listing of a stored feed. -/
  | kept (hdata : s'.queryData = s.queryData)
      (hfeeds : SameTerms cfg s.autoPay.dataFeeds s'.autoPay.dataFeeds)
      (hindex : s'.autoPay.queryIdFromDataFeedId = s.autoPay.queryIdFromDataFeedId)
      (hfunded : ∀ feedId, feedId ∈ s'.autoPay.feedsWithFunding →
        feedId ∈ s.autoPay.feedsWithFunding ∨ ∃ queryId, (queryId, feedId) ∈ s.autoPay.dataFeeds)
      (hcount : s'.autoPay.tipCount = s.autoPay.tipCount)
      (hlisted : ∀ queryId, queryId ∈ s'.autoPay.queryIdsWithFunding →
        queryId ∈ s.autoPay.queryIdsWithFunding)
  | setUp {feedCreator : AccountId} {queryId : QueryId} {feed : Feed} {queryData : QueryData}
      (hhash : cfg.keccak256 queryData = queryId)
      (h : s' = storeFeed s feedCreator queryId (feedIdOf cfg queryId feed) feed queryData)
  | tipped {queryId : QueryId} {queryData : QueryData} (hhash : cfg.keccak256 queryData = queryId)
      (hdata : s'.queryData =
        if s.autoPay.countTips queryId = 0 then s.queryData.insert queryId queryData else s.queryData)
      (hfeeds : s'.autoPay.dataFeeds = s.autoPay.dataFeeds)
      (hindex : s'.autoPay.queryIdFromDataFeedId = s.autoPay.queryIdFromDataFeedId)
      (hfunded : s'.autoPay.feedsWithFunding = s.autoPay.feedsWithFunding)
      (hcount : ∀ q, q ≠ queryId → s'.autoPay.countTips q = s.autoPay.countTips q)
      (hlisted : ∀ q, q ∈ s'.autoPay.queryIdsWithFunding →
        q = queryId ∨ q ∈ s.autoPay.queryIdsWithFunding)

section Moves

variable {cfg} {s s' : State AccountId}

omit [DecidableEq AccountId] in
theorem SameTerms.refl (feeds : FiniteMap (QueryId × FeedId) Feed) : SameTerms cfg feeds feeds :=
  ⟨fun _ ↦ Iff.rfl, fun _ _ feed hfeed ↦ ⟨feed, hfeed, rfl⟩⟩

omit [DecidableEq AccountId] in
/-- A stored feed gets another balance. -/
theorem SameTerms.setBalance {feeds : FiniteMap (QueryId × FeedId) Feed} {key : QueryId × FeedId}
    {feed : Feed} (hfeed : feeds.lookup key = some feed) (balance : ℕ) :
    SameTerms cfg feeds (feeds.insert key { feed with balance := balance }) := by
  refine ⟨fun other ↦ ?_, fun queryId feedId found hfound ↦ ?_⟩
  · rw [Finmap.mem_insert]
    refine ⟨?_, Or.inr⟩
    rintro (rfl | hmem)
    · exact Finmap.mem_iff.mpr ⟨feed, hfeed⟩
    · exact hmem
  · rw [FiniteMap.lookup_insert_ite] at hfound
    split at hfound
    · next heq =>
      cases hfound
      exact ⟨feed, heq ▸ hfeed, rfl⟩
    · exact ⟨found, hfound, rfl⟩

omit [DecidableEq AccountId] in
theorem DetailsMove.of_eq (hautoPay : s'.autoPay = s.autoPay) (hdata : s'.queryData = s.queryData) :
    DetailsMove cfg s s' := by
  refine .kept hdata ?_ ?_ ?_ ?_ ?_ <;> rw [hautoPay]
  · exact .refl _
  · exact fun _ ↦ Or.inl
  · exact fun _ ↦ id

/-! ## What an input does to it -/

omit [DecidableEq AccountId] in
theorem described_of_storeFeed {feedCreator : AccountId} {queryId : QueryId} {feed : Feed}
    {queryData : QueryData} (hhash : cfg.keccak256 queryData = queryId) (hinv : Described cfg s) :
    Described cfg
      (storeFeed s feedCreator queryId (feedIdOf cfg queryId feed) feed queryData) := by
  have hdata : ∀ q, q ∈ s.queryData → q ∈ s.queryData.insert queryId queryData :=
    fun q hq ↦ Finmap.mem_insert.mpr (Or.inr hq)
  refine ⟨fun q data hlookup ↦ ?_, fun q f found hfound ↦ ?_, fun f q hq ↦ ?_, fun f hf ↦ ?_,
    fun q hq ↦ hdata q (hinv.tipped q hq), fun q hq ↦ hdata q (hinv.listed q hq)⟩
  · change (s.queryData.insert queryId queryData).lookup q = some data at hlookup
    rw [FiniteMap.lookup_insert_ite] at hlookup
    split at hlookup
    · next heq =>
      cases hlookup
      rw [hhash, heq]
    · exact hinv.data q data hlookup
  · change (s.autoPay.dataFeeds.insert (queryId, feedIdOf cfg queryId feed) feed).lookup (q, f) =
      some found at hfound
    change feedIdOf cfg q found = f ∧ q ∈ s.queryData.insert queryId queryData ∧
      f ∈ s.autoPay.queryIdFromDataFeedId.insert (feedIdOf cfg queryId feed) queryId
    rw [FiniteMap.lookup_insert_ite] at hfound
    split at hfound
    · next heq =>
      cases hfound
      cases heq
      exact ⟨rfl, Finmap.mem_insert.mpr (Or.inl rfl), Finmap.mem_insert.mpr (Or.inl rfl)⟩
    · obtain ⟨hterms, hq, hf⟩ := hinv.feed q f found hfound
      exact ⟨hterms, hdata q hq, Finmap.mem_insert.mpr (Or.inr hf)⟩
  · change (s.autoPay.queryIdFromDataFeedId.insert (feedIdOf cfg queryId feed) queryId).lookup f =
      some q at hq
    change (q, f) ∈ s.autoPay.dataFeeds.insert (queryId, feedIdOf cfg queryId feed) feed
    rw [FiniteMap.lookup_insert_ite] at hq
    split at hq
    · next heq =>
      cases hq
      exact Finmap.mem_insert.mpr (Or.inl (by rw [heq]))
    · exact Finmap.mem_insert.mpr (Or.inr (hinv.query f q hq))
  · exact Finmap.mem_insert.mpr (Or.inr (hinv.funded f hf))

omit [DecidableEq AccountId] in
/-- The state after any move is described. -/
theorem DetailsMove.described (h : DetailsMove cfg s s') (hinv : Described cfg s) :
    Described cfg s' := by
  cases h with
  | kept hdata hfeeds hindex hfunded hcount hlisted =>
    refine ⟨?_, fun q f feed hfeed ↦ ?_, fun f q hq ↦ ?_, fun f hf ↦ ?_, fun q hq ↦ ?_, fun q hq ↦ ?_⟩
    · rw [hdata]
      exact hinv.data
    · obtain ⟨earlier, hearlier, hterms⟩ := hfeeds.2 q f feed hfeed
      rw [hterms, hdata, hindex]
      exact hinv.feed q f earlier hearlier
    · rw [hindex] at hq
      exact (hfeeds.1 _).mpr (hinv.query f q hq)
    · rw [hindex]
      rcases hfunded f hf with hold | ⟨q, hstored⟩
      · exact hinv.funded f hold
      · obtain ⟨feed, hfeed⟩ := Finmap.mem_iff.mp hstored
        exact (hinv.feed q f feed hfeed).2.2
    · rw [AutoPay.countTips, hcount] at hq
      rw [hdata]
      exact hinv.tipped q hq
    · rw [hdata]
      exact hinv.listed q (hlisted q hq)
  | setUp hhash h =>
    rw [h]
    exact described_of_storeFeed hhash hinv
  | @tipped queryId queryData hhash hdata hfeeds hindex hfunded hcount hlisted =>
    -- the data of the query is stored by its first tip
    have hstored : queryId ∈ s'.queryData := by
      rw [hdata]
      split
      · exact Finmap.mem_insert.mpr (Or.inl rfl)
      · next hsome => exact hinv.tipped queryId (Nat.pos_of_ne_zero hsome)
    have hkept : ∀ q, q ∈ s.queryData → q ∈ s'.queryData := by
      intro q hq
      rw [hdata]
      split
      · exact Finmap.mem_insert.mpr (Or.inr hq)
      · exact hq
    refine ⟨fun q data hlookup ↦ ?_, fun q f feed hfeed ↦ ?_, ?_, ?_, fun q hq ↦ ?_, fun q hq ↦ ?_⟩
    · rw [hdata] at hlookup
      split at hlookup
      · rw [FiniteMap.lookup_insert_ite] at hlookup
        split at hlookup
        · next heq =>
          cases hlookup
          rw [hhash, heq]
        · exact hinv.data q data hlookup
      · exact hinv.data q data hlookup
    · rw [hfeeds] at hfeed
      obtain ⟨hterms, hq, hf⟩ := hinv.feed q f feed hfeed
      rw [hindex]
      exact ⟨hterms, hkept q hq, hf⟩
    · rw [hindex, hfeeds]
      exact hinv.query
    · rw [hfunded, hindex]
      exact hinv.funded
    · by_cases heq : q = queryId
      · exact heq ▸ hstored
      · rw [hcount q heq] at hq
        exact hkept q (hinv.tipped q hq)
    · rcases hlisted q hq with rfl | hold
      · exact hstored
      · exact hkept q (hinv.listed q hold)

omit [DecidableEq AccountId] in
theorem described_of_moves (h : Relation.ReflTransGen (DetailsMove cfg) s s')
    (hinv : Described cfg s) : Described cfg s' := by
  induction h with
  | refl => exact hinv
  | tail _ hmove ih => exact hmove.described ih

theorem FeedFunded.detailsMove {feedFunder : AccountId} {feedId : FeedId} {queryId : QueryId}
    {amount : ℕ} {feed : Feed} (h : FeedFunded cfg s feedFunder feedId queryId amount feed s') :
    DetailsMove cfg s s' := by
  have hautoPay := h.autoPay_eq
  refine .kept (congrArg State.queryData h.frame :) ?_ ?_ (fun f hf ↦ ?_) ?_ (fun q hq ↦ ?_)
  · rw [hautoPay]
    exact .setBalance h.feed_eq _
  · rw [hautoPay]
  · rw [hautoPay] at hf
    rcases Finmap.mem_insert.mp hf with rfl | hold
    · exact Or.inr ⟨queryId, Finmap.mem_iff.mpr ⟨feed, h.feed_eq⟩⟩
    · exact Or.inl hold
  · rw [hautoPay]
  · rwa [hautoPay] at hq

/-- The loop of a claim takes feeds off the list only. -/
theorem claimFeedTimestamps_funded {o : Oracle AccountId} {now : ℕ} {feedId : FeedId}
    {queryId : QueryId} {reporter : AccountId} {balance reward reward' : ℕ} {last : Option ℕ}
    {timestamps : List ℕ} {a a' : AutoPay AccountId}
    (h : claimFeedTimestamps cfg o now feedId queryId reporter balance last timestamps (reward, a) =
      .ok (reward', a')) (f : FeedId) (hf : f ∈ a'.feedsWithFunding) : f ∈ a.feedsWithFunding := by
  induction timestamps generalizing reward a with
  | nil =>
    cases h
    exact hf
  | cons timestamp rest ih =>
    simp only [claimFeedTimestamps, claimFeedTimestamp, bind_eq_ok] at h
    obtain ⟨_, ⟨_, -, _, -, _, -, amount, -, ⟨capped, a₁⟩, hcap, hclaimed⟩, hrest⟩ := h
    cases hclaimed
    have hmid := ih hrest
    change f ∈ a₁.feedsWithFunding at hmid
    unfold capReward at hcap
    split at hcap
    · obtain ⟨_, -, hcap⟩ := bind_eq_ok.mp hcap
      cases hcap
      exact (Finmap.mem_erase.mp hmid).2
    · cases hcap
      exact hmid

theorem FeedClaimed.detailsMove {reporter : AccountId} {feedId : FeedId} {queryId : QueryId}
    {timestamps : List ℕ} {feed : Feed} {reward : ℕ} {a : AutoPay AccountId} {s₁ : State AccountId}
    (h : FeedClaimed cfg s reporter feedId queryId timestamps feed reward a s₁ s') :
    DetailsMove cfg s s' := by
  have hpaid : s'.autoPay = { a with
      dataFeeds := a.dataFeeds.insert (queryId, feedId)
        { feed with balance := feed.balance - reward } } := by
    rw [h.state_eq]
    exact (congrArg State.autoPay (payReward_frame h.paid) :)
  have hloop := claimFeedTimestamps_frame h.claimed
  refine .kept (congrArg State.queryData h.frame :) ?_ ?_ (fun f hf ↦ Or.inl ?_) ?_ (fun q hq ↦ ?_)
  · rw [hpaid, hloop]
    exact .setBalance h.feed_eq _
  · rw [hpaid, hloop]
  · rw [hpaid] at hf
    exact claimFeedTimestamps_funded h.claimed f hf
  · rw [hpaid, hloop]
  · rwa [hpaid, hloop] at hq

theorem detailsMove_of_claim {reporter : AccountId} {queryId : QueryId} {timestamps : List ℕ}
    (h : claimOnetimeTip cfg s reporter queryId timestamps = .ok s') : DetailsMove cfg s s' := by
  simp only [claimOnetimeTip, bind_eq_ok, guard_eq_ok, exists_const] at h
  obtain ⟨-, ⟨reward, a⟩, hclaimed, s₁, hpaid, h⟩ := h
  have hframe := payReward_frame hpaid
  have hautoPay : s₁.autoPay = { s.autoPay with tips := a.tips } :=
    (congrArg State.autoPay hframe :).trans (claimTimestamps_frame hclaimed)
  have hdata : s₁.queryData = s.queryData := (congrArg State.queryData hframe :)
  cases h
  split
  all_goals
    refine .kept hdata ?_ ?_ (fun f hf ↦ Or.inl ?_) ?_ (fun q hq ↦ ?_)
    all_goals dsimp only [State.depositEvent] at *
  · rw [hautoPay]
    exact .refl _
  · rw [hautoPay]
  · rwa [hautoPay] at hf
  · rw [hautoPay]
  · have hmem := (Finmap.mem_erase.mp hq).2
    rwa [hautoPay] at hmem
  · rw [hautoPay]
    exact .refl _
  · rw [hautoPay]
  · rwa [hautoPay] at hf
  · rw [hautoPay]
  · rwa [hautoPay] at hq

theorem detailsMove_of_tip {tipper : AccountId} {queryId : QueryId} {amount : ℕ}
    {queryData : QueryData} (h : tip cfg s tipper queryId amount queryData = .ok s') :
    DetailsMove cfg s s' := by
  have hhash : cfg.keccak256 queryData = queryId := by
    simp only [tip, bind_eq_ok, guard_eq_ok, exists_const] at h
    exact h.1.symm
  obtain ⟨a, hstored⟩ := tip_stored h
  obtain ⟨_, htipped⟩ := tip_tipped h
  have hsame := htipped.sameFeeds
  refine .tipped hhash hstored.queryData_eq hsame.dataFeeds_eq hsame.queryIds_eq
    hsame.feedsWithFunding_eq (fun q hq ↦ ?_) (fun q hq ↦ ?_)
  · rw [AutoPay.countTips, hstored.tipCount]
    exact hstored.added.count_other hq
  · have hindex : a.queryIdsWithFunding = s.autoPay.queryIdsWithFunding := by
      cases hstored.added <;> rfl
    rw [hstored.queryIdsWithFunding, AutoPay.listFunded] at hq
    split at hq
    · rcases Finmap.mem_insert.mp hq with heq | hold
      · exact Or.inl heq
      · exact Or.inr (hindex ▸ hold)
    · exact Or.inr (hindex ▸ hq)

theorem detailsMoves_of_setup {feedCreator : AccountId} {queryId : QueryId} {feed : Feed}
    {queryData : QueryData} {amount : ℕ}
    (h : setupDataFeed cfg s feedCreator queryId feed queryData amount = .ok s') :
    Relation.ReflTransGen (DetailsMove cfg) s s' := by
  have hhash : cfg.keccak256 queryData = queryId := by
    simp only [setupDataFeed, bind_eq_ok, guard_eq_ok, exists_const] at h
    exact h.1.symm
  obtain ⟨s₁, hstored, -, hrest⟩ := setupDataFeed_eq_ok h
  have hsetup : DetailsMove cfg s s₁ := .setUp hhash hstored
  rcases hrest with ⟨-, rfl⟩ | hfund
  · exact .single hsetup
  · obtain ⟨_, hfunded⟩ := doFundFeed_funded hfund
    exact (Relation.ReflTransGen.single hsetup).tail hfunded.detailsMove

theorem minor_detailsMove (h : Relation.ReflTransGen (Minor cfg) s s') : DetailsMove cfg s s' := by
  apply DetailsMove.of_eq (minor_autoPay_eq h)
  induction h with
  | refl => rfl
  | tail _ hlast ih => exact hlast.queryData_eq.trans ih

theorem dispatch_details {send : Sender} {origin : Origin AccountId} {call : Call AccountId}
    (h : dispatch cfg send s origin call = .ok s') :
    Relation.ReflTransGen (DetailsMove cfg) s s' := by
  have hminor : Relation.ReflTransGen (Minor cfg) s s' →
      Relation.ReflTransGen (DetailsMove cfg) s s' :=
    fun hminor ↦ .single (minor_detailsMove hminor)
  have hquiet : s'.autoPay = s.autoPay → s'.queryData = s.queryData →
      Relation.ReflTransGen (DetailsMove cfg) s s' :=
    fun hautoPay hdata ↦ .single (.of_eq hautoPay hdata)
  cases call with
  | register gasLimit =>
    obtain ⟨_, -, h⟩ := bind_eq_ok.mp h
    exact hminor (minor_register h)
  | claimOnetimeTip queryId timestamps =>
    obtain ⟨_, -, h⟩ := bind_eq_ok.mp h
    exact .single (detailsMove_of_claim h)
  | claimTip feedId queryId timestamps =>
    obtain ⟨_, -, h⟩ := bind_eq_ok.mp h
    obtain ⟨_, _, _, _, hclaimed⟩ := claimTip_claimed h
    exact .single hclaimed.detailsMove
  | fundFeed feedId queryId amount =>
    obtain ⟨_, -, h⟩ := bind_eq_ok.mp h
    obtain ⟨_, hfunded⟩ := doFundFeed_funded h
    exact .single hfunded.detailsMove
  | setupDataFeed queryId reward startTime interval window priceThreshold rewardIncreasePerSecond
      queryData amount =>
    obtain ⟨_, -, h⟩ := bind_eq_ok.mp h
    exact detailsMoves_of_setup h
  | tip queryId amount queryData =>
    obtain ⟨_, -, h⟩ := bind_eq_ok.mp h
    exact .single (detailsMove_of_tip h)
  | addStakingRewards amount =>
    obtain ⟨source, -, h⟩ := bind_eq_ok.mp h
    obtain ⟨_, hadded, hevents, -⟩ := addStakingRewards_eq_ok h
    have hframe := doAddStakingRewards_frame hadded
    exact hquiet ((congrArg State.autoPay hevents :).trans (congrArg State.autoPay hframe :))
      ((congrArg State.queryData hevents :).trans (congrArg State.queryData hframe :))
  | submitValue queryId value nonce queryData =>
    obtain ⟨reporter, -, h⟩ := bind_eq_ok.mp h
    obtain ⟨_, hsubmission⟩ := submitValue_submission h
    have hframe := hsubmission.state_eq
    exact hquiet (congrArg State.autoPay hframe :) (congrArg State.queryData hframe :)
  | updateStakeAmount =>
    obtain ⟨_, -, h⟩ := bind_eq_ok.mp h
    have hframe := (updateStakeAmount_frame h).1
    exact hquiet (congrArg State.autoPay hframe :) (congrArg State.queryData hframe :)
  | beginDispute queryId timestamp beneficiary =>
    obtain ⟨initiator, -, h⟩ := bind_eq_ok.mp h
    obtain ⟨voteRound, dispute, fee, s₁, -, -, hprepared, hopened⟩ := beginDispute_eq_ok h
    have hopen := hopened.state_eq
    have hautoPay : s'.autoPay = s₁.autoPay := (congrArg State.autoPay hopen :)
    have hdata : s'.queryData = s₁.queryData := (congrArg State.queryData hopen :)
    rcases hprepared with ⟨-, iterations, hremoved⟩ | ⟨-, rfl, -⟩
    · have hframe := hremoved.state_eq
      exact hquiet (hautoPay.trans (congrArg State.autoPay hframe :))
        (hdata.trans (congrArg State.queryData hframe :))
    · exact hquiet hautoPay hdata
  | vote disputeId supports =>
    obtain ⟨voter, -, h⟩ := bind_eq_ok.mp h
    obtain ⟨_, hcast⟩ := doVote_cast h
    exact hminor (Relation.ReflTransGen.single (.voted hcast))
  | voteOnMultipleDisputes votes =>
    obtain ⟨voter, -, h⟩ := bind_eq_ok.mp h
    exact hminor (minor_voteOnMultipleDisputes h)
  | sendVotes maxVotes =>
    obtain ⟨_, -, h⟩ := bind_eq_ok.mp h
    cases h
    exact hminor (minor_doSendVotes send s s.now maxVotes)
  | reportVoteTallied disputeId result =>
    obtain ⟨_, -, h⟩ := bind_eq_ok.mp h
    obtain ⟨_, _, htallied⟩ := tallyVotes_tallied h
    have hframe := htallied.state_eq
    exact hquiet (congrArg State.autoPay hframe :) (congrArg State.queryData hframe :)
  | reportVoteExecuted disputeId =>
    obtain ⟨_, -, h⟩ := bind_eq_ok.mp h
    obtain ⟨_, _, _, hexecuted⟩ := executeVote_executed h
    have hframe := hexecuted.state_eq
    exact hquiet (congrArg State.autoPay hframe :) (congrArg State.queryData hframe :)
  | _ =>
    obtain ⟨_, -, hframe⟩ := reportsStake_frame rfl h
    exact hquiet (congrArg State.autoPay hframe :) (congrArg State.queryData hframe :)

theorem step_details (input : Input AccountId) (s : State AccountId) :
    Relation.ReflTransGen (DetailsMove cfg) s (step cfg input s) := by
  cases input with
  | newBlock blockNumber now => exact .single (.of_eq rfl rfl)
  | external account balance => exact .single (.of_eq rfl rfl)
  | onInitialize send =>
    have hminor : Relation.ReflTransGen (Minor cfg) s (onInitialize cfg send s) :=
      (minor_updatePrices s).trans (minor_doSendVotes send _ _ _)
    exact .single (minor_detailsMove hminor)
  | extrinsic send origin call =>
    change Relation.ReflTransGen (DetailsMove cfg) s (applyCall cfg send s origin call)
    unfold applyCall
    split
    · next s' haccepted => exact dispatch_details haccepted
    · exact .refl

theorem described_of_reachable (h : Reachable cfg s) : Described cfg s := by
  obtain ⟨s₀, hgenesis, hreaches⟩ := h
  have hstep : ∀ s input, Described cfg s → Admissible cfg s input →
      Described cfg (step cfg input s) :=
    fun s input hinv _ ↦ described_of_moves (step_details input s) hinv
  refine Reaches.invariant hstep hreaches ?_
  obtain ⟨ledger, blockNumber, now, -, rfl⟩ := hgenesis
  refine ⟨?_, ?_, ?_, fun _ hf ↦ absurd hf Finmap.notMem_empty, ?_,
    fun _ hq ↦ absurd hq Finmap.notMem_empty⟩
  all_goals simp [State.genesis, AutoPay.countTips]

end Moves

/-! ## The listings -/

/-- A listing that drops nothing and whose entries name what they are listed for. -/
theorem map_filterMap_eq_self {K V : Type} {keys : List K} {read : K → Option V} {name : V → K}
    (h : ∀ key ∈ keys, ∃ value, read key = some value ∧ name value = key) :
    (keys.filterMap read).map name = keys := by
  induction keys with
  | nil => rfl
  | cons key rest ih =>
    obtain ⟨value, hread, hname⟩ := h key (List.mem_cons_self ..)
    rw [List.filterMap_cons, hread]
    dsimp only
    rw [List.map_cons, hname, ih fun other hother ↦ h other (List.mem_cons_of_mem _ hother)]

section Listings

variable {cfg} {s : State AccountId}

omit [DecidableEq AccountId] in
theorem Described.fundedFeed (h : Described cfg s) {feedId : FeedId}
    (hfunded : feedId ∈ s.autoPay.feedsWithFunding) : ∃ queryId feed queryData,
      getQueryIdFromFeedId s feedId = some queryId ∧ getDataFeed s feedId = some feed ∧
        getQueryData s queryId = some queryData ∧
          feedIdOf cfg (cfg.keccak256 queryData) feed = feedId := by
  obtain ⟨queryId, hquery⟩ := Finmap.mem_iff.mp (h.funded feedId hfunded)
  obtain ⟨feed, hfeed⟩ := Finmap.mem_iff.mp (h.query feedId queryId hquery)
  obtain ⟨hterms, hstored, -⟩ := h.feed queryId feedId feed hfeed
  obtain ⟨queryData, hdata⟩ := Finmap.mem_iff.mp hstored
  refine ⟨queryId, feed, queryData, hquery, ?_, hdata, ?_⟩
  · rw [getDataFeed, hquery, Option.bind_some, hfeed]
  · rw [h.data queryId queryData hdata, hterms]

/-- In every reachable state the details of the funded feeds are the funded feeds, one for one: each
hashes to the feed it is listed for, with the data of its query. So do the data of the tipped queries,
and every feed of a query is stored with its terms and its data. -/
theorem listings_of_reachable (h : Reachable cfg s) :
    (getFundedFeedDetails s).map
        (fun details ↦ feedIdOf cfg (cfg.keccak256 details.2) details.1) = getFundedFeeds s ∧
      (getFundedSingleTipsInfo s).map (fun info ↦ cfg.keccak256 info.1) = getFundedQueryIds s ∧
      ∀ queryId, ∀ feedId ∈ getCurrentFeeds s queryId, ∃ feed queryData,
        s.autoPay.dataFeeds.lookup (queryId, feedId) = some feed ∧
          getQueryData s queryId = some queryData ∧ cfg.keccak256 queryData = queryId ∧
            feedIdOf cfg queryId feed = feedId := by
  have hinv := described_of_reachable h
  refine ⟨?_, ?_, fun queryId feedId hfeed ↦ ?_⟩
  · apply map_filterMap_eq_self
    intro feedId hlisted
    rw [getFundedFeeds, FiniteMap.mem_sortedKeys, Finmap.mem_keys] at hlisted
    obtain ⟨queryId, feed, queryData, hquery, hread, hdata, hid⟩ := hinv.fundedFeed hlisted
    refine ⟨(feed, queryData), ?_, hid⟩
    rw [hread, Option.bind_some, hquery, Option.bind_some, hdata, Option.map_some]
  · apply map_filterMap_eq_self
    intro queryId hlisted
    obtain ⟨queryData, hdata⟩ :=
      Finmap.mem_iff.mp (hinv.listed queryId (mem_getFundedQueryIds.mp hlisted))
    refine ⟨(queryData, getCurrentTip s queryId), ?_, hinv.data queryId queryData hdata⟩
    rw [hdata, Option.map_some]
  · simp only [getCurrentFeeds, Finset.mem_sort, Finset.mem_image, Finset.mem_filter] at hfeed
    obtain ⟨⟨q, f⟩, ⟨hmem, rfl⟩, rfl⟩ := hfeed
    obtain ⟨feed, hlookup⟩ := Finmap.mem_iff.mp (Finmap.mem_keys.mp hmem)
    obtain ⟨hterms, hstored, -⟩ := hinv.feed q f feed hlookup
    obtain ⟨queryData, hdata⟩ := Finmap.mem_iff.mp hstored
    exact ⟨feed, queryData, hlookup, hdata, hinv.data q queryData hdata, hterms⟩

end Listings

/-- A funded feed and a tipped query. -/
theorem listings_of_reachable_funded :
    let s := run (step Mock.config) [Mock.block 5, Mock.setUpFeed 5 1000, Mock.tip 6 200] Mock.genesis
    (getFundedFeedDetails s).map
        (fun details ↦ feedIdOf Mock.config (Mock.config.keccak256 details.2) details.1) =
        [Mock.feedId] ∧
      (getFundedSingleTipsInfo s).map (fun info ↦ Mock.config.keccak256 info.1) = [Mock.queryId] :=
  have h := listings_of_reachable (Mock.reachableBy_run
    [Mock.block 5, Mock.setUpFeed 5 1000, Mock.tip 6 200] (by decide +kernel))
  ⟨h.1.trans (by decide +kernel), h.2.1.trans (by decide +kernel)⟩

end TellorPallet
