import TellorPallet.AutoPay.Runs
import TellorPallet.AutoPay.TipClaims

/-!
# Listed queries

The queries with a current tip are kept in an index, from which the funded queries are listed. A tip
adds its query and a claim removes it once no tip is current any more; the current tip itself is
computed from the last report. So a query comes to have a current tip without being listed when a
dispute takes back the report after its last tip, and in no other way.
-/

namespace TellorPallet

open Outcome Transition Predecessor

variable {AccountId : Type} [DecidableEq AccountId] {cfg : Config AccountId}

/-- `get_funded_query_ids`. -/
def getFundedQueryIds (s : State AccountId) : List QueryId :=
  FiniteMap.sortedKeys s.autoPay.queryIdsWithFunding

/-- `get_funded_single_tips_info`. -/
def getFundedSingleTipsInfo (s : State AccountId) : List (QueryData × ℕ) :=
  (getFundedQueryIds s).filterMap fun queryId ↦
    (s.queryData.lookup queryId).map fun queryData ↦ (queryData, getCurrentTip s queryId)

/-- The amount of the last tip entry of a query, when the entry is newer than a report. -/
def AutoPay.openTip (a : AutoPay AccountId) (queryId : QueryId) (reported : ℕ) : ℕ :=
  match a.countTips queryId with
  | 0 => 0
  | count + 1 => (a.tips.lookup (queryId, count)).elim 0 fun lastTip ↦
    if reported < lastTip.timestamp then lastTip.amount else 0

/-- A dispute takes back the last report of a query that is not listed any more, and the last tip is
newer than the report before and unclaimed. -/
def ReopensTip (cfg : Config AccountId) (s : State AccountId) : Input AccountId → Prop
  | .extrinsic send (.signed initiator) (.beginDispute queryId timestamp beneficiary) =>
    (beginDispute cfg send s initiator queryId timestamp beneficiary).isOk = true ∧
      s.governance.rounds (disputeIdOf cfg queryId timestamp) = 0 ∧
      s.oracle.lastReportedTimestamp.lookup queryId = some timestamp ∧
      queryId ∉ getFundedQueryIds s ∧
      0 < s.autoPay.openTip queryId
        (((s.oracle.reports.lookup (queryId, timestamp)).bind Report.previous).getD 0)
  | _ => False

instance (s : State AccountId) (input : Input AccountId) : Decidable (ReopensTip cfg s input) := by
  unfold ReopensTip
  split <;> infer_instance

/-! ## The current tip -/

section CurrentTip

variable {a a' : AutoPay AccountId} {queryId : QueryId}

omit [DecidableEq AccountId] in
theorem getCurrentTip_eq (s : State AccountId) (queryId : QueryId) : getCurrentTip s queryId =
    s.autoPay.openTip queryId ((s.oracle.lastReportedTimestamp.lookup queryId).getD 0) := by
  unfold getCurrentTip AutoPay.openTip
  cases s.autoPay.countTips queryId with
  | zero => rfl
  | succ count =>
    dsimp only
    cases s.autoPay.tips.lookup (queryId, count) <;> rfl

omit [DecidableEq AccountId] in
theorem AutoPay.openTip_of_last {count : ℕ} {lastTip : Tip} (reported : ℕ)
    (hcount : a.countTips queryId = count + 1)
    (hlast : a.tips.lookup (queryId, count) = some lastTip) :
    a.openTip queryId reported = if reported < lastTip.timestamp then lastTip.amount else 0 := by
  rw [AutoPay.openTip, hcount]
  dsimp only
  rw [hlast, Option.elim_some]

omit [DecidableEq AccountId] in
theorem AutoPay.openTip_congr (hcount : a'.countTips queryId = a.countTips queryId)
    (htips : ∀ i, a'.tips.lookup (queryId, i) = a.tips.lookup (queryId, i)) (reported : ℕ) :
    a'.openTip queryId reported = a.openTip queryId reported := by
  simp only [AutoPay.openTip, hcount, htips]

omit [DecidableEq AccountId] in
/-- A later report leaves no more open. -/
theorem AutoPay.openTip_anti {reported later : ℕ} (hle : reported ≤ later) :
    a.openTip queryId later ≤ a.openTip queryId reported := by
  unfold AutoPay.openTip
  split
  · exact le_rfl
  · next count _ =>
    cases a.tips.lookup (queryId, count) with
    | none => exact le_rfl
    | some lastTip =>
      rw [Option.elim_some, Option.elim_some]
      split
      · next hopen => rw [if_pos (hle.trans_lt hopen)]
      · exact Nat.zero_le _

omit [DecidableEq AccountId] in
/-- The tip that was just given is open. -/
theorem TipAdded.openTip_pos {lastReported : Option ℕ} {now amount reported : ℕ}
    (h : TipAdded cfg a lastReported now queryId amount a') (hpositive : 0 < amount)
    (hreported : reported ≤ now) : 0 < a'.openTip queryId reported := by
  have hpushed : ∀ entry : Tip, entry.timestamp = now + 1 → entry.amount = amount →
      0 < (a.pushTip queryId entry).openTip queryId reported := by
    intro entry htime hamount
    have hcount : (a.pushTip queryId entry).countTips queryId = a.countTips queryId + 1 := by
      rw [AutoPay.pushTip_count, if_pos rfl]
    rw [AutoPay.openTip_of_last reported hcount (Finmap.lookup_insert _), htime,
      if_pos (Nat.lt_succ_of_le hreported), hamount]
    exact hpositive
  cases h with
  | first hcount => exact hpushed _ rfl rfl
  | missing hcount hlast => exact hpushed _ rfl rfl
  | next hcount hlast hclosed hbound => exact hpushed _ rfl rfl
  | @merge lastTip hcount hlast hopen =>
    have hlastCount : (a.mergeTip cfg queryId lastTip amount (now + 1)).countTips queryId =
        a.countTips queryId - 1 + 1 := (Nat.sub_add_cancel hcount).symm
    rw [AutoPay.openTip_of_last reported hlastCount (Finmap.lookup_insert _),
      if_pos (Nat.lt_succ_of_le hreported)]
    have hmax : 0 < cfg.balanceMax := lt_of_lt_of_le (by decide) cfg.u128_le_balanceMax
    exact lt_min (Nat.add_pos_right _ hpositive) hmax

omit [DecidableEq AccountId] in
/-- Claiming an entry opens none. -/
theorem OnetimeTip.openTip_le {o : Oracle AccountId} {now timestamp last : ℕ} {claimer : AccountId}
    {report : Report AccountId} {lastTip : Tip}
    (h : OnetimeTip o now a queryId timestamp claimer report last lastTip a') (q : QueryId)
    (reported : ℕ) : a'.openTip q reported ≤ a.openTip q reported := by
  have hautoPay := h.autoPay_eq
  by_cases hq : q = queryId
  · subst hq
    cases hcount : a.countTips q with
    | zero =>
      have hzero : a'.countTips q = 0 := by rw [hautoPay]; exact hcount
      rw [AutoPay.openTip, hzero]
      exact Nat.zero_le _
    | succ count =>
      have hsame : a'.countTips q = count + 1 := by rw [hautoPay]; exact hcount
      by_cases hlast : count = last
      · -- the last entry was cleared
        have hcleared : a'.tips.lookup (q, count) = some { lastTip with amount := 0 } := by
          rw [h.lookup, if_pos hlast]
        rw [AutoPay.openTip_of_last reported hsame hcleared, ite_self]
        exact Nat.zero_le _
      · have hkept : a'.tips.lookup (q, count) = a.tips.lookup (q, count) := by
          rw [h.lookup, if_neg hlast]
        rw [AutoPay.openTip, AutoPay.openTip, hsame, hcount]
        dsimp only
        rw [hkept]
  · apply le_of_eq
    apply AutoPay.openTip_congr
    · rw [hautoPay]
      rfl
    · intro i
      rw [hautoPay]
      exact FiniteMap.lookup_insert_of_fst_ne _ hq _ _ _

theorem claimTimestamps_openTip_le {o : Oracle AccountId} {now reward reward' : ℕ}
    {reporter : AccountId} {timestamps : List ℕ}
    (h : claimTimestamps cfg o now queryId reporter timestamps (reward, a) = .ok (reward', a'))
    (q : QueryId) (reported : ℕ) : a'.openTip q reported ≤ a.openTip q reported := by
  induction timestamps generalizing reward a with
  | nil =>
    cases h
    exact le_rfl
  | cons timestamp rest ih =>
    simp only [claimTimestamps, bind_eq_ok] at h
    obtain ⟨⟨amount, a₁⟩, hcomputed, hrest⟩ := h
    obtain ⟨report, last, lastTip, htip, -⟩ := getOnetimeTipAmount_eq_ok hcomputed
    exact (ih hrest).trans (htip.openTip_le q reported)

end CurrentTip

/-! ## What an input does to the listing -/

/-- Tips, index and query data are as before; data of other queries may be added. -/
structure SameListing (s s' : State AccountId) : Prop where
  tips : s'.autoPay.tips = s.autoPay.tips
  tipCount : s'.autoPay.tipCount = s.autoPay.tipCount
  queryIdsWithFunding : s'.autoPay.queryIdsWithFunding = s.autoPay.queryIdsWithFunding
  queryData : ∀ queryId, queryId ∈ s.queryData → queryId ∈ s'.queryData

/-- What an input does to the tips, the reports and the index of funded queries. -/
inductive ListingStep (cfg : Config AccountId) (s : State AccountId) (input : Input AccountId)
    (s' : State AccountId) : Prop where
  | quiet (h : SameListing s s') (horacle : s'.oracle = s.oracle)
  | tipped {tipper : AccountId} {queryId : QueryId} {amount : ℕ} {queryData : QueryData}
      (h : tip cfg s tipper queryId amount queryData = .ok s')
  | claimed {reporter : AccountId} {queryId : QueryId} {timestamps : List ℕ}
      (h : claimOnetimeTip cfg s reporter queryId timestamps = .ok s')
  | submitted {reporter : AccountId} {queryId : QueryId} {value : Value} (h : SameListing s s')
      (horacle : s'.oracle = s.oracle.submit queryId s.now s.blockNumber reporter value)
  | disputed {send : Sender} {initiator : AccountId} {queryId : QueryId} {timestamp : ℕ}
      {beneficiary : Option Address}
      (hinput : input = .extrinsic send (.signed initiator) (.beginDispute queryId timestamp beneficiary))
      (h : beginDispute cfg send s initiator queryId timestamp beneficiary = .ok s')

section Steps

variable {s s' s'' : State AccountId}

omit [DecidableEq AccountId] in
theorem SameListing.of_eq (hautoPay : s'.autoPay = s.autoPay) (hdata : s'.queryData = s.queryData) :
    SameListing s s' := by
  refine ⟨?_, ?_, ?_, fun queryId hmem ↦ ?_⟩
  · rw [hautoPay]
  · rw [hautoPay]
  · rw [hautoPay]
  · rw [hdata]
    exact hmem

omit [DecidableEq AccountId] in
theorem SameListing.trans (h : SameListing s s') (h' : SameListing s' s'') : SameListing s s'' :=
  ⟨h'.tips.trans h.tips, h'.tipCount.trans h.tipCount,
    h'.queryIdsWithFunding.trans h.queryIdsWithFunding,
    fun queryId hmem ↦ h'.queryData queryId (h.queryData queryId hmem)⟩

theorem Minor.queryData_eq (h : Minor cfg s s') : s'.queryData = s.queryData := by
  cases h with
  | funded haccount h => rfl
  | registered hevent h =>
    obtain ⟨-, rfl⟩ := State.sendXcm_eq_ok.mp h
    rfl
  | priced h hquiet => rw [h]
  | voted h => rw [h.state_eq]
  | sent hpending h => rw [h.state_eq]

theorem minor_sameListing (h : Relation.ReflTransGen (Minor cfg) s s') : SameListing s s' := by
  apply SameListing.of_eq (minor_autoPay_eq h)
  induction h with
  | refl => rfl
  | tail _ hlast ih => exact hlast.queryData_eq.trans ih

omit [DecidableEq AccountId] in
theorem FeedSetUp.sameListing {feedCreator : AccountId} {queryId : QueryId} {feed : Feed}
    {queryData : QueryData} (h : FeedSetUp cfg s queryId feed s')
    (hstored : s' = storeFeed s feedCreator queryId (feedIdOf cfg queryId feed) feed queryData) :
    SameListing s s' := by
  refine ⟨?_, ?_, ?_, fun q hmem ↦ ?_⟩
  · rw [h.autoPay_eq]
  · rw [h.autoPay_eq]
  · rw [h.autoPay_eq]
  · rw [hstored]
    exact Finmap.mem_insert.mpr (Or.inr hmem)

theorem FeedFunded.sameListing {feedFunder : AccountId} {feedId : FeedId} {queryId : QueryId}
    {amount : ℕ} {feed : Feed} (h : FeedFunded cfg s feedFunder feedId queryId amount feed s') :
    SameListing s s' := by
  refine ⟨?_, ?_, ?_, fun q hmem ↦ ?_⟩
  · rw [h.autoPay_eq]
  · rw [h.autoPay_eq]
  · rw [h.autoPay_eq]
  · rw [h.frame]
    exact hmem

theorem FeedClaimed.sameListing {reporter : AccountId} {feedId : FeedId} {queryId : QueryId}
    {timestamps : List ℕ} {feed : Feed} {reward : ℕ} {a : AutoPay AccountId} {s₁ : State AccountId}
    (h : FeedClaimed cfg s reporter feedId queryId timestamps feed reward a s₁ s') :
    SameListing s s' := by
  have hautoPay : s'.autoPay = { a with
      dataFeeds := a.dataFeeds.insert (queryId, feedId)
        { feed with balance := feed.balance - reward } } := by
    rw [h.state_eq]
    exact (congrArg State.autoPay (payReward_frame h.paid) :)
  rw [claimFeedTimestamps_frame h.claimed] at hautoPay
  refine ⟨?_, ?_, ?_, fun q hmem ↦ ?_⟩
  · rw [hautoPay]
  · rw [hautoPay]
  · rw [hautoPay]
  · rw [h.frame]
    exact hmem

/-- A dispute touches the reports only, and these only when it is begun, not when it is continued. -/
theorem beginDispute_sameListing {send : Sender} {initiator : AccountId} {queryId : QueryId}
    {timestamp : ℕ} {beneficiary : Option Address}
    (h : beginDispute cfg send s initiator queryId timestamp beneficiary = .ok s') :
    SameListing s s' ∧ ((s.governance.rounds (disputeIdOf cfg queryId timestamp) = 0 ∧
        ∃ iterations, s.oracle.removeValue cfg.maxDisputedTimeSeries queryId timestamp =
          .ok (iterations, s'.oracle)) ∨
      (s.governance.rounds (disputeIdOf cfg queryId timestamp) ≠ 0 ∧ s'.oracle = s.oracle)) := by
  obtain ⟨voteRound, dispute, fee, s₁, hround, -, hprepared, hopened⟩ := beginDispute_eq_ok h
  have hopen := hopened.state_eq
  have horacle : s'.oracle = s₁.oracle := (congrArg State.oracle hopen :)
  have hopenListing : SameListing s₁ s' :=
    .of_eq (congrArg State.autoPay hopen :) (congrArg State.queryData hopen :)
  rcases hprepared with ⟨hfirst, iterations, hremoved⟩ | ⟨hlater, rfl, -⟩
  · have hframe := hremoved.state_eq
    have hlisting : SameListing s s₁ :=
      .of_eq (congrArg State.autoPay hframe :) (congrArg State.queryData hframe :)
    refine ⟨hlisting.trans hopenListing, Or.inl ⟨by omega, iterations, ?_⟩⟩
    rw [horacle]
    exact hremoved.removed
  · exact ⟨hopenListing, Or.inr ⟨by omega, horacle⟩⟩

theorem dispatch_listing {send : Sender} {origin : Origin AccountId} {call : Call AccountId}
    (h : dispatch cfg send s origin call = .ok s') :
    ListingStep cfg s (.extrinsic send origin call) s' := by
  have hminor : Relation.ReflTransGen (Minor cfg) s s' →
      ListingStep cfg s (.extrinsic send origin call) s' :=
    fun hminor ↦ .quiet (minor_sameListing hminor) (minor_oracle_eq hminor).1
  have hquiet : s'.autoPay = s.autoPay → s'.queryData = s.queryData → s'.oracle = s.oracle →
      ListingStep cfg s (.extrinsic send origin call) s' :=
    fun hautoPay hdata horacle ↦ .quiet (.of_eq hautoPay hdata) horacle
  cases call with
  | register gasLimit =>
    obtain ⟨_, -, h⟩ := bind_eq_ok.mp h
    exact hminor (minor_register h)
  | claimOnetimeTip queryId timestamps =>
    obtain ⟨_, -, h⟩ := bind_eq_ok.mp h
    exact .claimed h
  | claimTip feedId queryId timestamps =>
    obtain ⟨_, -, h⟩ := bind_eq_ok.mp h
    obtain ⟨_, _, _, _, hclaimed⟩ := claimTip_claimed h
    exact .quiet hclaimed.sameListing (congrArg State.oracle hclaimed.frame :)
  | fundFeed feedId queryId amount =>
    obtain ⟨_, -, h⟩ := bind_eq_ok.mp h
    obtain ⟨_, hfunded⟩ := doFundFeed_funded h
    exact .quiet hfunded.sameListing (congrArg State.oracle hfunded.frame :)
  | setupDataFeed queryId reward startTime interval window priceThreshold rewardIncreasePerSecond
      queryData amount =>
    obtain ⟨_, -, h⟩ := bind_eq_ok.mp h
    obtain ⟨s₁, hstored, hsetup, hrest⟩ := setupDataFeed_eq_ok h
    have hlisting := hsetup.sameListing hstored
    have horacle : s₁.oracle = s.oracle := (congrArg State.oracle hsetup.frame :)
    rcases hrest with ⟨-, rfl⟩ | hfund
    · exact .quiet hlisting horacle
    · obtain ⟨_, hfunded⟩ := doFundFeed_funded hfund
      exact .quiet (hlisting.trans hfunded.sameListing)
        ((congrArg State.oracle hfunded.frame :).trans horacle)
  | tip queryId amount queryData =>
    obtain ⟨_, -, h⟩ := bind_eq_ok.mp h
    exact .tipped h
  | addStakingRewards amount =>
    obtain ⟨source, -, h⟩ := bind_eq_ok.mp h
    obtain ⟨_, hadded, hevents, -⟩ := addStakingRewards_eq_ok h
    have hframe := doAddStakingRewards_frame hadded
    exact hquiet ((congrArg State.autoPay hevents :).trans (congrArg State.autoPay hframe :))
      ((congrArg State.queryData hevents :).trans (congrArg State.queryData hframe :))
      ((congrArg State.oracle hevents :).trans (congrArg State.oracle hframe :))
  | submitValue queryId value nonce queryData =>
    obtain ⟨reporter, -, h⟩ := bind_eq_ok.mp h
    obtain ⟨_, hsubmission⟩ := submitValue_submission h
    have hframe := hsubmission.state_eq
    have hlisting : SameListing s s' :=
      .of_eq (congrArg State.autoPay hframe :) (congrArg State.queryData hframe :)
    exact .submitted hlisting (congrArg State.oracle hframe :)
  | updateStakeAmount =>
    obtain ⟨_, -, h⟩ := bind_eq_ok.mp h
    have hframe := (updateStakeAmount_frame h).1
    exact hquiet (congrArg State.autoPay hframe :) (congrArg State.queryData hframe :)
      (congrArg State.oracle hframe :)
  | beginDispute queryId timestamp beneficiary =>
    obtain ⟨initiator, horigin, h⟩ := bind_eq_ok.mp h
    rw [ensureSigned_eq_ok] at horigin
    rw [horigin]
    exact .disputed rfl h
  | vote disputeId supports =>
    obtain ⟨voter, -, h⟩ := bind_eq_ok.mp h
    obtain ⟨_, hcast⟩ := doVote_cast h
    exact hminor (Relation.ReflTransGen.single (.voted hcast))
  | voteOnMultipleDisputes votes =>
    obtain ⟨voter, -, h⟩ := bind_eq_ok.mp h
    exact hminor (minor_voteOnMultipleDisputes h)
  | sendVotes maxVotes =>
    obtain ⟨_, -, h⟩ := bind_eq_ok.mp h
    cases h
    exact hminor (minor_doSendVotes send s s.now maxVotes)
  | reportVoteTallied disputeId result =>
    obtain ⟨_, -, h⟩ := bind_eq_ok.mp h
    obtain ⟨_, _, htallied⟩ := tallyVotes_tallied h
    have hframe := htallied.state_eq
    exact hquiet (congrArg State.autoPay hframe :) (congrArg State.queryData hframe :)
      (congrArg State.oracle hframe :)
  | reportVoteExecuted disputeId =>
    obtain ⟨_, -, h⟩ := bind_eq_ok.mp h
    obtain ⟨_, _, _, hexecuted⟩ := executeVote_executed h
    have hframe := hexecuted.state_eq
    exact hquiet (congrArg State.autoPay hframe :) (congrArg State.queryData hframe :)
      (congrArg State.oracle hframe :)
  | _ =>
    obtain ⟨_, -, hframe⟩ := reportsStake_frame rfl h
    exact hquiet (congrArg State.autoPay hframe :) (congrArg State.queryData hframe :)
      (congrArg State.oracle hframe :)

theorem step_listing (input : Input AccountId) (s : State AccountId) :
    ListingStep cfg s input (step cfg input s) := by
  cases input with
  | newBlock blockNumber now => exact .quiet (.of_eq rfl rfl) rfl
  | external account balance => exact .quiet (.of_eq rfl rfl) rfl
  | onInitialize send =>
    have hminor : Relation.ReflTransGen (Minor cfg) s (onInitialize cfg send s) :=
      (minor_updatePrices s).trans (minor_doSendVotes send _ _ _)
    exact .quiet (minor_sameListing hminor) (minor_oracle_eq hminor).1
  | extrinsic send origin call =>
    change ListingStep cfg s _ (applyCall cfg send s origin call)
    unfold applyCall
    split
    · next s' haccepted => exact dispatch_listing haccepted
    · exact .quiet (.of_eq rfl rfl) rfl

end Steps

/-! ## The listing -/

/-- The queries with a current tip are listed, and the query data of tipped queries is stored. -/
structure TipsListed (s : State AccountId) : Prop where
  listed : ∀ queryId, 0 < getCurrentTip s queryId → queryId ∈ s.autoPay.queryIdsWithFunding
  described : ∀ queryId, 0 < s.autoPay.countTips queryId → queryId ∈ s.queryData

section Listing

variable {s s' : State AccountId} {queryId : QueryId}

omit [DecidableEq AccountId] in
theorem mem_getFundedQueryIds :
    queryId ∈ getFundedQueryIds s ↔ queryId ∈ s.autoPay.queryIdsWithFunding :=
  FiniteMap.mem_sortedKeys.trans Finmap.mem_keys

omit [DecidableEq AccountId] in
theorem SameListing.openTip_eq (h : SameListing s s') (queryId : QueryId) (reported : ℕ) :
    s'.autoPay.openTip queryId reported = s.autoPay.openTip queryId reported := by
  apply AutoPay.openTip_congr
  · rw [AutoPay.countTips, AutoPay.countTips, h.tipCount]
  · intro i
    rw [h.tips]

omit [DecidableEq AccountId] in
/-- Where tips, index and query data are as before, the listing is in order when every current tip that
is new is of a listed query. -/
theorem SameListing.tipsListed (h : SameListing s s') (hinv : TipsListed s)
    (hcurrent : ∀ queryId, 0 < getCurrentTip s' queryId → queryId ∉ s.autoPay.queryIdsWithFunding →
      0 < getCurrentTip s queryId) : TipsListed s' := by
  refine ⟨fun q htip ↦ ?_, fun q hcount ↦ ?_⟩
  · rw [h.queryIdsWithFunding]
    by_contra hmissing
    exact hmissing (hinv.listed q (hcurrent q htip hmissing))
  · apply h.queryData
    apply hinv.described
    rwa [AutoPay.countTips, ← h.tipCount]

omit [DecidableEq AccountId] in
theorem SameListing.getCurrentTip_eq (h : SameListing s s')
    (hlast : s'.oracle.lastReportedTimestamp.lookup queryId =
      s.oracle.lastReportedTimestamp.lookup queryId) :
    getCurrentTip s' queryId = getCurrentTip s queryId := by
  rw [TellorPallet.getCurrentTip_eq, TellorPallet.getCurrentTip_eq, h.openTip_eq, hlast]

omit [DecidableEq AccountId] in
/-- The last report of a query is not from the future. -/
theorem SeriesInvariant.lastReported_le (h : SeriesInvariant s) (queryId : QueryId) :
    (s.oracle.lastReportedTimestamp.lookup queryId).getD 0 ≤ s.now := by
  cases hlast : s.oracle.lastReportedTimestamp.lookup queryId with
  | none => exact Nat.zero_le _
  | some t =>
    have hseries := (h.series queryId).last
    rw [hlast] at hseries
    obtain ⟨report, hreport, -⟩ := hseries.1
    exact (h.time queryId t report hreport).2

/-- What a tip stores besides its entry. -/
structure TipStored (cfg : Config AccountId) (s : State AccountId) (queryId : QueryId) (amount : ℕ)
    (queryData : QueryData) (a : AutoPay AccountId) (s' : State AccountId) : Prop where
  amount_pos : 0 < amount
  added : TipAdded cfg s.autoPay (s.oracle.lastReportedTimestamp.lookup queryId) s.now queryId amount a
  tips : s'.autoPay.tips = a.tips
  tipCount : s'.autoPay.tipCount = a.tipCount
  queryIdsWithFunding : s'.autoPay.queryIdsWithFunding = (a.listFunded queryId
    (a.openTip queryId ((s.oracle.lastReportedTimestamp.lookup queryId).getD 0))).queryIdsWithFunding
  queryData_eq : s'.queryData =
    if s.autoPay.countTips queryId = 0 then s.queryData.insert queryId queryData else s.queryData
  oracle_eq : s'.oracle = s.oracle

theorem tip_stored {tipper : AccountId} {amount : ℕ} {queryData : QueryData}
    (h : tip cfg s tipper queryId amount queryData = .ok s') :
    ∃ a, TipStored cfg s queryId amount queryData a s' := by
  simp only [tip, bind_eq_ok, guard_eq_ok, exists_const] at h
  obtain ⟨-, hpositive, a, hadd, ledger, -, h⟩ := h
  refine ⟨a, hpositive, addTip_added hadd, ?_, ?_, ?_, ?_, ?_⟩
  all_goals
    cases h
    dsimp only [State.depositEvent, AutoPay.addUserTips]
  · rw [listFunded_frame]
    split <;> rfl
  · rw [listFunded_frame]
    split <;> rfl
  · rw [getCurrentTip_eq]
    split <;> rfl
  · split <;> rfl
  · split <;> rfl

omit [DecidableEq AccountId] in
/-- A tip lists its query. -/
theorem TipStored.tipsListed {amount : ℕ} {queryData : QueryData} {a : AutoPay AccountId}
    (h : TipStored cfg s queryId amount queryData a s') (hseries : SeriesInvariant s)
    (hinv : TipsListed s) : TipsListed s' := by
  have hopen := h.added.openTip_pos h.amount_pos (hseries.lastReported_le queryId)
  have hindex : a.queryIdsWithFunding = s.autoPay.queryIdsWithFunding := by
    cases h.added <;> rfl
  have hlisted : s'.autoPay.queryIdsWithFunding =
      s.autoPay.queryIdsWithFunding.insert queryId () := by
    rw [h.queryIdsWithFunding, AutoPay.listFunded, if_pos hopen, hindex]
  have hcount : ∀ q, s'.autoPay.countTips q = a.countTips q := by
    intro q
    rw [AutoPay.countTips, AutoPay.countTips, h.tipCount]
  refine ⟨fun q htip ↦ ?_, fun q hpositive ↦ ?_⟩
  · rw [hlisted, Finmap.mem_insert]
    by_cases hq : q = queryId
    · exact Or.inl hq
    · right
      apply hinv.listed
      rw [getCurrentTip_eq, h.oracle_eq] at htip
      rw [getCurrentTip_eq, ← AutoPay.openTip_congr ((hcount q).trans (h.added.count_other hq))]
      · exact htip
      · intro i
        rw [h.tips, h.added.lookup_other hq]
  · rw [h.queryData_eq]
    by_cases hq : q = queryId
    · subst hq
      split
      · exact Finmap.mem_insert.mpr (Or.inl rfl)
      · next hsome => exact hinv.described q (Nat.pos_of_ne_zero hsome)
    · rw [hcount, h.added.count_other hq] at hpositive
      have hmem := hinv.described q hpositive
      split
      · exact Finmap.mem_insert.mpr (Or.inr hmem)
      · exact hmem

/-- A claim unlists its query only when no tip is current. -/
theorem tipsListed_of_claim {reporter : AccountId} {timestamps : List ℕ}
    (h : claimOnetimeTip cfg s reporter queryId timestamps = .ok s') (hinv : TipsListed s) :
    TipsListed s' := by
  simp only [claimOnetimeTip, bind_eq_ok, guard_eq_ok, exists_const] at h
  obtain ⟨-, ⟨reward, a⟩, hclaimed, s₁, hpaid, h⟩ := h
  have hframe := payReward_frame hpaid
  have hautoPay : s₁.autoPay = { s.autoPay with tips := a.tips } :=
    (congrArg State.autoPay hframe :).trans (claimTimestamps_frame hclaimed)
  have hdata : s₁.queryData = s.queryData := (congrArg State.queryData hframe :)
  have horacle : s₁.oracle = s.oracle := (congrArg State.oracle hframe :)
  have hle : ∀ q, getCurrentTip s₁ q ≤ getCurrentTip s q := by
    intro q
    rw [getCurrentTip_eq, getCurrentTip_eq, horacle, (congrArg State.autoPay hframe :)]
    exact claimTimestamps_openTip_le hclaimed q _
  -- the listing before the query is taken off the index
  have hmid : TipsListed s₁ := by
    refine ⟨fun q htip ↦ ?_, fun q hcount ↦ ?_⟩
    · rw [hautoPay]
      exact hinv.listed q (htip.trans_le (hle q))
    · rw [hautoPay] at hcount
      rw [hdata]
      exact hinv.described q hcount
  cases h
  split
  · next hnone =>
    refine ⟨fun q htip ↦ ?_, hmid.described⟩
    have hcurrent : 0 < getCurrentTip s₁ q := htip
    refine Finmap.mem_erase.mpr ⟨?_, hmid.listed q hcurrent⟩
    rintro rfl
    exact absurd hnone hcurrent.ne'
  · exact ⟨hmid.listed, hmid.described⟩

omit [DecidableEq AccountId] in
/-- The current tips after the report at a time was taken back. -/
theorem getCurrentTip_of_removed {timestamp iterations : ℕ} (hseries : SeriesInvariant s)
    (h : SameListing s s') (hremoved : s.oracle.removeValue cfg.maxDisputedTimeSeries queryId timestamp =
      .ok (iterations, s'.oracle)) (q : QueryId) :
    getCurrentTip s' q =
      if q = queryId ∧ s.oracle.lastReportedTimestamp.lookup queryId = some timestamp then
        s.autoPay.openTip queryId
          (((s.oracle.reports.lookup (queryId, timestamp)).bind Report.previous).getD 0)
      else getCurrentTip s q := by
  obtain ⟨report, hremoval⟩ := Oracle.removeValue_removed (hseries.series queryId).toIndexed hremoved
  have hlast : s'.oracle.lastReportedTimestamp.lookup q =
      if q = queryId ∧ s.oracle.lastReportedTimestamp.lookup queryId = some timestamp then
        report.previous
      else s.oracle.lastReportedTimestamp.lookup q := by
    rw [hremoval.last_eq, Oracle.retractLast_last]
  split
  · next hthis =>
    rw [if_pos hthis] at hlast
    rw [getCurrentTip_eq, h.openTip_eq, hlast, hthis.1, hremoval.report_eq, Option.bind_some]
  · next hother =>
    rw [if_neg hother] at hlast
    exact h.getCurrentTip_eq hlast

/-- Every input that does not reopen the tip of a query that is not listed leaves the listing in
order. -/
theorem ListingStep.tipsListed {input : Input AccountId} (h : ListingStep cfg s input s')
    (hreopens : ¬ ReopensTip cfg s input) (hseries : SeriesInvariant s) (hinv : TipsListed s) :
    TipsListed s' := by
  cases h with
  | quiet h horacle =>
    apply h.tipsListed hinv
    intro q htip _
    rwa [h.getCurrentTip_eq (by rw [horacle])] at htip
  | tipped h =>
    obtain ⟨a, hstored⟩ := tip_stored h
    exact hstored.tipsListed hseries hinv
  | claimed h => exact tipsListed_of_claim h hinv
  | @submitted reporter queryId value h horacle =>
    apply h.tipsListed hinv
    intro q htip _
    apply htip.trans_le
    rw [getCurrentTip_eq, getCurrentTip_eq, h.openTip_eq, horacle, Oracle.submit_last]
    apply AutoPay.openTip_anti
    split
    · exact hseries.lastReported_le q
    · exact le_rfl
  | @disputed send initiator queryId timestamp beneficiary hinput h =>
    obtain ⟨hsame, hchange⟩ := beginDispute_sameListing h
    apply hsame.tipsListed hinv
    intro q htip hmissing
    rcases hchange with ⟨hfirst, iterations, hremoved⟩ | ⟨-, horacle⟩
    · rw [getCurrentTip_of_removed hseries hsame hremoved] at htip
      split at htip
      · next hthis =>
        -- the tip would be reopened
        exfalso
        apply hreopens
        rw [hinput]
        rw [hthis.1] at hmissing
        refine ⟨?_, hfirst, hthis.2, mt mem_getFundedQueryIds.mp hmissing, htip⟩
        rw [h]
        rfl
      · exact htip
    · rwa [hsame.getCurrentTip_eq (by rw [horacle])] at htip

omit [DecidableEq AccountId] in
theorem tipsListed_genesis (h : IsGenesis cfg s) : TipsListed s := by
  obtain ⟨ledger, blockNumber, now, -, rfl⟩ := h
  refine ⟨fun q htip ↦ ?_, fun q hcount ↦ ?_⟩
  · simp [State.genesis, getCurrentTip, AutoPay.countTips] at htip
  · simp [State.genesis, AutoPay.countTips] at hcount

omit [DecidableEq AccountId] in
/-- A listed query with a current tip is found in both listings. -/
theorem TipsListed.mem_getFundedSingleTipsInfo (h : TipsListed s)
    (htip : 0 < getCurrentTip s queryId) :
    queryId ∈ getFundedQueryIds s ∧ ∃ queryData, s.queryData.lookup queryId = some queryData ∧
      (queryData, getCurrentTip s queryId) ∈ getFundedSingleTipsInfo s := by
  have hlisted := mem_getFundedQueryIds.mpr (h.listed queryId htip)
  have hcount : 0 < s.autoPay.countTips queryId := by
    apply Nat.pos_of_ne_zero
    intro hzero
    rw [getCurrentTip_eq, AutoPay.openTip, hzero] at htip
    exact absurd htip (lt_irrefl 0)
  obtain ⟨queryData, hdata⟩ := Finmap.mem_iff.mp (h.described queryId hcount)
  refine ⟨hlisted, queryData, hdata, List.mem_filterMap.mpr ⟨queryId, hlisted, ?_⟩⟩
  rw [hdata, Option.map_some]

theorem ReopensTip.not_listed {input : Input AccountId} (h : ReopensTip cfg s input)
    (hseries : SeriesInvariant s) :
    ∃ queryId, 0 < getCurrentTip (step cfg input s) queryId ∧
      queryId ∉ getFundedQueryIds (step cfg input s) := by
  unfold ReopensTip at h
  split at h
  · next send initiator queryId timestamp beneficiary =>
    obtain ⟨haccepted, hfirst, hlast, hmissing, hopen⟩ := h
    cases hresult : beginDispute cfg send s initiator queryId timestamp beneficiary with
    | error e =>
      rw [hresult] at haccepted
      cases haccepted
    | ok s' =>
      have hdispatch : dispatch cfg send s (.signed initiator)
          (.beginDispute queryId timestamp beneficiary) = .ok s' := hresult
      have hstep : step cfg (.extrinsic send (.signed initiator)
          (.beginDispute queryId timestamp beneficiary)) s = s' := by
        change applyCall cfg send s _ _ = s'
        rw [applyCall, hdispatch]
      obtain ⟨hsame, hchange⟩ := beginDispute_sameListing hresult
      rw [hstep]
      refine ⟨queryId, ?_, ?_⟩
      · rcases hchange with ⟨-, iterations, hremoved⟩ | ⟨hlater, -⟩
        · rw [getCurrentTip_of_removed hseries hsame hremoved, if_pos ⟨rfl, hlast⟩]
          exact hopen
        · exact absurd hfirst hlater
      · rw [mem_getFundedQueryIds, hsame.queryIdsWithFunding]
        exact mt mem_getFundedQueryIds.mpr hmissing
  · exact h.elim

end Listing

/-- In every run in which no dispute reopens the tip of a query that is not listed, every query with a
current tip is listed as funded, with its query data and the tip. A dispute that does reopen one leaves
it current and not listed. -/
theorem listed_of_reachable {s : State AccountId}
    (h : ReachableBy cfg (fun s input ↦ Admissible cfg s input ∧ ¬ ReopensTip cfg s input) s) :
    (∀ queryId, 0 < getCurrentTip s queryId → queryId ∈ getFundedQueryIds s ∧
        ∃ queryData, s.queryData.lookup queryId = some queryData ∧
          (queryData, getCurrentTip s queryId) ∈ getFundedSingleTipsInfo s) ∧
      ∀ input, ReopensTip cfg s input →
        ∃ queryId, 0 < getCurrentTip (step cfg input s) queryId ∧
          queryId ∉ getFundedQueryIds (step cfg input s) := by
  have hboth : SeriesInvariant s ∧ TipsListed s := by
    obtain ⟨s₀, hgenesis, hreaches⟩ := h
    have hstep : ∀ s input, SeriesInvariant s ∧ TipsListed s →
        Admissible cfg s input ∧ ¬ ReopensTip cfg s input →
          SeriesInvariant (step cfg input s) ∧ TipsListed (step cfg input s) :=
      fun s input hinv hadmits ↦ ⟨(step_effect hadmits.1).seriesStep.preserves hinv.1,
        (step_listing input s).tipsListed hadmits.2 hinv.1 hinv.2⟩
    exact Reaches.invariant hstep hreaches
      ⟨seriesInvariant_genesis hgenesis, tipsListed_genesis hgenesis⟩
  exact ⟨fun q htip ↦ hboth.2.mem_getFundedSingleTipsInfo htip,
    fun input hreopens ↦ hreopens.not_listed hboth.1⟩

/-- A dispute of the report after the last tip leaves the query listed, no tip having been claimed. -/
theorem listed_of_reachable_reported :
    Mock.queryId ∈ getFundedQueryIds
      (run (step Mock.config) (Mock.reported ++ [Mock.dispute 9 20]) Mock.genesis) :=
  ((listed_of_reachable (Mock.reachableBy_run (Mock.reported ++ [Mock.dispute 9 20])
    (by decide +kernel))).1 Mock.queryId (by decide +kernel)).1

/-- A claim for the report before the last tip comes between that report's successor and its
dispute. -/
theorem not_listed_of_claimed : ∃ s, Reachable Mock.config s ∧
    0 < getCurrentTip s Mock.queryId ∧ Mock.queryId ∉ getFundedQueryIds s :=
  ⟨run (step Mock.config) (Mock.reported ++ [Mock.block (12 * hours + 15), Mock.claimOnetimeTip 7 10,
    Mock.dispute 9 20]) Mock.genesis, Mock.reachableBy_run _ (by decide +kernel), by decide +kernel,
    by decide +kernel⟩

end TellorPallet
