import TellorPallet.AutoPay.Listing
import TellorPallet.AutoPay.TipSeries
import TellorPallet.Oracle.Log
import TellorPallet.Runtime.Mock

/-!
# Isolation of queries

What is stored for a query is changed by inputs about that query only. Whatever is submitted, disputed,
tipped, funded or claimed for others, its reports, its tips and its feeds stay as they are, and so does what
is read of them.
-/

namespace TellorPallet

open Outcome Transition

variable {AccountId : Type} [DecidableEq AccountId] {cfg : Config AccountId}

/-- The query a call names. -/
def Call.query : Call AccountId → Option QueryId
  | .claimOnetimeTip queryId _ => some queryId
  | .claimTip _ queryId _ => some queryId
  | .fundFeed _ queryId _ => some queryId
  | .setupDataFeed queryId _ _ _ _ _ _ _ _ => some queryId
  | .tip queryId _ _ => some queryId
  | .submitValue queryId _ _ _ => some queryId
  | .beginDispute queryId _ _ => some queryId
  | _ => none

/-- The query an input names. -/
def Input.query : Input AccountId → Option QueryId
  | .extrinsic _ _ call => call.query
  | _ => none

/-- Two states of the storage agree on everything they store of a query's tips and feeds. -/
structure AutoPay.Agree (a a' : AutoPay AccountId) (queryId : QueryId) : Prop where
  tips : ∀ i, a'.tips.lookup (queryId, i) = a.tips.lookup (queryId, i)
  tipCount : a'.countTips queryId = a.countTips queryId
  funded : a'.queryIdsWithFunding.lookup queryId = a.queryIdsWithFunding.lookup queryId
  feeds : ∀ feedId, a'.dataFeeds.lookup (queryId, feedId) = a.dataFeeds.lookup (queryId, feedId)
  claimed : ∀ feedId timestamp, a'.dataFeedRewardClaimed.lookup (queryId, feedId, timestamp) =
    a.dataFeedRewardClaimed.lookup (queryId, feedId, timestamp)

/-- Two states agree on everything they store of a query. -/
structure SameQuery (queryId : QueryId) (s s' : State AccountId) : Prop where
  reports : Oracle.Agree s.oracle s'.oracle queryId
  autoPay : AutoPay.Agree s.autoPay s'.autoPay queryId
  data : s'.queryData.lookup queryId = s.queryData.lookup queryId

section AutoPay

variable {a a' a'' : AutoPay AccountId} {queryId q : QueryId}

namespace AutoPay

omit [DecidableEq AccountId] in
theorem Agree.refl (a : AutoPay AccountId) (q : QueryId) : Agree a a q :=
  ⟨fun _ ↦ rfl, rfl, rfl, fun _ ↦ rfl, fun _ _ ↦ rfl⟩

omit [DecidableEq AccountId] in
theorem Agree.trans (h : Agree a a' q) (h' : Agree a' a'' q) : Agree a a'' q where
  tips i := (h'.tips i).trans (h.tips i)
  tipCount := h'.tipCount.trans h.tipCount
  funded := h'.funded.trans h.funded
  feeds feedId := (h'.feeds feedId).trans (h.feeds feedId)
  claimed feedId timestamp := (h'.claimed feedId timestamp).trans (h.claimed feedId timestamp)

theorem agree_addUserTips (a : AutoPay AccountId) (user : AccountId) (amount : ℕ) (q : QueryId) :
    Agree a (a.addUserTips cfg user amount) q :=
  ⟨fun _ ↦ rfl, rfl, rfl, fun _ ↦ rfl, fun _ _ ↦ rfl⟩

omit [DecidableEq AccountId] in
theorem agree_listFunded (a : AutoPay AccountId) (currentTip : ℕ) (hq : q ≠ queryId) :
    Agree a (a.listFunded queryId currentTip) q := by
  unfold listFunded
  split
  · refine ⟨fun _ ↦ rfl, rfl, ?_, fun _ ↦ rfl, fun _ _ ↦ rfl⟩
    exact Finmap.lookup_insert_of_ne _ hq
  · exact .refl a q

omit [DecidableEq AccountId] in
theorem agree_clearTip (a : AutoPay AccountId) (index : ℕ) (entry : Tip) (hq : q ≠ queryId) :
    Agree a (a.clearTip queryId index entry) q :=
  ⟨FiniteMap.lookup_insert_of_fst_ne _ hq _ _, rfl, rfl, fun _ ↦ rfl, fun _ _ ↦ rfl⟩

omit [DecidableEq AccountId] in
theorem agree_putFeed (a : AutoPay AccountId) (feedId : FeedId) (feed : Feed) (hq : q ≠ queryId) :
    Agree a { a with dataFeeds := a.dataFeeds.insert (queryId, feedId) feed } q :=
  ⟨fun _ ↦ rfl, rfl, rfl, FiniteMap.lookup_insert_of_fst_ne _ hq _ _, fun _ _ ↦ rfl⟩

end AutoPay

open AutoPay

omit [DecidableEq AccountId] in
theorem TipAdded.agree {lastReported : Option ℕ} {now amount : ℕ}
    (h : TipAdded cfg a lastReported now queryId amount a') (hq : q ≠ queryId) : Agree a a' q where
  tips := h.lookup_other hq
  tipCount := h.count_other hq
  funded := by cases h <;> rfl
  feeds := by cases h <;> exact fun _ ↦ rfl
  claimed := by cases h <;> exact fun _ _ ↦ rfl

theorem agree_claimTimestamps {o : Oracle AccountId} {now reward reward' : ℕ} {reporter : AccountId}
    {timestamps : List ℕ} (hq : q ≠ queryId)
    (h : claimTimestamps cfg o now queryId reporter timestamps (reward, a) = .ok (reward', a')) :
    Agree a a' q := by
  induction timestamps generalizing reward a with
  | nil =>
    cases h
    exact .refl _ q
  | cons timestamp rest ih =>
    simp only [claimTimestamps, bind_eq_ok] at h
    obtain ⟨⟨amount, a₁⟩, hcomputed, hrest⟩ := h
    obtain ⟨report, last, lastTip, htip, -⟩ := getOnetimeTipAmount_eq_ok hcomputed
    have hfirst : Agree a a₁ q := htip.autoPay_eq ▸ agree_clearTip a last lastTip hq
    exact hfirst.trans (ih hrest)

theorem agree_claimFeedTimestamps {o : Oracle AccountId} {now balance reward reward' : ℕ}
    {feedId : FeedId} {reporter : AccountId} {last : Option ℕ} {timestamps : List ℕ} (hq : q ≠ queryId)
    (h : claimFeedTimestamps cfg o now feedId queryId reporter balance last timestamps (reward, a) =
      .ok (reward', a')) : Agree a a' q := by
  induction timestamps generalizing reward a with
  | nil =>
    cases h
    exact .refl _ q
  | cons timestamp rest ih =>
    simp only [claimFeedTimestamps, bind_eq_ok] at h
    obtain ⟨⟨amount, a₁⟩, hcomputed, hrest⟩ := h
    obtain ⟨report, hclaimed⟩ := claimFeedTimestamp_claimed hcomputed
    have hfirst : Agree a a₁ q := by
      rw [hclaimed.autoPay_eq]
      refine ⟨fun _ ↦ rfl, rfl, rfl, fun _ ↦ rfl, fun other t ↦ ?_⟩
      exact FiniteMap.lookup_insert_of_fst_ne _ hq (feedId, timestamp) () (other, t)
    exact hfirst.trans (ih hrest)

end AutoPay

/-! ## Calls -/

theorem minor_queryData_eq {s s' : State AccountId} (h : Relation.ReflTransGen (Minor cfg) s s') :
    s'.queryData = s.queryData := by
  induction h with
  | refl => rfl
  | tail _ hlast ih => exact hlast.queryData_eq.trans ih

section Calls

variable {s s' s₁ : State AccountId} {send : Sender} {origin : Origin AccountId} {call : Call AccountId}
  {queryId q : QueryId} {amount : ℕ}

omit [DecidableEq AccountId] in
theorem Oracle.Agree.refl (o : Oracle AccountId) (q : QueryId) : Oracle.Agree o o q :=
  ⟨fun _ ↦ rfl, rfl, fun _ ↦ rfl, fun _ ↦ rfl, rfl⟩

omit [DecidableEq AccountId] in
theorem Oracle.Agree.trans {o o' o'' : Oracle AccountId} (h : Oracle.Agree o o' q)
    (h' : Oracle.Agree o' o'' q) : Oracle.Agree o o'' q where
  index i := (h'.index i).trans (h.index i)
  count := h'.count.trans h.count
  reports t := (h'.reports t).trans (h.reports t)
  values t := (h'.values t).trans (h.values t)
  last := h'.last.trans h.last

omit [DecidableEq AccountId] in
theorem SameQuery.of_eq (horacle : s'.oracle = s.oracle) (hautoPay : s'.autoPay = s.autoPay)
    (hdata : s'.queryData = s.queryData) : SameQuery q s s' := by
  refine ⟨?_, ?_, by rw [hdata]⟩
  · rw [horacle]
    exact .refl _ q
  · rw [hautoPay]
    exact .refl _ q

omit [DecidableEq AccountId] in
theorem SameQuery.trans (h : SameQuery q s s₁) (h' : SameQuery q s₁ s') : SameQuery q s s' :=
  ⟨h.reports.trans h'.reports, h.autoPay.trans h'.autoPay, h'.data.trans h.data⟩

theorem sameQuery_doFundFeed {feedFunder : AccountId} {feedId : FeedId} (hq : q ≠ queryId)
    (h : doFundFeed cfg s feedFunder feedId queryId amount = .ok s') : SameQuery q s s' := by
  simp only [doFundFeed, bind_eq_ok, okOr_eq_ok, guard_eq_ok, exists_const] at h
  obtain ⟨feed, -, -, ledger, -, h⟩ := h
  cases h
  refine ⟨.refl _ q, ?_, rfl⟩
  exact ⟨fun _ ↦ rfl, rfl, rfl, FiniteMap.lookup_insert_of_fst_ne _ hq _ _, fun _ _ ↦ rfl⟩

omit [DecidableEq AccountId] in
theorem sameQuery_storeFeed {feedCreator : AccountId} {feedId : FeedId} {feed : Feed}
    {queryData : QueryData} (hq : q ≠ queryId) :
    SameQuery q s (storeFeed s feedCreator queryId feedId feed queryData) :=
  ⟨.refl _ q, ⟨fun _ ↦ rfl, rfl, rfl, FiniteMap.lookup_insert_of_fst_ne _ hq _ _, fun _ _ ↦ rfl⟩,
    Finmap.lookup_insert_of_ne _ hq⟩

theorem sameQuery_tip {tipper : AccountId} {queryData : QueryData} (hq : q ≠ queryId)
    (h : tip cfg s tipper queryId amount queryData = .ok s') : SameQuery q s s' := by
  simp only [tip, bind_eq_ok, guard_eq_ok, exists_const] at h
  obtain ⟨-, -, a, hadd, ledger, -, h⟩ := h
  have hadded : AutoPay.Agree s.autoPay a q := (addTip_added hadd).agree hq
  have hlisted : ∀ currentTip, AutoPay.Agree s.autoPay
      (AutoPay.addUserTips cfg (a.listFunded queryId currentTip) tipper amount) q := fun currentTip ↦
    (hadded.trans (AutoPay.agree_listFunded a currentTip hq)).trans (AutoPay.agree_addUserTips _ _ _ q)
  by_cases hfirst : s.autoPay.countTips queryId = 0
  · simp only [if_pos hfirst] at h
    cases h
    exact ⟨.refl _ q, hlisted _, Finmap.lookup_insert_of_ne _ hq⟩
  · simp only [if_neg hfirst] at h
    cases h
    exact ⟨.refl _ q, hlisted _, rfl⟩

theorem sameQuery_claimOnetimeTip {reporter : AccountId} {timestamps : List ℕ} (hq : q ≠ queryId)
    (h : claimOnetimeTip cfg s reporter queryId timestamps = .ok s') : SameQuery q s s' := by
  simp only [claimOnetimeTip, bind_eq_ok, guard_eq_ok, exists_const] at h
  obtain ⟨-, ⟨reward, a⟩, hclaimed, s₁, hpaid, h⟩ := h
  have hpaidFrame := payReward_frame hpaid
  have hsame : SameQuery q s s₁ := by
    rw [hpaidFrame]
    exact ⟨.refl _ q, agree_claimTimestamps hq hclaimed, rfl⟩
  refine hsame.trans ?_
  cases h
  split
  · refine ⟨.refl _ q, ⟨fun _ ↦ rfl, rfl, ?_, fun _ ↦ rfl, fun _ _ ↦ rfl⟩, rfl⟩
    exact Finmap.lookup_erase_ne hq
  · exact .of_eq rfl rfl rfl

theorem sameQuery_claimTip {reporter : AccountId} {feedId : FeedId} {timestamps : List ℕ}
    (hq : q ≠ queryId) (h : claimTip cfg s reporter feedId queryId timestamps = .ok s') :
    SameQuery q s s' := by
  obtain ⟨feed, reward, a, s₁, hclaimed⟩ := claimTip_claimed h
  rw [hclaimed.state_eq, payReward_frame hclaimed.paid]
  refine ⟨.refl _ q, (agree_claimFeedTimestamps hq hclaimed.claimed).trans ?_, rfl⟩
  exact AutoPay.agree_putFeed a feedId _ hq

theorem sameQuery_beginDispute {initiator : AccountId} {timestamp : ℕ} {beneficiary : Option Address}
    (hq : q ≠ queryId) (hseries : SeriesInvariant s)
    (h : beginDispute cfg send s initiator queryId timestamp beneficiary = .ok s') :
    SameQuery q s s' := by
  obtain ⟨_, _, _, s₁, -, -, hprepared, hopened⟩ := beginDispute_eq_ok h
  have hsame : SameQuery q s s₁ := by
    rcases hprepared with ⟨-, iterations, hfirst⟩ | ⟨-, rfl, -⟩
    · obtain ⟨report, hremoved⟩ :=
        Oracle.removeValue_removed (hseries.series queryId).toIndexed hfirst.removed
      have hstate := hfirst.state_eq
      exact ⟨hremoved.agree hq, (congrArg State.autoPay hstate :) ▸ .refl _ q,
        congrArg (·.queryData.lookup q) hstate⟩
    · exact .of_eq rfl rfl rfl
  have hstate := hopened.state_eq
  exact hsame.trans (.of_eq (congrArg State.oracle hstate :) (congrArg State.autoPay hstate :)
    (congrArg State.queryData hstate :))

/-- An accepted call about another query, or about none, changes nothing of a query. -/
theorem sameQuery_dispatch (hseries : SeriesInvariant s) (hq : call.query ≠ some q)
    (h : dispatch cfg send s origin call = .ok s') : SameQuery q s s' := by
  have hother {queryId : QueryId} (hcall : call.query = some queryId) : q ≠ queryId := fun heq ↦
    hq (heq ▸ hcall)
  have hminor : Relation.ReflTransGen (Minor cfg) s s' → s'.queryData = s.queryData →
      SameQuery q s s' := fun hmoves ↦ .of_eq (minor_oracle_eq hmoves).1 (minor_autoPay_eq hmoves)
  have hstaking (hcall : call.reportsStake = true) : SameQuery q s s' := by
    obtain ⟨event, -, hframe⟩ := reportsStake_frame hcall h
    exact .of_eq (congrArg State.oracle hframe :) (congrArg State.autoPay hframe :)
      (congrArg State.queryData hframe :)
  cases call with
  | register gasLimit =>
    obtain ⟨_, -, h⟩ := bind_eq_ok.mp h
    exact hminor (minor_register h) (minor_queryData_eq (minor_register h))
  | claimOnetimeTip queryId timestamps =>
    obtain ⟨reporter, -, h⟩ := bind_eq_ok.mp h
    exact sameQuery_claimOnetimeTip (hother rfl) h
  | claimTip feedId queryId timestamps =>
    obtain ⟨reporter, -, h⟩ := bind_eq_ok.mp h
    exact sameQuery_claimTip (hother rfl) h
  | fundFeed feedId queryId amount =>
    obtain ⟨feedFunder, -, h⟩ := bind_eq_ok.mp h
    exact sameQuery_doFundFeed (hother rfl) h
  | setupDataFeed queryId reward startTime interval window priceThreshold rewardIncreasePerSecond
      queryData amount =>
    obtain ⟨feedCreator, -, h⟩ := bind_eq_ok.mp h
    obtain ⟨s₁, hstored, -, hrest⟩ := setupDataFeed_eq_ok h
    have hsame : SameQuery q s s₁ := hstored ▸ sameQuery_storeFeed (hother rfl)
    rcases hrest with ⟨-, rfl⟩ | hfund
    · exact hsame
    · exact hsame.trans (sameQuery_doFundFeed (hother rfl) hfund)
  | tip queryId amount queryData =>
    obtain ⟨tipper, -, h⟩ := bind_eq_ok.mp h
    exact sameQuery_tip (hother rfl) h
  | addStakingRewards amount =>
    obtain ⟨source, -, h⟩ := bind_eq_ok.mp h
    obtain ⟨_, hadded, hevents, -⟩ := addStakingRewards_eq_ok h
    have hframe := doAddStakingRewards_frame hadded
    rw [hevents, hframe]
    exact .of_eq rfl rfl rfl
  | submitValue queryId value nonce queryData =>
    obtain ⟨reporter, -, h⟩ := bind_eq_ok.mp h
    obtain ⟨_, hsubmission⟩ := submitValue_submission h
    rw [hsubmission.state_eq]
    exact ⟨Oracle.submit_agree (hother rfl), .refl _ q, rfl⟩
  | updateStakeAmount =>
    obtain ⟨_, -, h⟩ := bind_eq_ok.mp h
    rw [(updateStakeAmount_frame h).1]
    exact .of_eq rfl rfl rfl
  | beginDispute queryId timestamp beneficiary =>
    obtain ⟨initiator, -, h⟩ := bind_eq_ok.mp h
    exact sameQuery_beginDispute (hother rfl) hseries h
  | vote disputeId supports =>
    obtain ⟨voter, -, h⟩ := bind_eq_ok.mp h
    obtain ⟨_, hcast⟩ := doVote_cast h
    rw [hcast.state_eq]
    exact .of_eq rfl rfl rfl
  | voteOnMultipleDisputes votes =>
    obtain ⟨voter, -, h⟩ := bind_eq_ok.mp h
    exact hminor (minor_voteOnMultipleDisputes h) (minor_queryData_eq (minor_voteOnMultipleDisputes h))
  | sendVotes maxVotes =>
    obtain ⟨_, -, h⟩ := bind_eq_ok.mp h
    cases h
    have hsent : Relation.ReflTransGen (Minor cfg) s (doSendVotes cfg send s s.now maxVotes) :=
      minor_doSendVotes send s s.now maxVotes
    exact hminor hsent (minor_queryData_eq hsent)
  | reportStakeDeposited reporter amount address => exact hstaking rfl
  | reportStakingWithdrawRequest reporter amount address => exact hstaking rfl
  | reportStakeWithdrawn reporter amount => exact hstaking rfl
  | reportSlash reporter amount => exact hstaking rfl
  | reportVoteTallied disputeId result =>
    obtain ⟨_, -, h⟩ := bind_eq_ok.mp h
    obtain ⟨_, _, htallied⟩ := tallyVotes_tallied h
    rw [htallied.state_eq]
    exact .of_eq rfl rfl rfl
  | reportVoteExecuted disputeId =>
    obtain ⟨_, -, h⟩ := bind_eq_ok.mp h
    obtain ⟨_, _, _, hexecuted⟩ := executeVote_executed h
    rw [hexecuted.state_eq]
    exact .of_eq rfl rfl rfl

end Calls

section Runs

variable {s : State AccountId} {q : QueryId}

theorem sameQuery_step {input : Input AccountId} (hseries : SeriesInvariant s)
    (hq : input.query ≠ some q) : SameQuery q s (step cfg input s) := by
  cases input with
  | newBlock blockNumber now => exact .of_eq rfl rfl rfl
  | onInitialize send =>
    have hmoves : Relation.ReflTransGen (Minor cfg) s (step cfg (.onInitialize send) s) :=
      (minor_updatePrices s).trans (minor_doSendVotes send _ _ _)
    exact .of_eq (minor_oracle_eq hmoves).1 (minor_autoPay_eq hmoves) (minor_queryData_eq hmoves)
  | external account balance => exact .of_eq rfl rfl rfl
  | extrinsic send origin call =>
    rw [step, applyCall]
    cases hdispatch : dispatch cfg send s origin call with
    | error error => exact .of_eq rfl rfl rfl
    | ok s' => exact sameQuery_dispatch hseries hq hdispatch

/-- Through every run none of whose inputs names a query, its reports, tips, feeds and data stay as they
are, and its log, of which every read of its reports is a function. -/
theorem sameQuery_of_run {inputs : List (Input AccountId)} (h : Reachable cfg s)
    (hadmits : AdmitsAll (step cfg) (Admissible cfg) inputs s)
    (hq : ∀ input ∈ inputs, input.query ≠ some q) :
    SameQuery q s (run (step cfg) inputs s) ∧
      (run (step cfg) inputs s).oracle.log q = s.oracle.log q := by
  have hsame : SameQuery q s (run (step cfg) inputs s) := by
    induction inputs generalizing s with
    | nil => exact .of_eq rfl rfl rfl
    | cons input rest ih =>
      have hfirst : SameQuery q s (step cfg input s) :=
        sameQuery_step h.seriesInvariant (hq input List.mem_cons_self)
      exact hfirst.trans (ih (ReachableBy.step cfg h hadmits.1) hadmits.2
        fun other hother ↦ hq other (List.mem_cons_of_mem _ hother))
  exact ⟨hsame, hsame.reports.log_eq⟩

/-- Three reports for one query; then another query is tipped for, reported and its report disputed. -/
theorem sameQuery_of_run_reports :
    let s := run (step Mock.config) Mock.reports Mock.genesis
    let s' := run (step Mock.config)
      [.extrinsic Mock.send (.signed 5) (.tip 0 100 [1]), Mock.block (12 * hours + 40),
        .extrinsic Mock.send (.signed 7) (.submitValue 0 [2] 0 [1]),
        .extrinsic Mock.send (.signed 9) (.beginDispute 0 (Mock.start + 12 * hours + 40) none)] s
    (s'.autoPay.countTips 0 = 1 ∧
      s'.oracle.isInDispute 0 (Mock.start + 12 * hours + 40) = true) ∧
    SameQuery Mock.queryId s s' ∧ s'.oracle.log Mock.queryId = s.oracle.log Mock.queryId := by
  intro s s'
  refine ⟨by decide +kernel, ?_⟩
  exact sameQuery_of_run (Mock.reachableBy_run _ (by decide +kernel)) (by decide +kernel)
    (by decide +kernel)

end Runs

end TellorPallet
