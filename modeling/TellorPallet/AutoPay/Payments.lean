import TellorPallet.AutoPay.Payouts
import TellorPallet.AutoPay.Runs
import TellorPallet.Staking.Runs

/-!
# The tips account

One account holds the tips of all queries and the balances of all feeds. Along every run it covers
both, no tip entry is paid out twice, and no report is rewarded twice from one feed.
-/

namespace TellorPallet

open Outcome Transition Predecessor

variable {AccountId : Type} [DecidableEq AccountId] {cfg : Config AccountId}

/-- The balances of all feeds. -/
def feedBalances (a : AutoPay AccountId) : ℕ := FiniteMap.total a.dataFeeds fun _ feed ↦ feed.balance

/-- The calls that the history records. -/
def Input.isRecorded : Input AccountId → Bool
  | .extrinsic _ _ (.tip ..) => true
  | .extrinsic _ _ (.claimOnetimeTip ..) => true
  | .extrinsic _ _ (.claimTip ..) => true
  | _ => false

/-- What all other inputs do: they leave the tips and the rewards alone, and what they add to the
feeds is paid into the tips account. -/
structure PaymentsKept (cfg : Config AccountId) (s s' : State AccountId) : Prop where
  tips_eq : s'.autoPay.tips = s.autoPay.tips
  tipCount_eq : s'.autoPay.tipCount = s.autoPay.tipCount
  claimed_eq : s'.autoPay.dataFeedRewardClaimed = s.autoPay.dataFeedRewardClaimed
  covered : feedBalances s'.autoPay + s.ledger cfg.tips ≤ feedBalances s.autoPay + s'.ledger cfg.tips

omit [DecidableEq AccountId] in
theorem PaymentsKept.of_eq {s s' : State AccountId} (hautoPay : s'.autoPay = s.autoPay)
    (hledger : s.ledger cfg.tips ≤ s'.ledger cfg.tips) : PaymentsKept cfg s s' := by
  refine ⟨by rw [hautoPay], by rw [hautoPay], by rw [hautoPay], ?_⟩
  rw [hautoPay]
  exact Nat.add_le_add_left hledger _

omit [DecidableEq AccountId] in
theorem PaymentsKept.trans {s s' s'' : State AccountId} (h : PaymentsKept cfg s s')
    (h' : PaymentsKept cfg s' s'') : PaymentsKept cfg s s'' where
  tips_eq := h'.tips_eq.trans h.tips_eq
  tipCount_eq := h'.tipCount_eq.trans h.tipCount_eq
  claimed_eq := h'.claimed_eq.trans h.claimed_eq
  covered := by
    have hfirst := h.covered
    have hsecond := h'.covered
    omega

omit [DecidableEq AccountId] in
theorem FeedSetUp.paymentsKept {s s' : State AccountId} {queryId : QueryId} {feed : Feed}
    (hbalance : feed.balance = 0) (h : FeedSetUp cfg s queryId feed s') : PaymentsKept cfg s s' := by
  have hledger : s'.ledger = s.ledger := (congrArg State.ledger h.frame :)
  refine ⟨by rw [h.autoPay_eq], by rw [h.autoPay_eq], by rw [h.autoPay_eq], ?_⟩
  rw [hledger, feedBalances, h.autoPay_eq, FiniteMap.total_insert_new h.absent, hbalance]
  exact le_rfl

theorem FeedFunded.paymentsKept {s s' : State AccountId} {feedFunder : AccountId} {feedId : FeedId}
    {queryId : QueryId} {amount : ℕ} {feed : Feed} (hsigner : feedFunder ≠ cfg.tips)
    (h : FeedFunded cfg s feedFunder feedId queryId amount feed s') : PaymentsKept cfg s s' := by
  refine ⟨by rw [h.autoPay_eq], by rw [h.autoPay_eq], by rw [h.autoPay_eq], ?_⟩
  have htotal := FiniteMap.total_insert s.autoPay.dataFeeds (queryId, feedId)
    { feed with balance := Saturating.add cfg.balanceMax feed.balance amount }
    fun _ feed ↦ feed.balance
  rw [h.feed_eq, Option.elim_some] at htotal
  have hle := Saturating.add_le cfg.balanceMax feed.balance amount
  rw [transfer_dest_eq h.transferred hsigner, feedBalances, h.autoPay_eq, feedBalances]
  dsimp only at htotal ⊢
  omega

theorem Effect.paymentsKept {s s' : State AccountId} {input : Input AccountId}
    (hinput : input.isRecorded = false) (h : Effect cfg s input s') : PaymentsKept cfg s s' := by
  have hmem : cfg.tips ∈ palletAccounts cfg := by simp [palletAccounts]
  cases h with
  | refused => exact .of_eq rfl le_rfl
  | minor hruns h =>
    exact .of_eq (minor_autoPay_eq h) (minor_ledger_le h cfg.account_ne_tips.symm)
  | newBlock h => exact .of_eq rfl le_rfl
  | external hbound hpallet => exact .of_eq rfl (ledger_le_of_external hmem hpallet)
  | tipped hsigner h => cases hinput
  | feedSetUp hbalance h => exact h.paymentsKept hbalance
  | feedSetUpFunded hsigner hbalance h hfunded =>
    exact (h.paymentsKept hbalance).trans
      (hfunded.paymentsKept (ne_of_mem_of_not_mem hmem hsigner).symm)
  | feedFunded hsigner h => exact h.paymentsKept (ne_of_mem_of_not_mem hmem hsigner).symm
  | onetimeClaimed hsigner h => cases hinput
  | feedClaimed hsigner h => cases hinput
  | rewardsAdded hsigner h hevents hquiet =>
    have hle := le_of_doAddStakingRewards (ne_of_mem_of_not_mem hmem hsigner) h
    rw [← congrArg State.ledger hevents] at hle
    exact .of_eq ((congrArg State.autoPay hevents :).trans
      (congrArg State.autoPay (doAddStakingRewards_frame h) :)) hle
  | submitted hevent h =>
    exact .of_eq (congrArg State.autoPay h.state_eq :) (congrFun (congrArg State.ledger h.state_eq :) _).ge
  | @disputed _ _ _ _ _ _ _ _ s₁ _ hsigner hround hmax hprepared hopened =>
    have hsame : s₁.autoPay = s.autoPay ∧ s₁.ledger = s.ledger := by
      rcases hprepared with ⟨-, iterations, hfirst⟩ | ⟨-, rfl, -⟩
      · rw [hfirst.state_eq]
        exact ⟨rfl, rfl⟩
      · exact ⟨rfl, rfl⟩
    refine .of_eq ((congrArg State.autoPay hopened.state_eq :).trans hsame.1) ?_
    rw [← hsame.2]
    exact le_of_transfer hopened.transferred (ne_of_mem_of_not_mem hmem hsigner)
  | tallied h =>
    exact .of_eq (congrArg State.autoPay h.state_eq :) (congrFun (congrArg State.ledger h.state_eq :) _).ge
  | executed h =>
    exact .of_eq (congrArg State.autoPay h.state_eq :)
      (ledger_le_of_payRounds h.paid cfg.tips_ne_disputeFees)
  | reported hevent haccepted hcall h =>
    exact .of_eq (congrArg State.autoPay h.frame :) (h.ledger_le cfg.tips_ne_stakingRewards)
  | withdrawn h =>
    exact .of_eq (congrArg State.autoPay h.state_eq :) (congrFun (congrArg State.ledger h.state_eq :) _).ge

/-! ## Claims -/

/-- Paying a reward takes no more than the reward out of the tips account. -/
theorem tips_le_of_payReward {s s' : State AccountId} {reporter : AccountId} {reward : ℕ}
    (h : payReward cfg s reporter reward = .ok s') :
    s.ledger cfg.tips ≤ s'.ledger cfg.tips + reward := by
  obtain ⟨fee, ledger, -, hfee, htransfer, hadd⟩ := payReward_eq_ok h
  have hnet := le_add_of_transfer htransfer cfg.tips
  obtain ⟨st, rate, hledger, -, -⟩ := doAddStakingRewards_eq_ok hadd
  have hrest : ledger cfg.tips ≤ s'.ledger cfg.tips + fee := by
    split at hledger
    · exact le_add_of_transfer hledger cfg.tips
    · rw [← Except.ok.inj hledger]
      exact Nat.le_add_right _ _
  omega

/-- The loop of `claim_tip` marks each report as rewarded, which none of them was before, and stays
within the balance of the feed. -/
theorem claimFeedTimestamps_eq_ok {o : Oracle AccountId} {now : ℕ} {feedId : FeedId}
    {queryId : QueryId} {reporter : AccountId} {balance : ℕ} {last : Option ℕ} {timestamps : List ℕ}
    {reward reward' : ℕ} {a a' : AutoPay AccountId} (hreward : reward ≤ balance)
    (h : claimFeedTimestamps cfg o now feedId queryId reporter balance last timestamps (reward, a) =
      .ok (reward', a')) :
    reward' ≤ balance ∧
      a' = { a with
        feedsWithFunding := a'.feedsWithFunding
        dataFeedRewardClaimed := a'.dataFeedRewardClaimed } ∧
      (∀ key, a'.dataFeedRewardClaimed.lookup key =
        if key ∈ timestamps.map (fun timestamp ↦ (queryId, feedId, timestamp)) then some ()
        else a.dataFeedRewardClaimed.lookup key) ∧
      timestamps.Nodup ∧
      ∀ t ∈ timestamps, a.dataFeedRewardClaimed.lookup (queryId, feedId, t) = none := by
  induction timestamps generalizing reward a with
  | nil =>
    cases h
    exact ⟨hreward, rfl, fun _ ↦ rfl, List.nodup_nil, nofun⟩
  | cons timestamp rest ih =>
    simp only [claimFeedTimestamps, bind_eq_ok] at h
    obtain ⟨⟨reward₁, a₁⟩, hclaimed, hrest⟩ := h
    obtain ⟨report, hclaimed⟩ := claimFeedTimestamp_claimed hclaimed
    obtain ⟨hle, hframe, hlookup, hnodup, hnone⟩ := ih hclaimed.reward_le hrest
    have hset : ∀ key, a₁.dataFeedRewardClaimed.lookup key =
        if key = (queryId, feedId, timestamp) then some ()
        else a.dataFeedRewardClaimed.lookup key := by
      intro key
      rw [hclaimed.autoPay_eq]
      exact FiniteMap.lookup_insert_ite _ _ _ _
    have hfresh : ∀ t ∈ rest, t ≠ timestamp ∧
        a.dataFeedRewardClaimed.lookup (queryId, feedId, t) = none := by
      intro t ht
      have hunset := hnone t ht
      rw [hset] at hunset
      split at hunset
      · cases hunset
      · next hne => exact ⟨fun heq ↦ hne (by rw [heq]), hunset⟩
    refine ⟨hle, ?_, fun key ↦ ?_, List.nodup_cons.mpr ⟨fun hmem ↦ (hfresh timestamp hmem).1 rfl,
      hnodup⟩, List.forall_mem_cons.mpr ⟨hclaimed.unclaimed, fun t ht ↦ (hfresh t ht).2⟩⟩
    · rw [hframe, hclaimed.autoPay_eq]
    · rw [hlookup, hset]
      by_cases hhead : key = (queryId, feedId, timestamp)
      · simp [hhead]
      · simp [hhead]

/-! ## Recorded runs -/

/-- The tips account with its history: it covers the feeds and the tips not yet paid out, no entry was
paid out twice, and no report was rewarded twice. -/
structure Payments (cfg : Config AccountId) (s : State AccountId) (history : History) : Prop where
  reports : SeriesInvariant s
  tips : TipsInvariant s.oracle s.now s.autoPay history
  covered : feedBalances s.autoPay + unpaidTips s.autoPay history.paid ≤ s.ledger cfg.tips
  claimed : ∀ key ∈ history.rewards, s.autoPay.dataFeedRewardClaimed.lookup key = some ()
  rewarded : history.rewards.Nodup

section Steps

variable {s s' : State AccountId} {history : History}

omit [DecidableEq AccountId] in
theorem Payments.kept (hseries : SeriesStep cfg s s') (h : PaymentsKept cfg s s')
    (hinv : Payments cfg s history) : Payments cfg s' history := by
  refine ⟨hseries.preserves hinv.reports,
    hinv.tips.later (hseries.finality hinv.reports) (hseries.exists_report hinv.reports) h.tips_eq
      h.tipCount_eq, ?_, fun key hkey ↦ ?_, hinv.rewarded⟩
  · have hbefore := hinv.covered
    have hadded := h.covered
    have hsame : unpaidTips s'.autoPay history.paid = unpaidTips s.autoPay history.paid := by
      rw [unpaidTips, h.tips_eq, unpaidTips]
    omega
  · rw [h.claimed_eq]
    exact hinv.claimed key hkey

theorem Payments.tipped {tipper : AccountId} {queryId : QueryId} {amount : ℕ} {a : AutoPay AccountId}
    (hsigner : tipper ≠ cfg.tips) (h : Tipped cfg s tipper queryId amount a s')
    (hinv : Payments cfg s history) :
    Payments cfg s' (history.addTip (queryId, s'.autoPay.countTips queryId - 1) amount) := by
  have hframe := h.frame
  have horacle : s'.oracle = s.oracle := (congrArg State.oracle hframe :)
  have hnow : s'.now = s.now := (congrArg State.now hframe :)
  have htips : s'.autoPay.tips = a.tips := (congrArg AutoPay.tips h.autoPay_eq :)
  have hcount : s'.autoPay.tipCount = a.tipCount := (congrArg AutoPay.tipCount h.autoPay_eq :)
  have hcountTips : s'.autoPay.countTips queryId = a.countTips queryId := by
    rw [AutoPay.countTips, hcount, AutoPay.countTips]
  have hfeeds : a.dataFeeds = s.autoPay.dataFeeds ∧
      a.dataFeedRewardClaimed = s.autoPay.dataFeedRewardClaimed := by
    cases h.added <;> exact ⟨rfl, rfl⟩
  have hbalance := transfer_dest_eq h.transferred hsigner
  have hbefore := hinv.covered
  -- the transfer was possible, so the balance type can hold all unpaid tips
  have hbound : unpaidTips s.autoPay history.paid + amount ≤ cfg.balanceMax := by
    obtain ⟨⟨-, hfits, -⟩, -⟩ := (transfer_eq_ok cfg).mp h.transferred
    have hfits := hfits.resolve_left hsigner
    omega
  have htimes : ∀ t ∈ s.oracle.valid queryId, t ≤ s.now := by
    rintro t ⟨report, hreport, -⟩
    exact (hinv.reports.time queryId t report hreport).2
  obtain ⟨htipsInv, hunpaid⟩ := h.added.tipsInvariant h.amount_pos
    (hinv.reports.series queryId).last htimes hbound hinv.tips
  have hstep : SeriesStep cfg s s' := .unchanged horacle hnow.ge
  rw [hcountTips]
  refine ⟨hstep.preserves hinv.reports, ?_, ?_, fun key hkey ↦ ?_, hinv.rewarded⟩
  · exact htipsInv.later (hstep.finality hinv.reports) (hstep.exists_report hinv.reports) htips hcount
  · have hsame : unpaidTips s'.autoPay history.paid = unpaidTips a history.paid := by
      rw [unpaidTips, htips, unpaidTips]
    have hsameFeeds : feedBalances s'.autoPay = feedBalances s.autoPay := by
      rw [feedBalances, (congrArg AutoPay.dataFeeds h.autoPay_eq :), feedBalances]
      exact congrArg (fun feeds ↦ FiniteMap.total feeds fun _ feed ↦ feed.balance) hfeeds.1
    have hpaid : (history.addTip (queryId, a.countTips queryId - 1) amount).paid = history.paid := rfl
    rw [hpaid, hsame, hsameFeeds, hbalance]
    omega
  · have hclaimed : s'.autoPay.dataFeedRewardClaimed = s.autoPay.dataFeedRewardClaimed :=
      (congrArg AutoPay.dataFeedRewardClaimed h.autoPay_eq :).trans hfeeds.2
    rw [hclaimed]
    exact hinv.claimed key hkey

theorem Payments.onetimeClaimed {reporter : AccountId} {queryId : QueryId} {timestamps : List ℕ}
    {reward : ℕ} {a : AutoPay AccountId} {s₁ : State AccountId}
    (h : OnetimeClaimed cfg s reporter queryId timestamps reward a s₁ s')
    (hinv : Payments cfg s history) :
    Payments cfg s' (history.addPayouts
      (claimPayouts cfg s.oracle s.now queryId reporter timestamps s.autoPay)) := by
  have hframe := h.frame
  have horacle : s'.oracle = s.oracle := (congrArg State.oracle hframe :)
  have hnow : s'.now = s.now := (congrArg State.now hframe :)
  have hpaid := tips_le_of_payReward h.paid
  have hledger : s'.ledger = s₁.ledger := (congrArg State.ledger h.state_eq :)
  rw [← hledger] at hpaid
  have hautoPay : s₁.autoPay = a := (congrArg State.autoPay (payReward_frame h.paid) :)
  obtain ⟨htipsInv, hunpaid, -⟩ :=
    claimTimestamps_tipsInvariant (hinv.reports.series queryId) hinv.tips h.claimed
  have ha := claimTimestamps_frame h.claimed
  have htips : s'.autoPay.tips = a.tips := by
    rw [h.state_eq, hautoPay]
  have hcount : s'.autoPay.tipCount = a.tipCount := by
    rw [h.state_eq, hautoPay]
  have hfeeds : s'.autoPay.dataFeeds = s.autoPay.dataFeeds := by
    rw [h.state_eq, hautoPay, ha]
  have hclaimed : s'.autoPay.dataFeedRewardClaimed = s.autoPay.dataFeedRewardClaimed := by
    rw [h.state_eq, hautoPay, ha]
  have hstep : SeriesStep cfg s s' := .unchanged horacle hnow.ge
  refine ⟨hstep.preserves hinv.reports,
    htipsInv.later (hstep.finality hinv.reports) (hstep.exists_report hinv.reports) htips hcount, ?_,
    fun key hkey ↦ ?_, hinv.rewarded⟩
  · have hbefore := hinv.covered
    rw [unpaidTips, htips, feedBalances, hfeeds]
    rw [unpaidTips] at hunpaid
    rw [feedBalances] at hbefore
    dsimp only at hpaid
    omega
  · rw [hclaimed]
    exact hinv.claimed key hkey

theorem Payments.feedClaimed {reporter : AccountId} {feedId : FeedId} {queryId : QueryId}
    {timestamps : List ℕ} {feed : Feed} {reward : ℕ} {a : AutoPay AccountId} {s₁ : State AccountId}
    (h : FeedClaimed cfg s reporter feedId queryId timestamps feed reward a s₁ s')
    (hinv : Payments cfg s history) :
    Payments cfg s' (history.addRewards
      (timestamps.map fun timestamp ↦ (queryId, feedId, timestamp))) := by
  have hframe := h.frame
  have horacle : s'.oracle = s.oracle := (congrArg State.oracle hframe :)
  have hnow : s'.now = s.now := (congrArg State.now hframe :)
  have hpaid := tips_le_of_payReward h.paid
  have hledger : s'.ledger = s₁.ledger := (congrArg State.ledger h.state_eq :)
  rw [← hledger] at hpaid
  obtain ⟨hreward, ha, hclaimed, hnodup, hnone⟩ :=
    claimFeedTimestamps_eq_ok (Nat.zero_le _) h.claimed
  have hautoPay : s'.autoPay = { a with
      dataFeeds := a.dataFeeds.insert (queryId, feedId)
        { feed with balance := feed.balance - reward } } := by
    rw [h.state_eq]
    exact (congrArg State.autoPay (payReward_frame h.paid) :)
  have htips : s'.autoPay.tips = s.autoPay.tips := by
    rw [hautoPay, ha]
  have hcount : s'.autoPay.tipCount = s.autoPay.tipCount := by
    rw [hautoPay, ha]
  have hrewards : ∀ key, s'.autoPay.dataFeedRewardClaimed.lookup key =
      if key ∈ timestamps.map (fun timestamp ↦ (queryId, feedId, timestamp)) then some ()
      else s.autoPay.dataFeedRewardClaimed.lookup key := by
    rw [hautoPay]
    exact hclaimed
  have hstep : SeriesStep cfg s s' := .unchanged horacle hnow.ge
  have hlater := hinv.tips.later (hstep.finality hinv.reports) (hstep.exists_report hinv.reports) htips
    hcount
  refine ⟨hstep.preserves hinv.reports,
    ⟨hlater.series, hlater.paidOut, hlater.nodup, hlater.unpaid⟩, ?_, fun key hkey ↦ ?_, ?_⟩
  · have hbefore := hinv.covered
    have htotal := FiniteMap.total_insert s.autoPay.dataFeeds (queryId, feedId)
      { feed with balance := feed.balance - reward } fun _ feed ↦ feed.balance
    rw [h.feed_eq, Option.elim_some] at htotal
    have hfeeds : feedBalances s'.autoPay = FiniteMap.total
        (s.autoPay.dataFeeds.insert (queryId, feedId)
          { feed with balance := feed.balance - reward }) fun _ feed ↦ feed.balance := by
      rw [feedBalances, hautoPay, ha]
    have hsame : unpaidTips s'.autoPay history.paid = unpaidTips s.autoPay history.paid := by
      rw [unpaidTips, htips, unpaidTips]
    have hpaidSame : (history.addRewards
        (timestamps.map fun timestamp ↦ (queryId, feedId, timestamp))).paid = history.paid := rfl
    rw [hpaidSame, hsame, hfeeds]
    rw [feedBalances] at hbefore
    dsimp only at hpaid htotal ⊢
    omega
  · rw [hrewards]
    split
    · rfl
    · next hnew =>
      rcases List.mem_append.mp hkey with hold | hadded
      · exact hinv.claimed key hold
      · exact absurd hadded hnew
  · refine List.nodup_append.mpr ⟨hinv.rewarded, hnodup.map fun t t' heq ↦ ?_, ?_⟩
    · exact (Prod.mk.inj (Prod.mk.inj heq).2).2
    · rintro key hold key' hnew rfl
      obtain ⟨t, ht, rfl⟩ := List.mem_map.mp hnew
      have hset := hinv.claimed _ hold
      rw [hnone t ht] at hset
      cases hset

/-- Inputs that are not recorded leave the history alone. -/
theorem record_of_not_recorded {input : Input AccountId} (h : input.isRecorded = false) :
    record cfg s input history = history := by
  cases input with
  | extrinsic send origin call =>
    cases origin with
    | signed signer =>
      rw [record]
      cases dispatch cfg send s (.signed signer) call with
      | error e => rfl
      | ok s' => cases call <;> first | rfl | cases h
    | _ => rfl
  | _ => rfl

/-- What an admitted input does to the state, with what it adds to the history. -/
inductive HistoryStep (cfg : Config AccountId) (s : State AccountId) (history : History) :
    Input AccountId → State AccountId → History → Prop where
  | kept {input : Input AccountId} {s' : State AccountId} (hseries : SeriesStep cfg s s')
      (h : PaymentsKept cfg s s') : HistoryStep cfg s history input s' history
  | tipped {send : Sender} {tipper : AccountId} {queryId : QueryId} {amount : ℕ}
      {queryData : QueryData} {a : AutoPay AccountId} {s' : State AccountId}
      (hsigner : tipper ≠ cfg.tips) (h : Tipped cfg s tipper queryId amount a s') :
      HistoryStep cfg s history (.extrinsic send (.signed tipper) (.tip queryId amount queryData)) s'
        (history.addTip (queryId, s'.autoPay.countTips queryId - 1) amount)
  | onetimeClaimed {send : Sender} {reporter : AccountId} {queryId : QueryId} {timestamps : List ℕ}
      {reward : ℕ} {a : AutoPay AccountId} {s₁ s' : State AccountId}
      (h : OnetimeClaimed cfg s reporter queryId timestamps reward a s₁ s') :
      HistoryStep cfg s history
        (.extrinsic send (.signed reporter) (.claimOnetimeTip queryId timestamps)) s'
        (history.addPayouts (claimPayouts cfg s.oracle s.now queryId reporter timestamps s.autoPay))
  | feedClaimed {send : Sender} {reporter : AccountId} {feedId : FeedId} {queryId : QueryId}
      {timestamps : List ℕ} {feed : Feed} {reward : ℕ} {a : AutoPay AccountId}
      {s₁ s' : State AccountId}
      (h : FeedClaimed cfg s reporter feedId queryId timestamps feed reward a s₁ s') :
      HistoryStep cfg s history
        (.extrinsic send (.signed reporter) (.claimTip feedId queryId timestamps)) s'
        (history.addRewards (timestamps.map fun timestamp ↦ (queryId, feedId, timestamp)))

theorem step_history {input : Input AccountId} (hadmits : Admissible cfg s input) :
    HistoryStep cfg s history input (step cfg input s) (record cfg s input history) := by
  have heffect := step_effect hadmits
  cases hrecorded : input.isRecorded with
  | false =>
    rw [record_of_not_recorded hrecorded]
    exact .kept heffect.seriesStep (heffect.paymentsKept hrecorded)
  | true =>
    have hmem : cfg.tips ∈ palletAccounts cfg := by simp [palletAccounts]
    have hunchanged : HistoryStep cfg s history input s history :=
      .kept (.unchanged rfl le_rfl) (.of_eq rfl le_rfl)
    cases input with
    | extrinsic send origin call =>
      cases origin with
      | signed signer =>
        have hsigner : signer ≠ cfg.tips := fun heq ↦ hadmits cfg.tips hmem (heq ▸ rfl)
        rw [record]
        change HistoryStep cfg s history _ (applyCall cfg send s (.signed signer) call) _
        unfold applyCall
        cases hdispatch : dispatch cfg send s (.signed signer) call with
        | error e => exact hunchanged
        | ok s' =>
          cases call with
          | tip queryId amount queryData =>
            obtain ⟨a, htipped⟩ := tip_tipped hdispatch
            exact .tipped hsigner htipped
          | claimOnetimeTip queryId timestamps =>
            obtain ⟨reward, a, s₁, hclaimed⟩ := claimOnetimeTip_claimed hdispatch
            exact .onetimeClaimed hclaimed
          | claimTip feedId queryId timestamps =>
            obtain ⟨feed, reward, a, s₁, hclaimed⟩ := claimTip_claimed hdispatch
            exact .feedClaimed hclaimed
          | _ => cases hrecorded
      | _ => cases call <;> first | exact hunchanged | cases hrecorded
    | _ => cases hrecorded

/-- Every step keeps the tips account in order. -/
theorem HistoryStep.payments {input : Input AccountId} {history' : History}
    (h : HistoryStep cfg s history input s' history') (hinv : Payments cfg s history) :
    Payments cfg s' history' := by
  cases h with
  | kept hseries h => exact hinv.kept hseries h
  | tipped hsigner h => exact hinv.tipped hsigner h
  | onetimeClaimed h => exact hinv.onetimeClaimed h
  | feedClaimed h => exact hinv.feedClaimed h

omit [DecidableEq AccountId] in
/-- Before the first block nothing was tipped. -/
theorem payments_genesis (h : IsGenesis cfg s) : Payments cfg s History.empty := by
  have hreports := seriesInvariant_genesis h
  obtain ⟨ledger, blockNumber, now, -, rfl⟩ := h
  refine ⟨hreports, ⟨fun q ↦ ?_, nofun, List.nodup_nil, fun q i entry hentry ↦ ?_⟩, ?_, nofun,
    List.nodup_nil⟩
  · constructor <;> simp [State.genesis, AutoPay.countTips, History.empty]
  · simp [State.genesis] at hentry
  · simp [State.genesis, feedBalances, unpaidTips]

/-- The tips account is in order throughout every recorded run. -/
theorem Recorded.payments (h : Recorded cfg s history) : Payments cfg s history :=
  h.invariant cfg (Payments cfg) (fun _ ↦ payments_genesis) fun _ _ _ hinv hadmits ↦
    (step_history hadmits).payments hinv

/-- In every reachable state no tip entry was paid out twice, no report was rewarded twice from one
feed, and the tips account covers the balances of all feeds with the amounts of all entries not yet
paid out, which are what was tipped into them. A claim takes no more out of the account than was
tipped into the entries it pays out. -/
theorem payments_of_recorded (h : Recorded cfg s history) :
    history.paid.Nodup ∧ history.rewards.Nodup ∧
      feedBalances s.autoPay + unpaidTips s.autoPay history.paid ≤ s.ledger cfg.tips ∧
      (∀ entry tip, s.autoPay.tips.lookup entry = some tip → entry ∉ history.paid →
        tip.amount = history.tipped entry) ∧
      ∀ reporter queryId timestamps s',
        claimOnetimeTip cfg s reporter queryId timestamps = .ok s' →
          s.ledger cfg.tips ≤ s'.ledger cfg.tips +
            ((claimPayouts cfg s.oracle s.now queryId reporter timestamps s.autoPay).map
              fun payout ↦ history.tipped payout.1).sum := by
  have hinv := h.payments
  refine ⟨hinv.tips.nodup, hinv.rewarded, hinv.covered, fun ⟨q, i⟩ tip ↦ hinv.tips.unpaid q i tip,
    fun reporter queryId timestamps s' hclaim ↦ ?_⟩
  obtain ⟨reward, a, s₁, hclaimed⟩ := claimOnetimeTip_claimed hclaim
  have hpaid := tips_le_of_payReward hclaimed.paid
  have hledger : s'.ledger = s₁.ledger := (congrArg State.ledger hclaimed.state_eq :)
  obtain ⟨-, -, hreward⟩ :=
    claimTimestamps_tipsInvariant (hinv.reports.series queryId) hinv.tips hclaimed.claimed
  rw [hledger]
  rw [Nat.zero_add] at hreward
  exact hpaid.trans (Nat.add_le_add_left hreward _)

/-- Two tips of the mock runtime are paid out and one report is rewarded from a feed, each once. -/
theorem payments_of_recorded_claims :
    (Mock.recorded Mock.payments).2.paid = [(Mock.queryId, 0), (Mock.queryId, 1)] ∧
      (Mock.recorded Mock.payments).2.rewards = [(Mock.queryId, Mock.feedId, Mock.start + 10)] ∧
      (Mock.recorded Mock.payments).2.paid.Nodup :=
  ⟨by decide +kernel, by decide +kernel,
    (payments_of_recorded (Mock.recordedBy_recorded Mock.payments (by decide +kernel))).1⟩

end Steps

end TellorPallet
