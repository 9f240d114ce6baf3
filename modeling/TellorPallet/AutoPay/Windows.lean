import TellorPallet.AutoPay.Payments

/-!
# One reward per window

Without a price threshold a feed rewards a report only when it lies in the window at the start of an
interval and no valid report before it does. As a rewarded report is settled, the reports before it
stay as they are, so that a second report of the interval always finds the first one before it.
-/

namespace TellorPallet

open Outcome Transition Predecessor

variable {AccountId : Type} [DecidableEq AccountId] {cfg : Config AccountId}

/-! ## Intervals -/

/-- The time lies in the `k`-th interval of the feed. -/
def Feed.InInterval (feed : Feed) (k t : ℕ) : Prop :=
  feed.startTime + k * feed.interval ≤ t ∧ t < feed.startTime + (k + 1) * feed.interval

/-- The start of the interval of a feed that a time lies in, as `do_get_reward_amount` finds it. -/
def Feed.intervalStart (feed : Feed) (t : ℕ) : ℕ :=
  feed.startTime + feed.interval * ((t - feed.startTime) / feed.interval)

theorem Feed.InInterval.intervalStart_eq {feed : Feed} {k t : ℕ} (h : feed.InInterval k t) :
    feed.intervalStart t = feed.startTime + k * feed.interval := by
  obtain ⟨hlower, hupper⟩ := h
  have hk : (t - feed.startTime) / feed.interval = k := by
    apply Nat.div_eq_of_lt_le
    · omega
    · omega
  rw [Feed.intervalStart, hk, Nat.mul_comm]

theorem Feed.inInterval_of_started {feed : Feed} {t : ℕ} (hinterval : 0 < feed.interval)
    (hstarted : feed.startTime ≤ t) :
    feed.InInterval ((t - feed.startTime) / feed.interval) t := by
  have hlower := Nat.div_mul_le_self (t - feed.startTime) feed.interval
  have hupper := Nat.lt_div_mul_add (a := t - feed.startTime) hinterval
  constructor
  · omega
  · rw [Nat.add_mul, Nat.one_mul]
    omega

/-! ## The reward of a report -/

/-- A report that a feed without a price threshold rewards: it is settled, and the first valid one
since the start of its interval, within the window. -/
structure FirstInWindow (o : Oracle AccountId) (now : ℕ) (queryId : QueryId) (feed : Feed) (t : ℕ) :
    Prop where
  settled : Settled o now queryId t
  interval_pos : 0 < feed.interval
  started : feed.startTime ≤ t
  within : t < feed.intervalStart t + feed.window
  first : ∀ p ∈ o.valid queryId, p < t → p < feed.intervalStart t

section Rewards

variable {o : Oracle AccountId} {now : ℕ} {a a' : AutoPay AccountId} {queryId : QueryId}
  {feedId : FeedId} {feed : Feed} {t amount : ℕ}

omit [DecidableEq AccountId] in
/-- What `do_get_reward_amount` found of a report, and the amount, without a price threshold. -/
theorem doGetRewardAmount_window (hfeed : a.dataFeeds.lookup (queryId, feedId) = some feed)
    (hthreshold : feed.priceThreshold = 0)
    (h : doGetRewardAmount cfg o now a feedId queryId t = .ok amount) :
    ∃ report, o.reports.lookup (queryId, t) = some report ∧ 0 < feed.interval ∧
      feed.startTime ≤ t ∧ t < feed.intervalStart t + feed.window ∧
      report.previous.getD 0 < feed.intervalStart t ∧
      amount = min feed.balance (Saturating.add cfg.balanceMax feed.reward
        (feed.rewardIncreasePerSecond * (t - feed.intervalStart t))) := by
  simp only [doGetRewardAmount, bind_eq_ok, okOr_eq_ok, guard_eq_ok, exists_const,
    Checked.sub_eq_some, Checked.div_eq_some, Checked.mul_eq_some, Checked.add_eq_some] at h
  obtain ⟨_, ⟨-, rfl⟩, -, feed', hfeed', -, _, ⟨hstarted, rfl⟩, _, ⟨hinterval, rfl⟩, _, ⟨-, rfl⟩, c,
    ⟨-, hc⟩, report, hreport, -, change, hchange, _, ⟨hle, rfl⟩, reward, hreward, h⟩ := h
  rw [hfeed] at hfeed'
  cases hfeed'
  have hstart : c = feed.intervalStart t := hc.symm
  subst hstart
  rw [hthreshold, if_neg (not_not.mpr rfl)] at hchange
  cases hchange
  unfold eligibleReward at hreward
  split at hreward
  · next hfirst =>
    simp only [bind_eq_ok, okOr_eq_ok, Checked.mul_eq_some] at hreward
    obtain ⟨_, ⟨-, rfl⟩, hreward⟩ := hreward
    cases hreward
    refine ⟨report, hreport, Nat.pos_of_ne_zero hinterval, hstarted, by omega, hfirst.2, ?_⟩
    cases h
    split
    · next hless => rw [min_eq_left hless.le]
    · next hmore => rw [min_eq_right (not_lt.mp hmore)]
  · -- without a threshold no price change is enough
    simp only [bind_eq_ok, guard_eq_ok, hthreshold] at hreward
    obtain ⟨_, hchange, -⟩ := hreward
    exact absurd hchange (lt_irrefl 0)

/-- Each report of a claim had its reward computed on the feeds as they were before the claim. -/
theorem rewards_of_claimFeedTimestamps {reporter : AccountId} {balance reward reward' : ℕ}
    {last : Option ℕ} {timestamps : List ℕ}
    (h : claimFeedTimestamps cfg o now feedId queryId reporter balance last timestamps (reward, a) =
      .ok (reward', a')) (t : ℕ) (ht : t ∈ timestamps) :
    ∃ a₁ amount, a₁.dataFeeds = a.dataFeeds ∧
      doGetRewardAmount cfg o now a₁ feedId queryId t = .ok amount := by
  induction timestamps generalizing reward a with
  | nil => exact absurd ht List.not_mem_nil
  | cons timestamp rest ih =>
    simp only [claimFeedTimestamps, bind_eq_ok] at h
    obtain ⟨⟨reward₁, a₁⟩, hfirst, hrest⟩ := h
    obtain ⟨report, hclaimed⟩ := claimFeedTimestamp_claimed hfirst
    rcases List.mem_cons.mp ht with rfl | hmem
    · simp only [claimFeedTimestamp, bind_eq_ok] at hfirst
      obtain ⟨_, -, _, -, _, -, amount, hamount, -⟩ := hfirst
      exact ⟨a, amount, rfl, hamount⟩
    · obtain ⟨a₂, amount, hfeeds, hamount⟩ := ih hrest hmem
      exact ⟨a₂, amount, hfeeds.trans (congrArg AutoPay.dataFeeds hclaimed.autoPay_eq :), hamount⟩

/-- A claimed report is the first one in its window. -/
theorem firstInWindow_of_claim {reporter : AccountId} {balance reward reward' : ℕ}
    {last : Option ℕ} {timestamps : List ℕ} (hreports : o.ReportSeries queryId)
    (hfeed : a.dataFeeds.lookup (queryId, feedId) = some feed) (hthreshold : feed.priceThreshold = 0)
    (h : claimFeedTimestamps cfg o now feedId queryId reporter balance last timestamps (reward, a) =
      .ok (reward', a')) (t : ℕ) (ht : t ∈ timestamps) :
    FirstInWindow o now queryId feed t := by
  obtain ⟨a₁, amount, hfeeds, hamount⟩ := rewards_of_claimFeedTimestamps h t ht
  rw [← hfeeds] at hfeed
  obtain ⟨report, hreport, hinterval, hstarted, hwithin, hfirst, -⟩ :=
    doGetRewardAmount_window hfeed hthreshold hamount
  refine ⟨settled_of_claimFeedTimestamps h t ht, hinterval, hstarted, hwithin, fun p hp hlt ↦ ?_⟩
  have hprevious := hreports.previous t report hreport
  cases hcase : report.previous with
  | none =>
    rw [hcase] at hprevious
    exact absurd hlt (not_lt.mpr (isLastBelow_none.mp hprevious p hp))
  | some u =>
    rw [hcase] at hprevious hfirst
    exact ((isLastBelow_some.mp hprevious).2.2 p hp hlt).trans_lt hfirst

omit [DecidableEq AccountId] in
/-- Only one report of an interval is the first in the window. -/
theorem FirstInWindow.unique {now' k t' : ℕ} (h : FirstInWindow o now queryId feed t)
    (h' : FirstInWindow o now' queryId feed t') (hin : feed.InInterval k t)
    (hin' : feed.InInterval k t') : t = t' := by
  have hstart := hin.intervalStart_eq
  have hstart' := hin'.intervalStart_eq
  rcases lt_trichotomy t t' with hlt | heq | hgt
  · have hbefore := h'.first t h.settled.2 hlt
    have hlower := hin.1
    omega
  · exact heq
  · have hbefore := h.first t' h'.settled.2 hgt
    have hlower := hin'.1
    omega

end Rewards

/-! ## Runs -/

/-- Every rewarded report of a feed without a price threshold is the first in its window. -/
structure WindowsKept (cfg : Config AccountId) (s : State AccountId) (history : History) : Prop where
  series : SeriesInvariant s
  bounded : ∀ key feed, s.autoPay.dataFeeds.lookup key = some feed → feed.balance ≤ cfg.balanceMax
  first : ∀ queryId feedId t, (queryId, feedId, t) ∈ history.rewards →
    ∃ feed, s.autoPay.dataFeeds.lookup (queryId, feedId) = some feed ∧
      (feed.priceThreshold = 0 → FirstInWindow s.oracle s.now queryId feed t)

section Steps

variable {s s' : State AccountId} {history history' : History}

omit [DecidableEq AccountId] in
/-- A settled report stays the first in its window. -/
theorem FirstInWindow.later {queryId : QueryId} {feed : Feed} {t : ℕ} (hfinal : Finality s s')
    (h : FirstInWindow s.oracle s.now queryId feed t) :
    FirstInWindow s'.oracle s'.now queryId feed t := by
  obtain ⟨⟨hlock, hvalid⟩, hinterval, hstarted, hwithin, hfirst⟩ := h
  refine ⟨⟨hlock.trans hfinal.now_le, (hfinal.mem_valid hlock).mp hvalid⟩, hinterval, hstarted,
    hwithin, fun p hp hlt ↦ ?_⟩
  have hold : p ∈ s.oracle.valid queryId := (hfinal.mem_valid (by omega)).mpr hp
  exact hfirst p hold hlt

theorem HistoryStep.windowsKept {input : Input AccountId} (heffect : Effect cfg s input s')
    (hstep : HistoryStep cfg s history input s' history') (hinv : WindowsKept cfg s history) :
    WindowsKept cfg s' history' := by
  have hfinal := heffect.seriesStep.finality hinv.series
  have hterms := heffect.autoPayStep.termsKept
  refine ⟨heffect.seriesStep.preserves hinv.series, hterms.bounded hinv.bounded, ?_⟩
  -- what was rewarded before stays first in its window
  have hbefore : ∀ queryId feedId t, (queryId, feedId, t) ∈ history.rewards →
      ∃ feed, s'.autoPay.dataFeeds.lookup (queryId, feedId) = some feed ∧
        (feed.priceThreshold = 0 → FirstInWindow s'.oracle s'.now queryId feed t) := by
    intro queryId feedId t ht
    obtain ⟨feed, hfeed, hfirst⟩ := hinv.first queryId feedId t ht
    obtain ⟨balance, hfeed'⟩ := hterms.kept _ feed hfeed
    refine ⟨_, hfeed', fun hthreshold ↦ ?_⟩
    obtain ⟨hsettled, hinterval, hstarted, hwithin, hfirst⟩ := (hfirst hthreshold).later hfinal
    exact ⟨hsettled, hinterval, hstarted, hwithin, hfirst⟩
  cases hstep with
  | kept hseries h => exact hbefore
  | tipped hsigner h => exact hbefore
  | onetimeClaimed h => exact hbefore
  | @feedClaimed send reporter feedId queryId timestamps feed reward a s₁ _ h =>
    intro q f t ht
    rcases List.mem_append.mp ht with hold | hnew
    · exact hbefore q f t hold
    · obtain ⟨_, ht, heq⟩ := List.mem_map.mp hnew
      cases heq
      obtain ⟨balance, hfeed'⟩ := hterms.kept _ feed h.feed_eq
      refine ⟨_, hfeed', fun hthreshold ↦ ?_⟩
      obtain ⟨hsettled, hinterval, hstarted, hwithin, hfirst⟩ :=
        (firstInWindow_of_claim (hinv.series.series queryId) h.feed_eq hthreshold h.claimed t ht).later
          hfinal
      exact ⟨hsettled, hinterval, hstarted, hwithin, hfirst⟩

theorem Recorded.windowsKept (h : Recorded cfg s history) : WindowsKept cfg s history :=
  h.invariant cfg (WindowsKept cfg)
    (fun _ hgenesis ↦ ⟨seriesInvariant_genesis hgenesis, feeds_bounded_genesis hgenesis, nofun⟩)
    fun _ _ _ hinv hadmits ↦ (step_history hadmits).windowsKept (step_effect hadmits) hinv

/-- In every run, of the reports rewarded from a feed without a price threshold at most one lies in
each interval, and it lies in the window at the start of its interval. A reward is computed as what
the terms of the feed give for the time since that start, or the balance of the feed if that is
less. -/
theorem windowRewards_of_recorded (h : Recorded cfg s history) {queryId : QueryId} {feedId : FeedId}
    {feed : Feed} (hfeed : s.autoPay.dataFeeds.lookup (queryId, feedId) = some feed)
    (hthreshold : feed.priceThreshold = 0) :
    (∀ k t t', (queryId, feedId, t) ∈ history.rewards → (queryId, feedId, t') ∈ history.rewards →
      feed.InInterval k t → feed.InInterval k t' → t = t') ∧
    (∀ t, (queryId, feedId, t) ∈ history.rewards →
      ∃ k, feed.InInterval k t ∧ t < feed.startTime + k * feed.interval + feed.window) ∧
    ∀ a t amount, a.dataFeeds = s.autoPay.dataFeeds →
      doGetRewardAmount cfg s.oracle s.now a feedId queryId t = .ok amount →
        ∃ k, feed.InInterval k t ∧ t < feed.startTime + k * feed.interval + feed.window ∧
          amount = min feed.balance (feed.reward + feed.rewardIncreasePerSecond *
            (t - (feed.startTime + k * feed.interval))) := by
  have hinv := h.windowsKept
  have hfirst : ∀ t, (queryId, feedId, t) ∈ history.rewards →
      FirstInWindow s.oracle s.now queryId feed t := by
    intro t ht
    obtain ⟨feed', hfeed', hfirst⟩ := hinv.first queryId feedId t ht
    rw [hfeed] at hfeed'
    cases hfeed'
    exact hfirst hthreshold
  refine ⟨fun k t t' ht ht' ↦ (hfirst t ht).unique (hfirst t' ht'), fun t ht ↦ ?_,
    fun a t amount hfeeds hamount ↦ ?_⟩
  · have hin := Feed.inInterval_of_started (hfirst t ht).interval_pos (hfirst t ht).started
    refine ⟨_, hin, ?_⟩
    rw [← hin.intervalStart_eq]
    exact (hfirst t ht).within
  · rw [← hfeeds] at hfeed
    obtain ⟨report, -, hinterval, hstarted, hwithin, -, heq⟩ :=
      doGetRewardAmount_window hfeed hthreshold hamount
    have hin := Feed.inInterval_of_started hinterval hstarted
    refine ⟨_, hin, ?_⟩
    rw [← hin.intervalStart_eq]
    refine ⟨hwithin, ?_⟩
    -- a balance is never more than the balance type holds
    rw [hfeeds] at hfeed
    have hbound := hinv.bounded _ feed hfeed
    calc
      amount = min feed.balance (min (feed.reward +
          feed.rewardIncreasePerSecond * (t - feed.intervalStart t)) cfg.balanceMax) := heq
      _ = min (min feed.balance cfg.balanceMax) (feed.reward +
          feed.rewardIncreasePerSecond * (t - feed.intervalStart t)) := by
        rw [min_comm _ cfg.balanceMax, ← min_assoc]
      _ = min feed.balance (feed.reward +
          feed.rewardIncreasePerSecond * (t - feed.intervalStart t)) := by
        rw [min_eq_left hbound]

end Steps

/-- The report that the feed of the mock runtime rewards lies in the window of an interval. -/
theorem windowRewards_of_recorded_payments :
    ∃ k, Feed.InInterval ⟨100, 900, Mock.start, 3600, 600, 0, 0⟩ k (Mock.start + 10) ∧
      Mock.start + 10 < Mock.start + k * 3600 + 600 := by
  have hrecorded : Recorded Mock.config _ _ :=
    Mock.recordedBy_recorded Mock.payments (by decide +kernel)
  have hfeed : (Mock.recorded Mock.payments).1.autoPay.dataFeeds.lookup (Mock.queryId, Mock.feedId) =
      some ⟨100, 900, Mock.start, 3600, 600, 0, 0⟩ := by decide +kernel
  exact (windowRewards_of_recorded hrecorded hfeed rfl).2.1 (Mock.start + 10) (by decide +kernel)

end TellorPallet
