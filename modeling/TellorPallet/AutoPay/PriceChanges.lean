import Mathlib.Data.Nat.Dist
import TellorPallet.AutoPay.Windows
import TellorPallet.Pallet.Decoding

/-!
# Rewards for a change in price

A report that is not the first in the window of an interval is rewarded when its value differs from
the valid one before it by more than the threshold of the feed. The change is computed in 256 bits
and kept in 16, so that it agrees with the exact one except where it overflows, or where the threshold
is the largest number of 16 bits.
-/

namespace TellorPallet

open Outcome Transition Predecessor

variable {AccountId : Type}

/-- The change from one value to the next in hundredths of a percent, which counts as 10000 from
zero. -/
def deviation (before after : ℕ) : ℕ :=
  if before = 0 then 10000 else 10000 * Nat.dist after before / before

/-- The number a report has as its value, zero where there is no report. -/
def Oracle.numberAt (o : Oracle AccountId) (queryId : QueryId) (t : Option ℕ) : ℕ :=
  ofBigEndian ((t.bind fun t ↦ o.reportedValuesByTimestamp.lookup (queryId, t)).getD [])

/-- Whether a report is rewarded hinges on the change from the value before it: the report is settled in
every other respect, and not the first valid one in the window of an interval. -/
structure HingesOnChange (s : State AccountId) (feedId : FeedId) (queryId : QueryId) (t : ℕ)
    (feed : Feed) (before after : ℕ) : Prop where
  feed_eq : s.autoPay.dataFeeds.lookup (queryId, feedId) = some feed
  threshold : feed.priceThreshold ≠ 0
  valid : t ∈ s.oracle.valid queryId
  unclaimed : s.autoPay.dataFeedRewardClaimed.lookup (queryId, feedId, t) = none
  unexpired : s.now < t + 4 * weeks
  started : feed.startTime ≤ t
  notFirst : ¬(t < feed.intervalStart t + feed.window ∧
    ∀ p ∈ s.oracle.valid queryId, p < t → p < feed.intervalStart t)
  after_eq : s.oracle.numberAt queryId (some t) = after
  before_eq : ∃ p, IsLastBelow (s.oracle.valid queryId) t p ∧ s.oracle.numberAt queryId p = before
  after_fits : after < 2 ^ 256
  before_fits : before < 2 ^ 256

/-! ## The computed change -/

section Change

variable {o : Oracle AccountId} {queryId : QueryId} {t u : ℕ} {value : Value} {before after : ℕ}

theorem absoluteChange_eq (before after : ℕ) :
    (if before ≤ after then Checked.sub after before else Checked.sub before after) =
      some (Nat.dist after before) := by
  split
  · next hle => exact Checked.sub_eq_some.mpr ⟨hle, (Nat.dist_eq_sub_of_le_right hle).symm⟩
  · next hlt =>
    have hle : after ≤ before := (not_le.mp hlt).le
    exact Checked.sub_eq_some.mpr ⟨hle, (Nat.dist_eq_sub_of_le hle).symm⟩

/-- The computed change is the exact one, up to the largest number of 16 bits; a product that 256 bits
do not hold is an error. -/
theorem priceChange_eq_deviation (hvalue : o.retrieveData queryId t = some value) (hne : value ≠ [])
    (hafter : bytesToU256 value = some after)
    (hbefore : bytesToU256 ((o.retrieveData queryId u).getD []) = some before) :
    priceChange o queryId t u =
      if before = 0 ∨ 10000 * Nat.dist after before ≤ u256Max then
        .ok (min (deviation before after) u16Max)
      else .error overflow := by
  have hlength : Outcome.guard (value.length ≠ 0) (DispatchError.module .invalidValue) = .ok () :=
    guard_eq_ok.mpr fun hzero ↦ hne (List.length_eq_zero_iff.mp hzero)
  simp only [priceChange, hvalue, okOr, ensure, hlength, hafter, hbefore, bind, Except.bind,
    absoluteChange_eq]
  by_cases hzero : before = 0
  · rw [if_pos hzero, if_pos (Or.inl hzero), deviation, if_pos hzero]
    rfl
  rw [if_neg hzero, deviation, if_neg hzero]
  by_cases hfits : 10000 * Nat.dist after before ≤ u256Max
  · rw [if_pos (Or.inr hfits), Checked.mul, if_pos hfits]
  · rw [if_neg (not_or.mpr ⟨hzero, hfits⟩), Checked.mul, if_neg hfits]

end Change

/-! ## The reward -/

section Reward

variable [DecidableEq AccountId] {cfg : Config AccountId} {s : State AccountId} {feedId : FeedId}
  {queryId : QueryId} {t : ℕ} {feed : Feed} {before after : ℕ}

/-- A report after a valid one in the same interval is not the first in its window. -/
theorem hingesOnChange_of_previous (hs : Reachable cfg s) {report : Report AccountId} {u : ℕ}
    (hfeed : s.autoPay.dataFeeds.lookup (queryId, feedId) = some feed)
    (hthreshold : feed.priceThreshold ≠ 0)
    (hreport : s.oracle.reports.lookup (queryId, t) = some report)
    (hdisputed : report.isDisputed = false)
    (hunclaimed : s.autoPay.dataFeedRewardClaimed.lookup (queryId, feedId, t) = none)
    (hunexpired : s.now < t + 4 * weeks) (hstarted : feed.startTime ≤ t)
    (hprevious : report.previous = some u) (hinterval : feed.intervalStart t ≤ u)
    (hafter : s.oracle.numberAt queryId (some t) < 2 ^ 256)
    (hbefore : s.oracle.numberAt queryId (some u) < 2 ^ 256) :
    HingesOnChange s feedId queryId t feed (s.oracle.numberAt queryId (some u))
      (s.oracle.numberAt queryId (some t)) := by
  have hlast := (hs.seriesInvariant.series queryId).previous t report hreport
  rw [hprevious] at hlast
  obtain ⟨huvalid, hut, -⟩ := isLastBelow_some.mp hlast
  refine ⟨hfeed, hthreshold, ⟨report, hreport, hdisputed⟩, hunclaimed, hunexpired, hstarted, ?_, rfl,
    ⟨some u, hlast, rfl⟩, hafter, hbefore⟩
  rintro ⟨-, hfirst⟩
  exact absurd (hfirst u huvalid hut) (not_lt.mpr hinterval)

/-- The value of a previous report is read at its timestamp, or at the epoch where there is none. -/
theorem retrieveData_previous (hs : Reachable cfg s) (previous : Option ℕ) :
    ofBigEndian ((s.oracle.retrieveData queryId (previous.getD 0)).getD []) =
      s.oracle.numberAt queryId previous := by
  cases previous with
  | some u => rfl
  | none =>
    -- no report is from the epoch
    have hnone : s.oracle.retrieveData queryId 0 = none := by
      by_contra hsome
      obtain ⟨value, hvalue⟩ := Option.ne_none_iff_exists'.mp hsome
      obtain ⟨epoch, hepoch, -⟩ := ((hs.seriesInvariant.series queryId).value_iff 0).mp ⟨value, hvalue⟩
      exact absurd (hs.seriesInvariant.time queryId 0 epoch hepoch).1 (lt_irrefl 0)
    rw [Option.getD_none, hnone]
    rfl

/-- The code does not take the report for the first one in the window of its interval. -/
theorem HingesOnChange.not_first (hs : Reachable cfg s)
    (h : HingesOnChange s feedId queryId t feed before after) {report : Report AccountId}
    (hreport : s.oracle.reports.lookup (queryId, t) = some report) :
    ¬(t - feed.intervalStart t < feed.window ∧ report.previous.getD 0 < feed.intervalStart t) := by
  rintro ⟨hwindow, hbefore⟩
  have hprevious := (hs.seriesInvariant.series queryId).previous t report hreport
  refine h.notFirst ⟨by omega, fun p hp hlt ↦ ?_⟩
  cases hcase : report.previous with
  | none =>
    rw [hcase] at hprevious
    exact absurd hlt (not_lt.mpr (isLastBelow_none.mp hprevious p hp))
  | some u =>
    rw [hcase] at hprevious hbefore
    exact ((isLastBelow_some.mp hprevious).2.2 p hp hlt).trans_lt hbefore

/-- The change that is computed is the one between the values of the two reports. -/
theorem HingesOnChange.priceChange_eq (hs : Reachable cfg s)
    (h : HingesOnChange s feedId queryId t feed before after) {report : Report AccountId}
    (hreport : s.oracle.reports.lookup (queryId, t) = some report) :
    priceChange s.oracle queryId t (report.previous.getD 0) =
      if before = 0 ∨ 10000 * Nat.dist after before ≤ u256Max then
        .ok (min (deviation before after) u16Max)
      else .error overflow := by
  have hseries := hs.seriesInvariant.series queryId
  obtain ⟨value, hvalue⟩ := (hseries.value_iff t).mpr h.valid
  have hafter : bytesToU256 value = some after := by
    have heq : ofBigEndian value = after := by
      rw [← h.after_eq, Oracle.numberAt, Option.bind_some, hvalue, Option.getD_some]
    exact bytesToU256_eq_some.mpr ⟨heq, le_u256Max_iff.mpr h.after_fits⟩
  have hbefore : bytesToU256 ((s.oracle.retrieveData queryId (report.previous.getD 0)).getD []) =
      some before := by
    obtain ⟨p, hp, heq⟩ := h.before_eq
    rw [hp.unique (hseries.previous t report hreport)] at heq
    exact bytesToU256_eq_some.mpr
      ⟨(retrieveData_previous hs _).trans heq, le_u256Max_iff.mpr h.before_fits⟩
  exact priceChange_eq_deviation hvalue (hs.value_ne hvalue) hafter hbefore

/-- What is left of `do_get_reward_amount` for such a report: its change against the threshold. -/
theorem HingesOnChange.doGetRewardAmount_eq (hs : Reachable cfg s)
    (h : HingesOnChange s feedId queryId t feed before after) (hnow : s.now ≤ u64Max) :
    doGetRewardAmount cfg s.oracle s.now s.autoPay feedId queryId t =
      if before = 0 ∨ 10000 * Nat.dist after before ≤ u256Max then
        if feed.priceThreshold < min (deviation before after) u16Max then
          .ok (min feed.balance feed.reward)
        else .error (.module .priceThresholdNotMet)
      else .error overflow := by
  obtain ⟨report, hreport, hdisputed⟩ := id h.valid
  obtain ⟨hpositive, hle⟩ := hs.seriesInvariant.time queryId t report hreport
  have hinterval := hs.interval_pos h.feed_eq
  have hunexpired := h.unexpired
  have hstarted := h.started
  have hoffset : feed.interval * ((t - feed.startTime) / feed.interval) ≤ t - feed.startTime :=
    Nat.mul_div_le _ _
  have hstart : feed.intervalStart t ≤ t := by
    rw [Feed.intervalStart]
    omega
  have hchange := h.priceChange_eq hs hreport
  have helapsed : Checked.sub s.now t = some (s.now - t) := Checked.sub_eq_some.mpr ⟨hle, rfl⟩
  have hperiod : Outcome.guard (s.now - t < 4 * weeks) (DispatchError.module .claimPeriodExpired) =
    .ok () := guard_eq_ok.mpr (by omega)
  have hunclaimed : Outcome.guard (s.autoPay.dataFeedRewardClaimed.lookup (queryId, feedId, t) = none)
    (DispatchError.module .tipAlreadyClaimed) = .ok () := guard_eq_ok.mpr h.unclaimed
  have hsince : Checked.sub t feed.startTime = some (t - feed.startTime) :=
    Checked.sub_eq_some.mpr ⟨h.started, rfl⟩
  have hcount : Checked.div (t - feed.startTime) feed.interval =
    some ((t - feed.startTime) / feed.interval) := Checked.div_eq_some.mpr ⟨hinterval.ne', rfl⟩
  have hproduct : Checked.mul u64Max feed.interval ((t - feed.startTime) / feed.interval) =
      some (feed.interval * ((t - feed.startTime) / feed.interval)) :=
    Checked.mul_eq_some.mpr ⟨by omega, rfl⟩
  have hsum : Checked.add u64Max feed.startTime
      (feed.interval * ((t - feed.startTime) / feed.interval)) = some (feed.intervalStart t) :=
    Checked.add_eq_some.mpr ⟨by omega, rfl⟩
  have hvalid : Outcome.guard (report.isDisputed = false) (DispatchError.module .valueDisputed) =
    .ok () := guard_eq_ok.mpr hdisputed
  have hdiff : Checked.sub t (feed.intervalStart t) = some (t - feed.intervalStart t) :=
    Checked.sub_eq_some.mpr ⟨hstart, rfl⟩
  simp only [doGetRewardAmount, eligibleReward, helapsed, hperiod, h.feed_eq, hunclaimed, hsince, hcount,
    hproduct, hsum, hreport, hvalid, h.threshold, hchange, hdiff, h.not_first hs hreport, okOr, ensure,
    bind, Except.bind, ne_eq, not_false_eq_true, if_true, if_false]
  have hcapped : (if feed.balance < feed.reward then feed.balance else feed.reward) =
      min feed.balance feed.reward := (min_def_lt _ _).symm
  by_cases hfits : before = 0 ∨ 10000 * Nat.dist after before ≤ u256Max
  · rw [if_pos hfits, if_pos hfits]
    by_cases habove : feed.priceThreshold < min (deviation before after) u16Max
    · simp only [Outcome.guard, if_pos habove, hcapped]
    · simp only [Outcome.guard, if_neg habove]
  · rw [if_neg hfits, if_neg hfits]

theorem HingesOnChange.rewarded_iff (hs : Reachable cfg s)
    (h : HingesOnChange s feedId queryId t feed before after) (hnow : s.now ≤ u64Max) :
    (∃ amount, doGetRewardAmount cfg s.oracle s.now s.autoPay feedId queryId t = .ok amount) ↔
      (before = 0 ∨ 10000 * Nat.dist after before ≤ u256Max) ∧
        feed.priceThreshold < min (deviation before after) u16Max := by
  rw [h.doGetRewardAmount_eq hs hnow]
  split
  · next hfits =>
    split
    · next hchange => exact ⟨fun _ ↦ ⟨hfits, hchange⟩, fun _ ↦ ⟨_, rfl⟩⟩
    · next hchange => exact ⟨nofun, fun hboth ↦ absurd hboth.2 hchange⟩
  · next hlarge => exact ⟨nofun, fun hboth ↦ absurd hboth.1 hlarge⟩

/-- A change is above a threshold when the difference reaches the threshold's next hundredth of a percent
of the value before. -/
theorem lt_deviation_iff {threshold : ℕ} (hbefore : before ≠ 0) :
    threshold < deviation before after ↔
      (threshold + 1) * before ≤ 10000 * Nat.dist after before := by
  rw [deviation, if_neg hbefore]
  exact Nat.le_div_iff_mul_le (Nat.pos_of_ne_zero hbefore)

/-- In every reachable state a report on which only its change in price decides is rewarded exactly for
a change above the threshold, if and only if the change is not above it, or is one from zero, or 256
bits hold ten thousand times the difference and the threshold is not the largest number of 16 bits. -/
theorem rewarded_iff_deviation (hs : Reachable cfg s) (hnow : s.now ≤ u64Max)
    (h : HingesOnChange s feedId queryId t feed before after) :
    ((∃ amount, doGetRewardAmount cfg s.oracle s.now s.autoPay feedId queryId t = .ok amount) ↔
      feed.priceThreshold < deviation before after) ↔
    (before = 0 ∨ 10000 * Nat.dist after before < (feed.priceThreshold + 1) * before ∨
      (10000 * Nat.dist after before < 2 ^ 256 ∧ feed.priceThreshold < u16Max)) := by
  rw [h.rewarded_iff hs hnow, lt_min_iff, ← le_u256Max_iff]
  by_cases hzero : before = 0
  · have hdeviation : deviation before after = 10000 := if_pos hzero
    have hwidth : 10000 < u16Max := by decide
    rw [hdeviation]
    refine iff_of_true ⟨fun hboth ↦ hboth.2.1, fun hchange ↦ ?_⟩ (Or.inl hzero)
    exact ⟨Or.inl hzero, hchange, hchange.trans hwidth⟩
  · rw [lt_deviation_iff hzero]
    constructor
    · intro hexact
      by_cases hchange : (feed.priceThreshold + 1) * before ≤ 10000 * Nat.dist after before
      · obtain ⟨hfits, -, hwidth⟩ := hexact.mpr hchange
        exact Or.inr (Or.inr ⟨hfits.resolve_left hzero, hwidth⟩)
      · exact Or.inr (Or.inl (not_le.mp hchange))
    · intro hcondition
      refine ⟨fun hboth ↦ hboth.2.1, fun hchange ↦ ?_⟩
      rcases hcondition with hbefore | hsmall | ⟨hfits, hwidth⟩
      · exact absurd hbefore hzero
      · exact absurd hchange (not_le.mpr hsmall)
      · exact ⟨Or.inr hfits, hchange, hwidth⟩

end Reward

namespace Mock

/-- The identifier of a feed as that of the runs, but with a threshold of a percent. -/
def thresholdFeedId : FeedId :=
  26299046536980639110587471860307207466194554988776487306805995475191368696839

/-- The mock runtime with the hash of that feed. -/
def withThreshold : Config ℕ :=
  { config with
    keccak256 := fun bytes ↦
      if bytes = abiEncode [.fixedBytes (hashBytes queryId), .uint 100, .uint start, .uint 3600,
        .uint 600, .uint 100, .uint 0] then thresholdFeedId
      else keccak256 bytes }

theorem isGenesis_withThreshold : IsGenesis withThreshold genesis := isGenesis_of_eq rfl rfl rfl

/-- A report of the value one and a second report in the same interval, claimable half a day later. -/
def change (value : Value) : List (Input ℕ) :=
  [deposit 7, deposit 8, block 5,
    .extrinsic send (.signed 5) (.setupDataFeed queryId 100 start 3600 600 100 0 [] 1000),
    block 10, submit 7, block 20, .extrinsic send (.signed 8) (.submitValue queryId value 0 []),
    block (12 * hours + 30)]

theorem reachable_change (value : Value)
    (h : AdmitsAll (step withThreshold) (Admissible withThreshold) (change value) genesis) :
    Reachable withThreshold (run (step withThreshold) (change value) genesis) :=
  ⟨genesis, isGenesis_withThreshold, reaches_run (change value) genesis h⟩

end Mock

/-- The second report of such a run hinges on its change from one. -/
theorem hingesOnChange_change {s : State ℕ} {number : ℕ} (hs : Reachable Mock.withThreshold s)
    (hfeed : s.autoPay.dataFeeds.lookup (Mock.queryId, Mock.thresholdFeedId) =
      some ⟨100, 1000, Mock.start, 3600, 600, 100, 0⟩)
    (hreport : s.oracle.reports.lookup (Mock.queryId, Mock.start + 20) =
      some ⟨1, 2, 8, false, some (Mock.start + 10)⟩)
    (hunclaimed : s.autoPay.dataFeedRewardClaimed.lookup
      (Mock.queryId, Mock.thresholdFeedId, Mock.start + 20) = none)
    (hnow : s.now = Mock.start + 12 * hours + 30)
    (hbefore : s.oracle.numberAt Mock.queryId (some (Mock.start + 10)) = 1)
    (hafter : s.oracle.numberAt Mock.queryId (some (Mock.start + 20)) = number)
    (hfits : number < 2 ^ 256) :
    HingesOnChange s Mock.thresholdFeedId Mock.queryId (Mock.start + 20)
      ⟨100, 1000, Mock.start, 3600, 600, 100, 0⟩ 1 number := by
  have h := hingesOnChange_of_previous hs hfeed (by decide) hreport rfl hunclaimed
    (by rw [hnow]; decide) (by decide) rfl (by decide) (hafter ▸ hfits) (by rw [hbefore]; decide)
  rwa [hbefore, hafter] at h

/-- A doubled value is rewarded at a threshold of a percent. -/
theorem rewarded_iff_deviation_double :
    let s := run (step Mock.withThreshold) (Mock.change [2]) Mock.genesis
    ∃ amount, doGetRewardAmount Mock.withThreshold s.oracle s.now s.autoPay Mock.thresholdFeedId
      Mock.queryId (Mock.start + 20) = .ok amount := by
  intro s
  have hs : Reachable Mock.withThreshold s := Mock.reachable_change [2] (by decide +kernel)
  have hnow : s.now = Mock.start + 12 * hours + 30 := by decide +kernel
  have h : HingesOnChange s Mock.thresholdFeedId Mock.queryId (Mock.start + 20)
      ⟨100, 1000, Mock.start, 3600, 600, 100, 0⟩ 1 2 :=
    hingesOnChange_change hs (by decide +kernel) (by decide +kernel) (by decide +kernel) hnow
      (by decide +kernel) (by decide +kernel) (by decide)
  exact ((rewarded_iff_deviation hs (by rw [hnow]; decide) h).mpr (by decide)).mpr (by decide)

/-- The largest power of two after the value one is an overflow, although a change above a percent. -/
theorem rewarded_ne_deviation_overflow :
    let value : Value := 128 :: List.replicate 31 0
    let s := run (step Mock.withThreshold) (Mock.change value) Mock.genesis
    Reachable Mock.withThreshold s ∧
      HingesOnChange s Mock.thresholdFeedId Mock.queryId (Mock.start + 20)
        ⟨100, 1000, Mock.start, 3600, 600, 100, 0⟩ 1 (2 ^ 255) ∧
      100 < deviation 1 (2 ^ 255) ∧
      doGetRewardAmount Mock.withThreshold s.oracle s.now s.autoPay Mock.thresholdFeedId
        Mock.queryId (Mock.start + 20) = .error overflow := by
  intro value s
  have hs : Reachable Mock.withThreshold s := Mock.reachable_change value (by decide +kernel)
  have h : HingesOnChange s Mock.thresholdFeedId Mock.queryId (Mock.start + 20)
      ⟨100, 1000, Mock.start, 3600, 600, 100, 0⟩ 1 (2 ^ 255) :=
    hingesOnChange_change hs (by decide +kernel) (by decide +kernel) (by decide +kernel)
      (by decide +kernel) (by decide +kernel) (by decide +kernel) (by decide)
  exact ⟨hs, h, by decide, by decide +kernel⟩

end TellorPallet
