import TellorPallet.Foundation.Ascending
import TellorPallet.Oracle.Runs
import TellorPallet.Oracle.Search
import TellorPallet.Oracle.UsingTellor

/-!
# Lookups by time

In every reachable state the searches over a query's series agree with a plain scan of it: the last
valid report before a time, the first one after a time, and all of them between two times.
-/

namespace TellorPallet

open Outcome Transition Predecessor Ascending

variable {AccountId : Type}

namespace Oracle

variable {o : Oracle AccountId} {queryId : QueryId} {timestamp : ℕ}

/-- The indices of the valid reports before a time. -/
def validBefore (o : Oracle AccountId) (queryId : QueryId) (timestamp : ℕ) : Set ℕ :=
  {i | ∃ t ∈ o.valid queryId, o.reportedTimestampsByIndex.lookup (queryId, i) = some t ∧ t < timestamp}

/-- The indices of the valid reports after a time. -/
def validAfter (o : Oracle AccountId) (queryId : QueryId) (timestamp : ℕ) : Set ℕ :=
  {i | ∃ t ∈ o.valid queryId, o.reportedTimestampsByIndex.lookup (queryId, i) = some t ∧ timestamp < t}

/-! ## Reading the index -/

theorem timestampAt_eq {i t : ℕ} (h : o.reportedTimestampsByIndex.lookup (queryId, i) = some t) :
    o.timestampAt queryId i = t := by
  rw [timestampAt, getTimestampByQueryIdAndIndex, h, Option.getD_some]

theorem Indexed.exists_timestamp (h : Indexed o queryId) {i : ℕ} (hi : i < o.count queryId) :
    ∃ t, o.reportedTimestampsByIndex.lookup (queryId, i) = some t := (h.defined i).mpr hi

theorem Indexed.timestamp_le (h : Indexed o queryId) {i j t u : ℕ}
    (hi : o.reportedTimestampsByIndex.lookup (queryId, i) = some t)
    (hj : o.reportedTimestampsByIndex.lookup (queryId, j) = some u) (hle : i ≤ j) : t ≤ u := by
  rcases Nat.eq_or_lt_of_le hle with rfl | hlt
  · rw [hi] at hj
    cases hj
    exact le_rfl
  · exact (h.increasing i j t u hi hj hlt).le

theorem Indexed.index_le_iff (h : Indexed o queryId) {i j t u : ℕ}
    (hi : o.reportedTimestampsByIndex.lookup (queryId, i) = some t)
    (hj : o.reportedTimestampsByIndex.lookup (queryId, j) = some u) : i ≤ j ↔ t ≤ u := by
  refine ⟨h.timestamp_le hi hj, fun hle ↦ ?_⟩
  by_contra hgt
  exact absurd (h.increasing j i u t hj hi (not_le.mp hgt)) (not_lt.mpr hle)

theorem Indexed.isInDispute_iff (h : Indexed o queryId) {i t : ℕ}
    (hi : o.reportedTimestampsByIndex.lookup (queryId, i) = some t) :
    o.isInDispute queryId t = false ↔ t ∈ o.valid queryId := by
  obtain ⟨report, hreport, -⟩ := h.report_at i t hi
  rw [mem_valid_of_lookup hreport, isInDispute, hreport, Option.elim_some]

/-! ## The last valid report before a time -/

/-- Whenever `get_index_for_data_before_with_start` enters its loop from index zero, the loop ends. -/
def SearchEnds (o : Oracle AccountId) (queryId : QueryId) (timestamp : ℕ) : Prop :=
  ∀ last report time, o.lastReportedTimestamp.lookup queryId = some last →
    o.reports.lookup (queryId, last) = some report →
    o.reportedTimestampsByIndex.lookup (queryId, 0) = some time → time < timestamp →
    timestamp ≤ last →
    ∃ found, o.searchBefore queryId timestamp (report.index + 1) 0 report.index 0 = some found

theorem ReportSeries.searchEnds (h : ReportSeries o queryId) : SearchEnds o queryId timestamp := by
  intro last report time hlast hreport htime hfirst hbefore
  have hindex := h.timestamp_at last report hreport
  have hb : Brackets o queryId timestamp 0 report.index :=
    ⟨⟨time, htime, hfirst⟩, ⟨last, hindex, hbefore⟩⟩
  obtain ⟨p, hp⟩ := exists_isLastBelow (o.valid queryId) timestamp
  obtain ⟨n, -, hsearch⟩ := searchBefore_eq h 0 hb hp
  exact ⟨_, hsearch (report.index + 1) (Nat.lt_succ_of_le (Nat.log_le_self 2 _))⟩

/-- The index found is the last one of a valid report before the time. -/
theorem getIndexForDataBefore_isLast (h : ReportSeries o queryId) :
    IsLast (o.validBefore queryId timestamp) (o.getIndexForDataBefore queryId timestamp) := by
  obtain ⟨p, hp⟩ := exists_isLastBelow (o.valid queryId) timestamp
  rw [getIndexForDataBefore_eq h hp]
  cases p with
  | none =>
    rw [isLastBelow_none] at hp
    apply Set.eq_empty_iff_forall_notMem.mpr
    rintro i ⟨t, ht, -, hlt⟩
    exact absurd hlt (not_lt.mpr (hp t ht))
  | some t =>
    obtain ⟨hvalid, hlt, hupper⟩ := isLastBelow_some.mp hp
    obtain ⟨report, hreport, -⟩ := id hvalid
    have hindex := h.timestamp_at t report hreport
    rw [Option.bind_some, indexAt, hreport, Option.map_some]
    refine ⟨⟨t, hvalid, hindex, hlt⟩, ?_⟩
    rintro i ⟨u, hu, hi, hut⟩
    exact (h.index_le_iff hi hindex).mpr (hupper u hu hut)

/-- What is read at an index: the value stored there with its timestamp. -/
theorem ReportSeries.exists_value (h : ReportSeries o queryId) {t : ℕ} (ht : t ∈ o.valid queryId) :
    ∃ value, o.retrieveData queryId t = some value := (h.value_iff t).mpr ht

/-! ## The first valid report after a time -/

/-- The index and the timestamp of the first report after a time, valid or not. -/
def IsCandidate (o : Oracle AccountId) (queryId : QueryId) (timestamp : ℕ) (candidate : ℕ × ℕ) : Prop :=
  o.reportedTimestampsByIndex.lookup (queryId, candidate.1) = some candidate.2 ∧
    timestamp < candidate.2 ∧
    ∀ j u, o.reportedTimestampsByIndex.lookup (queryId, j) = some u → j < candidate.1 → u ≤ timestamp

theorem Indexed.isCandidate_succ (h : Indexed o queryId) {i t u : ℕ}
    (hi : o.reportedTimestampsByIndex.lookup (queryId, i) = some t) (ht : t ≤ timestamp)
    (hnext : o.reportedTimestampsByIndex.lookup (queryId, i + 1) = some u) (hu : timestamp < u) :
    o.IsCandidate queryId timestamp (i + 1, u) :=
  ⟨hnext, hu, fun _ _ hj hlt ↦ (h.timestamp_le hj hi (Nat.lt_succ_iff.mp hlt)).trans ht⟩

/-- The bisection, between an index at or before the time and one after it, ends at the first report
after the time. -/
theorem searchAfter_eq (h : Indexed o queryId) (hcount : o.count queryId < 2 ^ 31) (fuel : ℕ)
    {start stop ts te : ℕ} (hstart : o.reportedTimestampsByIndex.lookup (queryId, start) = some ts)
    (hts : ts ≤ timestamp) (hstop : o.reportedTimestampsByIndex.lookup (queryId, stop) = some te)
    (hte : timestamp < te) (hfuel : stop - start ≤ fuel) :
    ∃ candidate, o.searchAfter queryId timestamp fuel start stop = some candidate ∧
      o.IsCandidate queryId timestamp candidate := by
  have horder : start < stop := by
    by_contra hge
    exact absurd (h.timestamp_le hstop hstart (not_lt.mp hge)) (not_le.mpr (hts.trans_lt hte))
  induction fuel generalizing start stop ts te with
  | zero => omega
  | succ fuel ih =>
    have hstopCount := (h.defined stop).mp ⟨te, hstop⟩
    have hbound : 2 ^ 31 + 2 ^ 31 = u32Max + 1 := by decide
    obtain ⟨middle, hmiddle⟩ : ∃ middle, middle = (stop + start) / 2 := ⟨_, rfl⟩
    have hlower : start ≤ middle := by omega
    have hupper : middle < stop := by omega
    have hsum : Saturating.add u32Max stop start = stop + start := Saturating.add_eq (by omega)
    have hsucc : Saturating.add u32Max middle 1 = middle + 1 := Saturating.add_eq (by omega)
    obtain ⟨time, htime⟩ := h.exists_timestamp (i := middle) (by omega)
    obtain ⟨nextTime, hnextTime⟩ := h.exists_timestamp (i := middle + 1) (by omega)
    rw [searchAfter, hsum, ← hmiddle]
    dsimp only
    rw [hsucc, timestampAt_eq htime, timestampAt_eq hnextTime]
    split
    · next hafter =>
      have hstrict : start < middle := by
        refine lt_of_le_of_ne hlower fun heq ↦ ?_
        rw [← heq, hstart] at htime
        cases htime
        omega
      obtain ⟨previousTime, hpreviousTime⟩ := h.exists_timestamp (i := middle - 1) (by omega)
      rw [timestampAt_eq hpreviousTime]
      split
      · next hfound =>
        have hcandidate := h.isCandidate_succ hpreviousTime hfound
          (by rwa [Nat.sub_add_cancel (by omega)]) hafter
        rw [Nat.sub_add_cancel (by omega)] at hcandidate
        exact ⟨_, rfl, hcandidate⟩
      · next hlate =>
        have hne : start ≠ middle - 1 := by
          intro heq
          rw [← heq, hstart] at hpreviousTime
          cases hpreviousTime
          exact hlate hts
        exact ih hstart hts hpreviousTime (not_le.mp hlate) (by omega) (by omega)
    · next hbefore =>
      split
      · next hfound => exact ⟨_, rfl, h.isCandidate_succ htime (not_lt.mp hbefore) hnextTime hfound⟩
      · next hearly =>
        have hne : middle + 1 ≠ stop := by
          intro heq
          rw [heq, hstop] at hnextTime
          cases hnextTime
          exact hearly hte
        exact ih hnextTime (not_lt.mp hearly) hstop hte (by omega) (by omega)

/-- The scan ends at the first valid report from the candidate on, or at the last report. -/
theorem skipDisputed_eq (h : Indexed o queryId) (hcount : o.count queryId < 2 ^ 31) (fuel : ℕ)
    {last middle t : ℕ} (hlast : last + 1 = o.count queryId)
    (hmiddle : o.reportedTimestampsByIndex.lookup (queryId, middle) = some t)
    (hfuel : last - middle < fuel) :
    ∃ found u, o.skipDisputed queryId last fuel middle t = some (found, u) ∧ middle ≤ found ∧
      o.reportedTimestampsByIndex.lookup (queryId, found) = some u ∧
      (∀ j v, o.reportedTimestampsByIndex.lookup (queryId, j) = some v → middle ≤ j → j < found →
        v ∉ o.valid queryId) ∧
      (u ∉ o.valid queryId → found = last) := by
  induction fuel generalizing middle t with
  | zero => omega
  | succ fuel ih =>
    have hindex := (h.defined middle).mp ⟨t, hmiddle⟩
    rw [skipDisputed]
    split
    · next hskip =>
      obtain ⟨hdisputed, hless⟩ := hskip
      have hsucc : Saturating.add u32Max middle 1 = middle + 1 := by
        apply Saturating.add_eq
        have hbound : 2 ^ 31 ≤ u32Max := by decide
        omega
      obtain ⟨next, hnext⟩ := h.exists_timestamp (i := middle + 1) (by omega)
      dsimp only
      rw [hsucc, timestampAt_eq hnext]
      obtain ⟨found, u, heq, hle, hu, hskipped, hend⟩ := ih hnext (by omega)
      refine ⟨found, u, heq, by omega, hu, fun j v hj hmj hjf ↦ ?_, hend⟩
      rcases Nat.eq_or_lt_of_le hmj with rfl | hlt
      · rw [hmiddle] at hj
        cases hj
        rw [← h.isInDispute_iff hmiddle, hdisputed]
        exact Bool.true_eq_false.mp
      · exact hskipped j v hj hlt hjf
    · next hstop =>
      refine ⟨middle, t, rfl, le_rfl, hmiddle, fun j v hj hmj hjf ↦ absurd hjf (not_lt.mpr hmj), ?_⟩
      intro hinvalid
      rw [← h.isInDispute_iff hmiddle, Bool.not_eq_false] at hinvalid
      have hge : ¬middle < last := fun hless ↦ hstop ⟨hinvalid, hless⟩
      omega

/-- The index found is the first one of a valid report after the time. -/
theorem getIndexForDataAfter_isFirst (h : Indexed o queryId) (hcount : o.count queryId < 2 ^ 31) :
    ∃ found, o.getIndexForDataAfter queryId timestamp = some found ∧
      IsFirst (o.validAfter queryId timestamp) found := by
  rw [getIndexForDataAfter]
  split
  · next hzero =>
    refine ⟨none, rfl, Set.eq_empty_iff_forall_notMem.mpr ?_⟩
    rintro i ⟨t, -, hi, -⟩
    have hless := (h.defined i).mp ⟨t, hi⟩
    omega
  next hsome =>
  obtain ⟨last, hlast⟩ := Nat.exists_eq_succ_of_ne_zero hsome
  have hcountLast : o.count queryId - 1 = last := by omega
  obtain ⟨te, hte⟩ := h.exists_timestamp (i := last) (by omega)
  obtain ⟨ts, hts⟩ := h.exists_timestamp (i := 0) (by omega)
  dsimp only
  rw [hcountLast, timestampAt_eq hte]
  split
  · next hlate =>
    refine ⟨none, rfl, Set.eq_empty_iff_forall_notMem.mpr ?_⟩
    rintro i ⟨t, -, hi, hlt⟩
    have hless := (h.defined i).mp ⟨t, hi⟩
    have hle := h.timestamp_le hi hte (by omega)
    omega
  next hwithin =>
  rw [timestampAt_eq hts]
  -- the candidate, and that every valid report after the time is at or after it
  have hcandidate : ∃ candidate, (if timestamp < ts then some (0, ts)
      else o.searchAfter queryId timestamp (o.count queryId) 0 last) = some candidate ∧
      o.IsCandidate queryId timestamp candidate := by
    split
    · next hfirst => exact ⟨_, rfl, hts, hfirst, fun j u _ hj ↦ absurd hj (Nat.not_lt_zero j)⟩
    · next hfirst =>
      exact searchAfter_eq h hcount _ hts (not_lt.mp hfirst) hte (not_le.mp hwithin) (by omega)
  obtain ⟨⟨middle, t⟩, heq, hmiddle, hafter, hfirst⟩ := hcandidate
  have hlower : ∀ i ∈ o.validAfter queryId timestamp, middle ≤ i := by
    rintro i ⟨u, -, hi, hlt⟩
    by_contra hless
    exact absurd (hfirst i u hi (not_le.mp hless)) (not_le.mpr hlt)
  rw [heq]
  dsimp only [Option.bind_eq_bind, Option.bind_some]
  split
  · next hvalid =>
    rw [h.isInDispute_iff hmiddle] at hvalid
    exact ⟨some middle, rfl, ⟨t, hvalid, hmiddle, hafter⟩, hlower⟩
  next hdisputed =>
  obtain ⟨found, u, hfound, hle, hu, hskipped, hend⟩ :=
    skipDisputed_eq h hcount (o.count queryId) hlast.symm hmiddle (by omega)
  have hskip : ∀ i ∈ o.validAfter queryId timestamp, found ≤ i := by
    intro i hi
    have hmi := hlower i hi
    obtain ⟨v, hv, hlookup, -⟩ := hi
    by_contra hless
    exact hskipped i v hlookup hmi (not_le.mp hless) hv
  rw [hfound]
  dsimp only [Option.bind_some]
  have hreached := (h.defined found).mp ⟨u, hu⟩
  split
  · next hnone =>
    have hinvalid : u ∉ o.valid queryId := by
      rw [← h.isInDispute_iff hu, hnone.2]
      exact Bool.true_eq_false.mp
    refine ⟨none, rfl, Set.eq_empty_iff_forall_notMem.mpr fun i hi ↦ ?_⟩
    have hge := hskip i hi
    obtain ⟨v, hv, hlookup, -⟩ := hi
    have hless := (h.defined i).mp ⟨v, hlookup⟩
    rw [show i = found by omega, hu] at hlookup
    cases hlookup
    exact hinvalid hv
  · next hsettled =>
    have hvalid : u ∈ o.valid queryId := by
      by_contra hinvalid
      refine hsettled ⟨hend hinvalid, ?_⟩
      rwa [← h.isInDispute_iff hu, Bool.not_eq_false] at hinvalid
    exact ⟨some found, rfl, ⟨u, hvalid, hu, hafter.trans_le (h.timestamp_le hmiddle hu hle)⟩, hskip⟩

/-! ## The valid reports between two times -/

/-- The value and the timestamp of the report at an index, when it is valid. -/
def validEntry (o : Oracle AccountId) (queryId : QueryId) (index : ℕ) : Option (Value × ℕ) :=
  (o.getTimestampByQueryIdAndIndex queryId index).bind fun t ↦
    if o.isInDispute queryId t = false then (o.retrieveData queryId t).map (·, t) else none

/-- The values and the timestamps of all valid reports of a query, in the order of submission. -/
def validReports (o : Oracle AccountId) (queryId : QueryId) : List (Value × ℕ) :=
  (List.range (o.count queryId)).filterMap (o.validEntry queryId)

/-- The timestamp of the report at an index, when it is valid. -/
def validTimestamp (o : Oracle AccountId) (queryId : QueryId) (index : ℕ) : Option ℕ :=
  (o.getTimestampByQueryIdAndIndex queryId index).bind fun t ↦
    if o.isInDispute queryId t = false then some t else none

theorem validTimestamp_eq_some (h : Indexed o queryId) {index t : ℕ} :
    o.validTimestamp queryId index = some t ↔
      o.reportedTimestampsByIndex.lookup (queryId, index) = some t ∧ t ∈ o.valid queryId := by
  simp only [validTimestamp, getTimestampByQueryIdAndIndex, Option.bind_eq_some_iff,
    Option.ite_none_right_eq_some, Option.some.injEq]
  constructor
  · rintro ⟨u, hu, hvalid, rfl⟩
    exact ⟨hu, (h.isInDispute_iff hu).mp hvalid⟩
  · rintro ⟨ht, hvalid⟩
    exact ⟨t, ht, (h.isInDispute_iff ht).mpr hvalid, rfl⟩

theorem validEntry_eq (index : ℕ) : o.validEntry queryId index =
    (o.validTimestamp queryId index).bind fun t ↦ (o.retrieveData queryId t).map (·, t) := by
  unfold validEntry validTimestamp
  cases o.getTimestampByQueryIdAndIndex queryId index with
  | none => rfl
  | some t =>
    dsimp only [Option.bind_some]
    split <;> rfl

theorem validEntry_eq_some (h : Indexed o queryId) {index : ℕ} {entry : Value × ℕ} :
    o.validEntry queryId index = some entry ↔
      o.reportedTimestampsByIndex.lookup (queryId, index) = some entry.2 ∧
        entry.2 ∈ o.valid queryId ∧ o.retrieveData queryId entry.2 = some entry.1 := by
  rw [validEntry_eq, Option.bind_eq_some_iff]
  constructor
  · rintro ⟨t, ht, hentry⟩
    obtain ⟨value, hvalue, rfl⟩ := Option.map_eq_some_iff.mp hentry
    obtain ⟨hlookup, hvalid⟩ := (validTimestamp_eq_some h).mp ht
    exact ⟨hlookup, hvalid, hvalue⟩
  · rintro ⟨hlookup, hvalid, hvalue⟩
    exact ⟨entry.2, (validTimestamp_eq_some h).mpr ⟨hlookup, hvalid⟩, by rw [hvalue]; rfl⟩

/-- Entries at ascending indices have ascending timestamps. -/
theorem Indexed.ascends (h : Indexed o queryId) {indices : List ℕ} (hindices : indices.Pairwise (· < ·)) :
    Ascends Prod.snd (indices.filterMap (o.validEntry queryId)) := by
  apply Ascends.filterMap hindices
  intro i j entry later hentry hlater hlt
  exact h.increasing i j _ _ ((validEntry_eq_some h).mp hentry).1 ((validEntry_eq_some h).mp hlater).1 hlt

/-- The valid reports are exactly those listed. -/
theorem mem_validReports (h : Indexed o queryId) {entry : Value × ℕ} :
    entry ∈ o.validReports queryId ↔
      entry.2 ∈ o.valid queryId ∧ o.retrieveData queryId entry.2 = some entry.1 := by
  simp only [validReports, List.mem_filterMap, List.mem_range, validEntry_eq_some h]
  constructor
  · rintro ⟨index, -, -, hentry⟩
    exact hentry
  · rintro ⟨hvalid, hvalue⟩
    obtain ⟨report, hreport, -⟩ := id hvalid
    exact ⟨report.index, h.index_lt_count hreport, h.timestamp_at _ report hreport, hvalid, hvalue⟩

/-- The loop collects the last valid timestamps of its range of `n` indices, latest first. -/
theorem collectTimestamps_eq (hindexed : Indexed o queryId) (hcount : o.count queryId < 2 ^ 31)
    (fuel n : ℕ) {start stop maxCount index : ℕ} {timestamps : List ℕ}
    (hstop : stop < o.count queryId) (hn : n = stop + 1 - index - start) (hindex : index ≤ stop + 1)
    (hfuel : n < fuel) (hlength : timestamps.length ≤ maxCount) :
    o.collectTimestamps queryId start stop maxCount fuel index timestamps =
      some (timestamps ++ ((List.range' start n).filterMap (o.validTimestamp queryId)).reverse.take
        (maxCount - timestamps.length)) := by
  induction fuel generalizing n index timestamps with
  | zero => omega
  | succ fuel ih =>
    have hbound : 2 ^ 31 ≤ u32Max := by decide
    have hend : Saturating.add u32Max stop 1 = stop + 1 := Saturating.add_eq (by omega)
    rw [collectTimestamps, hend]
    split
    · next hcontinue =>
      obtain ⟨m, rfl⟩ : ∃ m, n = m + 1 := Nat.exists_eq_succ_of_ne_zero (by omega)
      have hread : stop - index = start + m := by omega
      have hnext : Saturating.add u32Max index 1 = index + 1 := Saturating.add_eq (by omega)
      have hrange : List.range' start (m + 1) = List.range' start m ++ [start + m] := by
        rw [List.range'_concat, one_mul]
      dsimp only
      rw [hread, hnext, hrange, List.filterMap_append, List.reverse_append]
      obtain ⟨t, ht⟩ := hindexed.exists_timestamp (i := start + m) (by omega)
      rw [getTimestampByQueryIdAndIndex, ht, Option.elim_some]
      split
      · next hvalid =>
        have hone : [start + m].filterMap (o.validTimestamp queryId) = [t] := by
          simp [(validTimestamp_eq_some hindexed).mpr
            ⟨ht, (hindexed.isInDispute_iff ht).mp hvalid⟩]
        have hlonger : (timestamps ++ [t]).length = timestamps.length + 1 := by simp
        obtain ⟨room, hroom⟩ : ∃ room, maxCount - timestamps.length = room + 1 :=
          Nat.exists_eq_succ_of_ne_zero (by omega)
        rw [ih m (by omega) (by omega) (by omega) (by omega), hone, hlonger, hroom,
          show maxCount - (timestamps.length + 1) = room by omega]
        simp
      · next hdisputed =>
        have hnone : [start + m].filterMap (o.validTimestamp queryId) = [] := by
          simp [validTimestamp, getTimestampByQueryIdAndIndex, ht, hdisputed]
        rw [ih m (by omega) (by omega) (by omega) hlength, hnone, List.reverse_nil, List.nil_append]
    · next hdone =>
      rcases Nat.lt_or_ge timestamps.length maxCount with hless | hfull
      · have hempty : n = 0 := by
          have hpassed : ¬start < stop + 1 - index := fun hlt ↦ hdone ⟨hless, hlt⟩
          omega
        simp [hempty]
      · simp [Nat.sub_eq_zero_of_le hfull]

/-- The entries of the reports between two times, in the order of submission. -/
def validBetween (o : Oracle AccountId) (queryId : QueryId) (lower upper : ℕ) : List (Value × ℕ) :=
  (o.validReports queryId).filter fun entry ↦ lower < entry.2 ∧ entry.2 < upper

/-- A report between two times is at an index that both searches consider. -/
theorem mem_validBetween (h : Indexed o queryId) {lower upper : ℕ} {entry : Value × ℕ} :
    entry ∈ o.validBetween queryId lower upper ↔ ∃ index,
      o.validEntry queryId index = some entry ∧
        index ∈ o.validAfter queryId lower ∧ index ∈ o.validBefore queryId upper := by
  simp only [validBetween, List.mem_filter, mem_validReports h, decide_eq_true_eq]
  constructor
  · rintro ⟨⟨hvalid, hvalue⟩, hlower, hupper⟩
    obtain ⟨report, hreport, -⟩ := id hvalid
    have hindex := h.timestamp_at _ report hreport
    exact ⟨report.index, (validEntry_eq_some h).mpr ⟨hindex, hvalid, hvalue⟩,
      ⟨_, hvalid, hindex, hlower⟩, ⟨_, hvalid, hindex, hupper⟩⟩
  · rintro ⟨index, hentry, ⟨t, -, ht, hlower⟩, ⟨u, -, hu, hupper⟩⟩
    obtain ⟨hindex, hvalid, hvalue⟩ := (validEntry_eq_some h).mp hentry
    rw [hindex] at ht hu
    cases ht
    cases hu
    exact ⟨⟨hvalid, hvalue⟩, hlower, hupper⟩

/-- The entries from the first index after a time to the last one before another are those between
the two. -/
theorem validBetween_eq (h : Indexed o queryId) {lower upper start stop : ℕ}
    (hstart : IsFirst (o.validAfter queryId lower) (some start))
    (hstop : IsLast (o.validBefore queryId upper) (some stop)) :
    o.validBetween queryId lower upper =
      (List.range' start (stop + 1 - start)).filterMap (o.validEntry queryId) := by
  obtain ⟨⟨ts, -, hts, hafter⟩, hleast⟩ := hstart
  obtain ⟨⟨te, -, hte, hbefore⟩, hgreatest⟩ := hstop
  have hsorted : Ascends Prod.snd (o.validBetween queryId lower upper) :=
    (h.ascends List.pairwise_lt_range).filter _
  apply hsorted.ext (h.ascends List.pairwise_lt_range')
  intro entry
  rw [mem_validBetween h, List.mem_filterMap]
  constructor
  · rintro ⟨index, hentry, hlower, hupper⟩
    have hge : start ≤ index := hleast hlower
    have hle : index ≤ stop := hgreatest hupper
    exact ⟨index, List.mem_range'_1.mpr (by omega), hentry⟩
  · rintro ⟨index, hrange, hentry⟩
    obtain ⟨hge, hlt⟩ := List.mem_range'_1.mp hrange
    obtain ⟨hindex, hvalid, -⟩ := (validEntry_eq_some h).mp hentry
    have hlower := h.timestamp_le hts hindex hge
    have hupper := h.timestamp_le hindex hte (by omega)
    exact ⟨index, hentry, ⟨_, hvalid, hindex, hafter.trans_le hlower⟩,
      ⟨_, hvalid, hindex, hupper.trans_lt hbefore⟩⟩

/-- What is read are the last of the valid reports between the two times. -/
theorem getMultipleValuesBefore_eq (h : ReportSeries o queryId) (hcount : o.count queryId < 2 ^ 31)
    (maxAge maxCount : ℕ) :
    o.getMultipleValuesBefore queryId timestamp maxAge maxCount =
      some ((o.validBetween queryId (timestamp - maxAge) timestamp).rtake maxCount) := by
  have hindexed := h.toIndexed
  obtain ⟨first, hfirst, hfirstIs⟩ : ∃ first,
      o.getIndexForDataAfter queryId (timestamp - maxAge) = some first ∧
        IsFirst (o.validAfter queryId (timestamp - maxAge)) first :=
    getIndexForDataAfter_isFirst hindexed hcount
  have hlastIs : IsLast (o.validBefore queryId timestamp)
    (o.getIndexForDataBefore queryId timestamp) := getIndexForDataBefore_isLast h
  rw [getMultipleValuesBefore, hfirst]
  dsimp only [Option.bind_eq_bind, Option.bind_some]
  cases first with
  | none =>
    -- no value within range
    have hnone : o.validBetween queryId (timestamp - maxAge) timestamp = [] := by
      apply List.eq_nil_iff_forall_not_mem.mpr
      intro entry hentry
      obtain ⟨index, -, hlower, -⟩ := (mem_validBetween hindexed).mp hentry
      exact Set.eq_empty_iff_forall_notMem.mp hfirstIs index hlower
    rw [hnone, List.rtake_nil]
  | some start =>
    cases hlast : o.getIndexForDataBefore queryId timestamp with
    | none =>
      -- no value before timestamp
      rw [hlast] at hlastIs
      have hnone : o.validBetween queryId (timestamp - maxAge) timestamp = [] := by
        apply List.eq_nil_iff_forall_not_mem.mpr
        intro entry hentry
        obtain ⟨index, -, -, hupper⟩ := (mem_validBetween hindexed).mp hentry
        exact Set.eq_empty_iff_forall_notMem.mp hlastIs index hupper
      rw [hnone, List.rtake_nil]
    | some stop =>
      rw [hlast] at hlastIs
      obtain ⟨te, -, hte, -⟩ := hlastIs.1
      have hstop := (hindexed.defined stop).mp ⟨te, hte⟩
      obtain ⟨timestamps, htimestamps⟩ : ∃ timestamps, timestamps =
        (List.range' start (stop + 1 - start)).filterMap (o.validTimestamp queryId) := ⟨_, rfl⟩
      have hvalues : ∀ t ∈ timestamps, ∃ entry,
          (o.retrieveData queryId t).map (·, t) = some entry := by
        intro t ht
        rw [htimestamps, List.mem_filterMap] at ht
        obtain ⟨index, -, hindex⟩ := ht
        obtain ⟨value, hvalue⟩ := h.exists_value ((validTimestamp_eq_some hindexed).mp hindex).2
        exact ⟨(value, t), by rw [hvalue, Option.map_some]⟩
      have hentries : timestamps.filterMap (fun t ↦ (o.retrieveData queryId t).map (·, t)) =
          o.validBetween queryId (timestamp - maxAge) timestamp := by
        rw [validBetween_eq hindexed hfirstIs hlastIs, htimestamps, List.filterMap_filterMap]
        congr 1
        funext index
        exact (validEntry_eq index).symm
      dsimp only
      rw [collectTimestamps_eq hindexed hcount _ (stop + 1 - start) hstop (by omega) (by omega)
        (by omega) (Nat.zero_le _), ← htimestamps, Option.bind_some, List.nil_append, List.length_nil,
        Nat.sub_zero, ← List.rtake_eq_reverse_take_reverse, filterMap_rtake _ hvalues, hentries]

end Oracle

/-! ## Reachable states -/

section Reachable

variable [DecidableEq AccountId] {cfg : Config AccountId} {s : State AccountId} {queryId : QueryId}
  {timestamp : ℕ}

/-- In every reachable state the search for the last valid report before a time ends at it, or at
none exactly when there is none, and the reads through it return its value and timestamp. -/
theorem dataBefore_of_reachable (h : Reachable cfg s) (queryId : QueryId) (timestamp : ℕ) :
    s.oracle.SearchEnds queryId timestamp ∧
    IsLast (s.oracle.validBefore queryId timestamp)
      (s.oracle.getIndexForDataBefore queryId timestamp) ∧
    (s.oracle.getIndexForDataBefore queryId timestamp = none →
      s.oracle.getDataBefore queryId timestamp = none ∧
        (s.oracle.getDataBeforeWithStart queryId timestamp 0).1 = none) ∧
    ∀ index, s.oracle.getIndexForDataBefore queryId timestamp = some index →
      ∃ value t, s.oracle.reportedTimestampsByIndex.lookup (queryId, index) = some t ∧
        s.oracle.reportedValuesByTimestamp.lookup (queryId, t) = some value ∧
        s.oracle.getDataBefore queryId timestamp = some (value, t) ∧
        (s.oracle.getDataBeforeWithStart queryId timestamp 0).1 = some (value, t) := by
  have hseries := h.seriesInvariant.series queryId
  have hlast : IsLast (s.oracle.validBefore queryId timestamp)
    (s.oracle.getIndexForDataBefore queryId timestamp) := Oracle.getIndexForDataBefore_isLast hseries
  have hwithStart : (s.oracle.getDataBeforeWithStart queryId timestamp 0).1 =
      s.oracle.getDataBefore queryId timestamp := rfl
  refine ⟨hseries.searchEnds, hlast, fun hnone ↦ ?_, fun index hindex ↦ ?_⟩
  · rw [hwithStart, Oracle.getDataBefore, hnone]
    exact ⟨rfl, rfl⟩
  · rw [hindex] at hlast
    obtain ⟨t, hvalid, ht, -⟩ := hlast.1
    obtain ⟨value, hvalue⟩ := hseries.exists_value hvalid
    have hread : s.oracle.getDataBefore queryId timestamp = some (value, t) := by
      rw [Oracle.getDataBefore, hindex, Option.bind_some, ht, Option.bind_some, hvalue, Option.map_some]
    exact ⟨value, t, ht, hvalue, hread, hwithStart.trans hread⟩

/-- With three reports, the second of them disputed. -/
theorem dataBefore_of_reports :
    let s := run (step Mock.config) Mock.reports Mock.genesis
    s.oracle.SearchEnds Mock.queryId (Mock.start + 25) ∧
      IsLast (s.oracle.validBefore Mock.queryId (Mock.start + 25))
        (s.oracle.getIndexForDataBefore Mock.queryId (Mock.start + 25)) := by
  intro s
  have hs : Reachable Mock.config s := Mock.reachableBy_run Mock.reports (by decide +kernel)
  clear_value s
  obtain ⟨hends, hlast, -, -⟩ := dataBefore_of_reachable hs Mock.queryId (Mock.start + 25)
  exact ⟨hends, hlast⟩

/-- In every reachable state with fewer than `2 ^ 31` reports of a query, the search for the first
valid report after a time ends at it, or at none exactly when there is none, and the read through it
returns its value and timestamp. -/
theorem dataAfter_of_reachable (h : Reachable cfg s) (queryId : QueryId)
    (hcount : s.oracle.count queryId < 2 ^ 31) (timestamp : ℕ) :
    ∃ found, s.oracle.getIndexForDataAfter queryId timestamp = some found ∧
      IsFirst (s.oracle.validAfter queryId timestamp) found ∧
      (found = none → s.oracle.getDataAfter queryId timestamp = some none) ∧
      ∀ index, found = some index →
        ∃ value t, s.oracle.reportedTimestampsByIndex.lookup (queryId, index) = some t ∧
          s.oracle.reportedValuesByTimestamp.lookup (queryId, t) = some value ∧
          s.oracle.getDataAfter queryId timestamp = some (some (value, t)) := by
  have hseries := h.seriesInvariant.series queryId
  obtain ⟨found, hfound, hfirst⟩ : ∃ found,
      s.oracle.getIndexForDataAfter queryId timestamp = some found ∧
        IsFirst (s.oracle.validAfter queryId timestamp) found :=
    Oracle.getIndexForDataAfter_isFirst hseries.toIndexed hcount
  refine ⟨found, hfound, hfirst, fun hnone ↦ ?_, fun index hindex ↦ ?_⟩
  · rw [Oracle.getDataAfter, hfound, hnone]
    rfl
  · rw [hindex] at hfirst
    obtain ⟨t, hvalid, ht, -⟩ := hfirst.1
    obtain ⟨value, hvalue⟩ := hseries.exists_value hvalid
    refine ⟨value, t, ht, hvalue, ?_⟩
    rw [Oracle.getDataAfter, hfound, hindex]
    dsimp only [Option.bind_eq_bind, Option.bind_some]
    rw [Oracle.getTimestampByQueryIdAndIndex, ht, Option.bind_some, hvalue, Option.map_some]

/-- With three reports, the second of them disputed. -/
theorem dataAfter_of_reports :
    let s := run (step Mock.config) Mock.reports Mock.genesis
    ∃ found, s.oracle.getIndexForDataAfter Mock.queryId (Mock.start + 12) = some found ∧
      IsFirst (s.oracle.validAfter Mock.queryId (Mock.start + 12)) found := by
  intro s
  obtain ⟨found, hfound, hfirst, -, -⟩ := dataAfter_of_reachable
    (Mock.reachableBy_run Mock.reports (by decide +kernel)) Mock.queryId (by decide +kernel)
    (Mock.start + 12)
  exact ⟨found, hfound, hfirst⟩

end Reachable

end TellorPallet
