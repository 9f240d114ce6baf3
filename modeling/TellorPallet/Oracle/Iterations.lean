import TellorPallet.Oracle.Calls
import TellorPallet.Oracle.Lookups

/-!
# Iterations of the search for a price

`update_stake_amount` is charged for `MAX_ITERATIONS` iterations of each of its two searches. The
bisection halves the distance between its indices in every iteration, so a series whose length is a
number of 32 bits is searched within that many.
-/

namespace TellorPallet

open Outcome Transition Predecessor

variable {AccountId : Type}

namespace Oracle

variable {o : Oracle AccountId} {queryId : QueryId} {timestamp : ℕ}

/-- The indices of the reports of a query that are not disputed. -/
def validIndices (o : Oracle AccountId) (queryId : QueryId) : Set ℕ :=
  {i | ∃ t ∈ o.valid queryId, o.reportedTimestampsByIndex.lookup (queryId, i) = some t}

/-- The boundary checks of the search from index zero decide it: the time lies after every valid report,
or not after the first report. -/
def ShortCircuits (o : Oracle AccountId) (queryId : QueryId) (timestamp : ℕ) : Prop :=
  (∀ t ∈ o.valid queryId, t < timestamp) ∨
    ∀ t, o.reportedTimestampsByIndex.lookup (queryId, 0) = some t → timestamp ≤ t

theorem iterations_eq_zero (h : ReportSeries o queryId) (hshort : o.ShortCircuits queryId timestamp) :
    (o.getIndexForDataBeforeWithStart queryId timestamp 0).2 = 0 := by
  have hlast := h.last
  unfold getIndexForDataBeforeWithStart
  cases hlrt : o.lastReportedTimestamp.lookup queryId with
  | none => rfl
  | some last =>
    rw [hlrt] at hlast
    dsimp only
    cases htime : o.reportedTimestampsByIndex.lookup (queryId, 0) with
    | none => rfl
    | some time =>
      dsimp only
      split
      · rfl
      · next hfirst =>
        obtain ⟨report, hreport, -⟩ := id hlast.1
        rw [hreport]
        dsimp only
        rcases hshort with hafter | hbefore
        · rw [if_pos (hafter last hlast.1)]
        · exact absurd (hbefore time htime) hfirst

/-- When the boundary checks do not decide the search, the bisection runs between the first index and
the last one of a valid report. -/
theorem exists_iterations (h : ReportSeries o queryId) (hlong : ¬o.ShortCircuits queryId timestamp) :
    ∃ e, 1 ≤ e ∧ IsGreatest (o.validIndices queryId) e ∧ e < o.count queryId ∧
      (o.getIndexForDataBeforeWithStart queryId timestamp 0).2 ≤ Nat.log 2 e + 1 ∧
      ∀ fuel, Nat.log 2 e < fuel → o.searchBefore queryId timestamp fuel 0 e 0 =
        some (o.getIndexForDataBeforeWithStart queryId timestamp 0) := by
  have hlast := h.last
  simp only [ShortCircuits, not_or, not_forall, not_lt, not_le] at hlong
  obtain ⟨⟨t, ht, htime⟩, first, hfirst, hafter⟩ := hlong
  cases hlrt : o.lastReportedTimestamp.lookup queryId with
  | none =>
    rw [hlrt] at hlast
    have hempty : o.valid queryId = ∅ := hlast
    rw [hempty] at ht
    exact absurd ht (Set.notMem_empty t)
  | some last =>
    rw [hlrt] at hlast
    obtain ⟨report, hreport, -⟩ := id hlast.1
    have hindex := h.timestamp_at last report hreport
    have hbefore : timestamp ≤ last := htime.trans (hlast.2 ht)
    have hb : Brackets o queryId timestamp 0 report.index :=
      ⟨⟨first, hfirst, hafter⟩, ⟨last, hindex, hbefore⟩⟩
    obtain ⟨p, hp⟩ := exists_isLastBelow (o.valid queryId) timestamp
    obtain ⟨n, hn, hsearch⟩ := searchBefore_eq h 0 hb hp
    have hwithStart : o.getIndexForDataBeforeWithStart queryId timestamp 0 =
        (p.bind (o.indexAt queryId), n) := by
      unfold getIndexForDataBeforeWithStart
      simp only [hlrt, hfirst, hreport, if_neg (not_le.mpr hafter), if_neg (not_lt.mpr hbefore)]
      rw [hsearch (report.index + 1) (Nat.lt_succ_of_le (Nat.log_le_self 2 _)), Option.getD_some]
    refine ⟨report.index, hb.lt h, ⟨⟨last, hlast.1, hindex⟩, ?_⟩, h.index_lt_count hreport, ?_, ?_⟩
    · rintro i ⟨u, hu, hi⟩
      exact (h.index_le_iff hi hindex).mpr (hlast.2 hu)
    · rw [hwithStart]
      simpa using hn
    · rw [hwithStart]
      exact hsearch

theorem iterations_le (h : ReportSeries o queryId) (hcount : o.count queryId ≤ u32Max) :
    (o.getIndexForDataBeforeWithStart queryId timestamp 0).2 ≤ maxIterations := by
  by_cases hshort : o.ShortCircuits queryId timestamp
  · rw [iterations_eq_zero h hshort]
    exact Nat.zero_le _
  · obtain ⟨e, hpositive, -, he, hle, -⟩ := exists_iterations h hshort
    have hrange : e < 2 ^ 32 := he.trans (Nat.lt_succ_of_le hcount)
    have hlog : Nat.log 2 e < 32 := Nat.log_lt_of_lt_pow (by omega) hrange
    exact hle.trans hlog

end Oracle

/-- The iterations of the two searches of `update_stake_amount`, which its weight is corrected to. -/
def updateStakeAmountIterations (cfg : Config AccountId) (s : State AccountId) : ℕ × ℕ :=
  let before := s.now - 12 * hours
  ((s.oracle.getDataBeforeWithStart cfg.stakingTokenPriceQueryId before 0).2,
    (s.oracle.getDataBeforeWithStart cfg.stakingToLocalTokenPriceQueryId before 0).2)

/-! ## Reachable states -/

section Reachable

variable [DecidableEq AccountId] {cfg : Config AccountId} {s : State AccountId}

/-- The weight `update_stake_amount` is charged covers both of its searches. -/
theorem updateStakeAmountIterations_le (h : Reachable cfg s)
    (hcount : ∀ queryId, s.oracle.count queryId ≤ u32Max) :
    (updateStakeAmountIterations cfg s).1 ≤ maxIterations ∧
      (updateStakeAmountIterations cfg s).2 ≤ maxIterations :=
  ⟨Oracle.iterations_le (h.seriesInvariant.series _) (hcount _),
    Oracle.iterations_le (h.seriesInvariant.series _) (hcount _)⟩

/-- In every reachable state a series of a length of 32 bits is searched within `maxIterations`: in no
iteration where the boundary checks decide, and else in at most one more than the logarithm of the
index of the last valid report, after which the bisection has ended. -/
theorem iterations_of_reachable (h : Reachable cfg s) (queryId : QueryId)
    (hcount : s.oracle.count queryId ≤ u32Max) (timestamp : ℕ) :
    let iterations := (s.oracle.getIndexForDataBeforeWithStart queryId timestamp 0).2
    iterations ≤ maxIterations ∧
    (s.oracle.ShortCircuits queryId timestamp → iterations = 0) ∧
    (¬s.oracle.ShortCircuits queryId timestamp →
      ∃ e, 1 ≤ e ∧ IsGreatest (s.oracle.validIndices queryId) e ∧ iterations ≤ Nat.log 2 e + 1 ∧
        ∀ fuel, Nat.log 2 e < fuel → s.oracle.searchBefore queryId timestamp fuel 0 e 0 =
          some (s.oracle.getIndexForDataBefore queryId timestamp, iterations)) := by
  have hseries := h.seriesInvariant.series queryId
  refine ⟨Oracle.iterations_le hseries hcount, Oracle.iterations_eq_zero hseries, fun hlong ↦ ?_⟩
  obtain ⟨e, hpositive, hgreatest, -, hle, hsearch⟩ := Oracle.exists_iterations hseries hlong
  exact ⟨e, hpositive, hgreatest, hle, hsearch⟩

/-- With three reports, the second of them disputed. -/
theorem iterations_of_reports :
    let s := run (step Mock.config) Mock.reports Mock.genesis
    (s.oracle.getIndexForDataBeforeWithStart Mock.queryId (Mock.start + 25) 0).2 ≤ maxIterations :=
  (iterations_of_reachable (Mock.reachableBy_run Mock.reports (by decide +kernel)) Mock.queryId
    (by decide +kernel) (Mock.start + 25)).1

end Reachable

end TellorPallet
