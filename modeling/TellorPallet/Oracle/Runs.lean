import TellorPallet.Oracle.Series
import TellorPallet.Runtime.Effects
import TellorPallet.Runtime.Mock

/-!
# Report series along runs

Of all inputs, only `submit_value` and the first round of a dispute touch the report series, and only
under conditions on the clock. From this the series invariant follows for every reachable state.
-/

namespace TellorPallet

open Outcome Transition Predecessor

variable {AccountId : Type} [DecidableEq AccountId] {cfg : Config AccountId}

/-- What an input does to the report series and the clock. -/
inductive SeriesStep (cfg : Config AccountId) (s s' : State AccountId) : Prop where
  | unchanged (horacle : s'.oracle = s.oracle) (hnow : s.now ≤ s'.now)
  | submitted {queryId : QueryId} {reporter : AccountId} {value : Value} (hnow : s'.now = s.now)
      (hpositive : 0 < s.now) (hfresh : s.oracle.reports.lookup (queryId, s.now) = none)
      (hvalue : value ≠ [])
      (horacle : s'.oracle = s.oracle.submit queryId s.now s.blockNumber reporter value)
  | removed {queryId : QueryId} {timestamp iterations : ℕ} (hnow : s'.now = s.now)
      (hreported : timestamp ≤ s.now) (hlock : s.now - timestamp < reportingLock)
      (hremoved : s.oracle.removeValue cfg.maxDisputedTimeSeries queryId timestamp =
        .ok (iterations, s'.oracle))

theorem Minor.oracle_eq {s s' : State AccountId} (h : Minor cfg s s') :
    s'.oracle = s.oracle ∧ s'.now = s.now := by
  cases h with
  | funded haccount h => exact ⟨rfl, rfl⟩
  | registered hevent h =>
    obtain ⟨-, rfl⟩ := State.sendXcm_eq_ok.mp h
    exact ⟨rfl, rfl⟩
  | priced h hquiet =>
    rw [h]
    exact ⟨rfl, rfl⟩
  | voted h =>
    rw [h.state_eq]
    exact ⟨rfl, rfl⟩
  | sent hpending h =>
    rw [h.state_eq]
    exact ⟨rfl, rfl⟩

theorem minor_oracle_eq {s s' : State AccountId} (h : Relation.ReflTransGen (Minor cfg) s s') :
    s'.oracle = s.oracle ∧ s'.now = s.now := by
  induction h with
  | refl => exact ⟨rfl, rfl⟩
  | tail _ hlast ih =>
    obtain ⟨horacle, hnow⟩ := hlast.oracle_eq
    exact ⟨horacle.trans ih.1, hnow.trans ih.2⟩

theorem Effect.seriesStep {s s' : State AccountId} {input : Input AccountId}
    (h : Effect cfg s input s') : SeriesStep cfg s s' := by
  have hframe : s'.oracle = s.oracle → s'.now = s.now → SeriesStep cfg s s' :=
    fun horacle hnow ↦ .unchanged horacle hnow.ge
  cases h with
  | refused => exact hframe rfl rfl
  | minor hinput h => exact hframe (minor_oracle_eq h).1 (minor_oracle_eq h).2
  | newBlock h => exact .unchanged rfl h
  | external hbound hpallet => exact hframe rfl rfl
  | tipped hsigner h =>
    rw [h.frame]
    exact .unchanged rfl le_rfl
  | feedSetUp hbalance h =>
    rw [h.frame]
    exact .unchanged rfl le_rfl
  | feedSetUpFunded hsigner hbalance h hfunded =>
    rw [hfunded.frame, h.frame]
    exact .unchanged rfl le_rfl
  | feedFunded hsigner h =>
    rw [h.frame]
    exact .unchanged rfl le_rfl
  | onetimeClaimed hsigner h =>
    rw [h.frame]
    exact .unchanged rfl le_rfl
  | feedClaimed hsigner h =>
    rw [h.frame]
    exact .unchanged rfl le_rfl
  | rewardsAdded hsigner h hevents hquiet =>
    rw [hevents, doAddStakingRewards_frame h]
    exact .unchanged rfl le_rfl
  | submitted hevent h =>
    rw [h.state_eq]
    exact .submitted rfl (Nat.zero_lt_of_lt h.last_lt) h.fresh h.value_ne rfl
  | disputed hsigner hround hmax hprepared hopened =>
    rw [hopened.state_eq]
    rcases hprepared with ⟨-, iterations, hfirst⟩ | ⟨-, rfl, -⟩
    · rw [hfirst.state_eq]
      exact .removed rfl hfirst.reported hfirst.within_lock hfirst.removed
    · exact .unchanged rfl le_rfl
  | tallied h =>
    rw [h.state_eq]
    exact .unchanged rfl le_rfl
  | executed h =>
    rw [h.state_eq]
    exact .unchanged rfl le_rfl
  | reported hevent haccepted hcall h =>
    rw [h.frame]
    exact .unchanged rfl le_rfl
  | withdrawn h =>
    rw [h.state_eq]
    exact .unchanged rfl le_rfl

/-! ## The series invariant -/

/-- Every query's series is consistent, and no report is from the epoch itself or the future. -/
structure SeriesInvariant (s : State AccountId) : Prop where
  series : ∀ queryId, Oracle.ReportSeries s.oracle queryId
  time : ∀ queryId t report, s.oracle.reports.lookup (queryId, t) = some report → 0 < t ∧ t ≤ s.now

omit [DecidableEq AccountId] in
theorem seriesInvariant_genesis {s : State AccountId} (h : IsGenesis cfg s) : SeriesInvariant s := by
  obtain ⟨ledger, blockNumber, now, -, rfl⟩ := h
  refine ⟨fun queryId ↦ ?_, fun queryId t report hreport ↦ ?_⟩
  · have hvalid : (State.genesis cfg ledger blockNumber now).oracle.valid queryId = ∅ := by
      simp [Oracle.valid, State.genesis]
    refine ⟨⟨?_, ?_, ?_, ?_⟩, ?_, ?_, ?_⟩
    · simp [State.genesis, Oracle.count]
    · simp [State.genesis]
    · simp [State.genesis]
    · simp [State.genesis]
    · rw [hvalid]
      simp [State.genesis]
    · simp [State.genesis]
    · rw [hvalid]
      simp [State.genesis, IsLast]
  · simp [State.genesis] at hreport

omit [DecidableEq AccountId] in
theorem SeriesStep.preserves {s s' : State AccountId} (h : SeriesStep cfg s s')
    (hinv : SeriesInvariant s) : SeriesInvariant s' := by
  cases h with
  | unchanged horacle hnow =>
    refine ⟨fun q ↦ horacle ▸ hinv.series q, fun q t report hreport ↦ ?_⟩
    rw [horacle] at hreport
    have htime := hinv.time q t report hreport
    exact ⟨htime.1, htime.2.trans hnow⟩
  | @submitted queryId reporter value hnow hpositive hfresh hvalue horacle =>
    have hbefore : ∀ t report, s.oracle.reports.lookup (queryId, t) = some report → t < s.now := by
      intro t report hreport
      refine lt_of_le_of_ne (hinv.time queryId t report hreport).2 fun heq ↦ ?_
      rw [heq, hfresh] at hreport
      cases hreport
    refine ⟨fun q ↦ ?_, fun q t report hreport ↦ ?_⟩
    · rw [horacle]
      by_cases hq : q = queryId
      · rw [hq]
        exact (hinv.series queryId).submit hbefore
      · exact (hinv.series q).congr (Oracle.submit_agree hq)
    · rw [horacle, Oracle.submit_reports] at hreport
      rw [hnow]
      split at hreport
      · next hq =>
        rw [hq.2]
        exact ⟨hpositive, le_rfl⟩
      · exact hinv.time q t report hreport
  | @removed queryId timestamp iterations hnow hreported hlock hremoved =>
    obtain ⟨report, hremoval⟩ := Oracle.removeValue_removed (hinv.series queryId).toIndexed hremoved
    refine ⟨fun q ↦ ?_, fun q t after hafter ↦ ?_⟩
    · by_cases hq : q = queryId
      · rw [hq]
        exact hremoval.series (hinv.series queryId)
      · exact (hinv.series q).congr (hremoval.agree hq)
    · obtain ⟨before, hbefore, -⟩ := hremoval.exists_report hafter
      rw [hnow]
      exact hinv.time q t before hbefore

omit [DecidableEq AccountId] in
/-- No report is lost. -/
theorem SeriesStep.exists_report {s s' : State AccountId} (h : SeriesStep cfg s s')
    (hinv : SeriesInvariant s) (queryId : QueryId) (t : ℕ) (report : Report AccountId)
    (hreport : s.oracle.reports.lookup (queryId, t) = some report) :
    ∃ report', s'.oracle.reports.lookup (queryId, t) = some report' := by
  cases h with
  | unchanged horacle hnow => exact ⟨report, horacle ▸ hreport⟩
  | submitted hnow hpositive hfresh hvalue horacle =>
    rw [horacle, Oracle.submit_reports]
    split
    · exact ⟨_, rfl⟩
    · exact ⟨report, hreport⟩
  | @removed q timestamp iterations hnow hreported hlock hremoved =>
    obtain ⟨disputed, hremoval⟩ := Oracle.removeValue_removed (hinv.series q).toIndexed hremoved
    rw [hremoval.reports_eq]
    split
    · exact ⟨_, rfl⟩
    · exact ⟨_, by rw [hreport, Option.map_some]⟩

theorem Reachable.seriesInvariant {s : State AccountId} (h : Reachable cfg s) : SeriesInvariant s :=
  h.invariant SeriesInvariant (fun _ hgenesis ↦ seriesInvariant_genesis hgenesis)
    fun _ _ _ hinv heffect ↦ heffect.seriesStep.preserves hinv

omit [DecidableEq AccountId] in
theorem SeriesStep.value_ne {s s' : State AccountId} (h : SeriesStep cfg s s') (hinv : SeriesInvariant s)
    (hvalues : ∀ key value, s.oracle.reportedValuesByTimestamp.lookup key = some value → value ≠ [])
    (key : QueryId × ℕ) (value : Value)
    (hvalue : s'.oracle.reportedValuesByTimestamp.lookup key = some value) : value ≠ [] := by
  cases h with
  | unchanged horacle hnow =>
    rw [horacle] at hvalue
    exact hvalues key value hvalue
  | submitted hnow hpositive hfresh hsubmitted horacle =>
    rw [horacle, Oracle.submit_values] at hvalue
    split at hvalue
    · cases hvalue
      exact hsubmitted
    · exact hvalues key value hvalue
  | @removed queryId timestamp iterations hnow hreported hlock hremoved =>
    obtain ⟨report, hremoval⟩ := Oracle.removeValue_removed (hinv.series queryId).toIndexed hremoved
    rw [hremoval.values_eq, FiniteMap.lookup_erase_ite] at hvalue
    split at hvalue
    · cases hvalue
    · exact hvalues key value hvalue

/-- No report has an empty value. -/
theorem Reachable.value_ne {s : State AccountId} (h : Reachable cfg s) {key : QueryId × ℕ}
    {value : Value}
    (hvalue : s.oracle.reportedValuesByTimestamp.lookup key = some value) : value ≠ [] := by
  have hinv : SeriesInvariant s ∧
      ∀ key value, s.oracle.reportedValuesByTimestamp.lookup key = some value → value ≠ [] := by
    refine h.invariant (fun s ↦ SeriesInvariant s ∧
      ∀ key value, s.oracle.reportedValuesByTimestamp.lookup key = some value → value ≠ [])
      (fun s hgenesis ↦ ⟨seriesInvariant_genesis hgenesis, ?_⟩)
      fun _ _ _ hinv heffect ↦ ⟨heffect.seriesStep.preserves hinv.1,
        heffect.seriesStep.value_ne hinv.1 hinv.2⟩
    obtain ⟨ledger, blockNumber, now, -, rfl⟩ := hgenesis
    intro key value hvalue
    simp [State.genesis] at hvalue
  exact hinv.2 key value hvalue

/-- In every reachable state the index of a query enumerates its reports in time order, a value is
stored exactly for the reports that are not disputed, every report points at the last such report
before it, and the query at the last of all. -/
theorem reportSeries_of_reachable {s : State AccountId} (h : Reachable cfg s) (queryId : QueryId) :
    Oracle.ReportSeries s.oracle queryId :=
  h.seriesInvariant.series queryId

/-- The series with three reports, the second of them disputed. -/
theorem reportSeries_of_reports :
    Oracle.ReportSeries (run (step Mock.config) Mock.reports Mock.genesis).oracle Mock.queryId :=
  reportSeries_of_reachable (Mock.reachableBy_run Mock.reports (by decide +kernel)) Mock.queryId

end TellorPallet
