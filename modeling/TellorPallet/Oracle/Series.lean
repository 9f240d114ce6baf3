import TellorPallet.Foundation.Predecessor
import TellorPallet.Oracle.Reports

/-!
# The report series invariant

What `submit_value` and `remove_value` keep true of the reports of one query: the index enumerates
them in time order, a value is stored exactly for the reports that are not disputed, and every
report, like the query itself, points at the last such report before it.
-/

namespace TellorPallet

open Outcome Predecessor

variable {AccountId : Type}

namespace Oracle

variable {o o' : Oracle AccountId} {queryId : QueryId} {timestamp : ℕ}

/-- The timestamps of a query's reports that are not disputed. -/
def valid (o : Oracle AccountId) (queryId : QueryId) : Set ℕ :=
  {t | ∃ report, o.reports.lookup (queryId, t) = some report ∧ report.isDisputed = false}

/-- The index of a query enumerates its reports in time order. -/
structure Indexed (o : Oracle AccountId) (queryId : QueryId) : Prop where
  defined : ∀ i, (∃ t, o.reportedTimestampsByIndex.lookup (queryId, i) = some t) ↔ i < o.count queryId
  increasing : ∀ i j t u, o.reportedTimestampsByIndex.lookup (queryId, i) = some t →
    o.reportedTimestampsByIndex.lookup (queryId, j) = some u → i < j → t < u
  report_at : ∀ i t, o.reportedTimestampsByIndex.lookup (queryId, i) = some t →
    ∃ report, o.reports.lookup (queryId, t) = some report ∧ report.index = i
  timestamp_at : ∀ t report, o.reports.lookup (queryId, t) = some report →
    o.reportedTimestampsByIndex.lookup (queryId, report.index) = some t

/-- The report series of a query is consistent. -/
structure ReportSeries (o : Oracle AccountId) (queryId : QueryId) : Prop extends
    Indexed o queryId where
  value_iff : ∀ t, (∃ value, o.reportedValuesByTimestamp.lookup (queryId, t) = some value) ↔
    t ∈ o.valid queryId
  previous : ∀ t report, o.reports.lookup (queryId, t) = some report →
    IsLastBelow (o.valid queryId) t report.previous
  last : IsLast (o.valid queryId) (o.lastReportedTimestamp.lookup queryId)

/-! ## Reading the index -/

theorem Indexed.index_lt_count (h : Indexed o queryId) {report : Report AccountId}
    (hreport : o.reports.lookup (queryId, timestamp) = some report) :
    report.index < o.count queryId :=
  (h.defined report.index).mp ⟨timestamp, h.timestamp_at timestamp report hreport⟩

/-- Index order is time order. -/
theorem Indexed.index_lt_iff (h : Indexed o queryId) {t u : ℕ}
    {report other : Report AccountId} (ht : o.reports.lookup (queryId, t) = some report)
    (hu : o.reports.lookup (queryId, u) = some other) : report.index < other.index ↔ t < u := by
  have hti := h.timestamp_at t report ht
  have hui := h.timestamp_at u other hu
  constructor
  · exact h.increasing _ _ _ _ hti hui
  · intro htu
    rcases lt_trichotomy report.index other.index with hlt | heq | hgt
    · exact hlt
    · rw [heq, hui] at hti
      cases hti
      exact absurd htu (lt_irrefl _)
    · exact absurd htu (lt_asymm (h.increasing _ _ _ _ hui hti hgt))

theorem mem_valid_of_lookup {report : Report AccountId}
    (h : o.reports.lookup (queryId, timestamp) = some report) :
    timestamp ∈ o.valid queryId ↔ report.isDisputed = false := by
  constructor
  · intro hvalid
    obtain ⟨other, hother, hdisputed⟩ := hvalid
    rw [h] at hother
    cases hother
    exact hdisputed
  · intro hdisputed
    exact ⟨report, h, hdisputed⟩

/-! ## Series of other queries -/

/-- Two states of the storage agree on everything they store of a query's series. -/
structure Agree (o o' : Oracle AccountId) (queryId : QueryId) : Prop where
  index : ∀ i, o'.reportedTimestampsByIndex.lookup (queryId, i) =
    o.reportedTimestampsByIndex.lookup (queryId, i)
  count : o'.count queryId = o.count queryId
  reports : ∀ t, o'.reports.lookup (queryId, t) = o.reports.lookup (queryId, t)
  values : ∀ t, o'.reportedValuesByTimestamp.lookup (queryId, t) =
    o.reportedValuesByTimestamp.lookup (queryId, t)
  last : o'.lastReportedTimestamp.lookup queryId = o.lastReportedTimestamp.lookup queryId

theorem Agree.valid_eq (h : Agree o o' queryId) : o'.valid queryId = o.valid queryId := by
  ext t
  simp only [valid, Set.mem_ofPred_eq, h.reports]

theorem ReportSeries.congr (hseries : ReportSeries o queryId) (h : Agree o o' queryId) :
    ReportSeries o' queryId where
  defined i := by simpa only [h.index, h.count] using hseries.defined i
  increasing i j t u := by simpa only [h.index] using hseries.increasing i j t u
  report_at i t := by simpa only [h.index, h.reports] using hseries.report_at i t
  timestamp_at t report := by simpa only [h.index, h.reports] using hseries.timestamp_at t report
  value_iff t := by simpa only [h.values, h.valid_eq] using hseries.value_iff t
  previous t report := by simpa only [h.reports, h.valid_eq] using hseries.previous t report
  last := by simpa only [h.last, h.valid_eq] using hseries.last

/-! ## Submission -/

section Submit

variable {blockNumber : ℕ} {reporter : AccountId} {value : Value} {now : ℕ}

/-- The report that a submission stores. -/
def submitted (o : Oracle AccountId) (queryId : QueryId) (blockNumber : ℕ) (reporter : AccountId) :
    Report AccountId where
  index := o.count queryId
  blockNumber := blockNumber
  reporter := reporter
  isDisputed := false
  previous := o.lastReportedTimestamp.lookup queryId

theorem submit_index (q : QueryId) (i : ℕ) :
    (o.submit queryId now blockNumber reporter value).reportedTimestampsByIndex.lookup (q, i) =
      if q = queryId ∧ i = o.count queryId then some now
      else o.reportedTimestampsByIndex.lookup (q, i) := by
  simp only [submit, FiniteMap.lookup_insert_ite, Prod.mk.injEq]

theorem submit_reports (q : QueryId) (t : ℕ) :
    (o.submit queryId now blockNumber reporter value).reports.lookup (q, t) =
      if q = queryId ∧ t = now then some (o.submitted queryId blockNumber reporter)
      else o.reports.lookup (q, t) := by
  simp only [submit, submitted, FiniteMap.lookup_insert_ite, Prod.mk.injEq]

theorem submit_values (q : QueryId) (t : ℕ) :
    (o.submit queryId now blockNumber reporter value).reportedValuesByTimestamp.lookup (q, t) =
      if q = queryId ∧ t = now then some value
      else o.reportedValuesByTimestamp.lookup (q, t) := by
  simp only [submit, FiniteMap.lookup_insert_ite, Prod.mk.injEq]

theorem submit_count (q : QueryId) :
    (o.submit queryId now blockNumber reporter value).count q =
      if q = queryId then o.count queryId + 1 else o.count q := by
  simp only [submit, count, FiniteMap.read_insert]

theorem submit_last (q : QueryId) :
    (o.submit queryId now blockNumber reporter value).lastReportedTimestamp.lookup q =
      if q = queryId then some now else o.lastReportedTimestamp.lookup q := by
  simp only [submit, FiniteMap.lookup_insert_ite]

theorem submit_agree {q : QueryId} (h : q ≠ queryId) :
    Agree o (o.submit queryId now blockNumber reporter value) q where
  index i := by rw [submit_index, if_neg fun hq ↦ h hq.1]
  count := by rw [submit_count, if_neg h]
  reports t := by rw [submit_reports, if_neg fun hq ↦ h hq.1]
  values t := by rw [submit_values, if_neg fun hq ↦ h hq.1]
  last := by rw [submit_last, if_neg h]

theorem submit_valid :
    (o.submit queryId now blockNumber reporter value).valid queryId =
      insert now (o.valid queryId) := by
  ext t
  simp only [valid, Set.mem_ofPred_eq, submit_reports, true_and, Set.mem_insert_iff]
  split
  · next h => simp [h, submitted]
  · next h => simp [h]

theorem Indexed.submit (h : Indexed o queryId)
    (hbefore : ∀ t report, o.reports.lookup (queryId, t) = some report → t < now) :
    Indexed (o.submit queryId now blockNumber reporter value) queryId := by
  have hundefined : ∀ t, o.reportedTimestampsByIndex.lookup (queryId, o.count queryId) ≠ some t :=
    fun t ht ↦ absurd ((h.defined _).mp ⟨t, ht⟩) (lt_irrefl _)
  have hindexBefore : ∀ i t, o.reportedTimestampsByIndex.lookup (queryId, i) = some t → t < now := by
    intro i t ht
    obtain ⟨report, hreport, -⟩ := h.report_at i t ht
    exact hbefore t report hreport
  refine ⟨fun i ↦ ?_, fun i j t u hi hj hij ↦ ?_, fun i t hi ↦ ?_, fun t report hreport ↦ ?_⟩
  · rw [submit_count, if_pos rfl, submit_index]
    by_cases hi : i = o.count queryId
    · simp [hi]
    · rw [if_neg fun hq ↦ hi hq.2, h.defined]
      omega
  · rw [submit_index] at hi hj
    have hiCount : i ≠ o.count queryId := by
      intro heq
      have hjdefined : j < o.count queryId := by
        rw [if_neg (by omega)] at hj
        exact (h.defined j).mp ⟨u, hj⟩
      omega
    rw [if_neg fun hq ↦ hiCount hq.2] at hi
    split at hj
    · cases hj
      exact hindexBefore i t hi
    · exact h.increasing i j t u hi hj hij
  · rw [submit_index] at hi
    rw [submit_reports]
    split at hi
    · next hq =>
      cases hi
      exact ⟨_, if_pos ⟨rfl, rfl⟩, hq.2.symm⟩
    · rw [if_neg fun hq ↦ absurd (hindexBefore i t hi) (by rw [hq.2]; exact lt_irrefl _)]
      exact h.report_at i t hi
  · rw [submit_reports] at hreport
    rw [submit_index]
    split at hreport
    · next hq =>
      cases hreport
      rw [if_pos ⟨rfl, rfl⟩, hq.2]
    · rw [if_neg fun hq ↦ absurd (h.index_lt_count hreport) (by rw [hq.2]; exact lt_irrefl _)]
      exact h.timestamp_at t report hreport

theorem ReportSeries.submit (h : ReportSeries o queryId)
    (hbefore : ∀ t report, o.reports.lookup (queryId, t) = some report → t < now) :
    ReportSeries (o.submit queryId now blockNumber reporter value) queryId := by
  have hvalidBefore : ∀ x ∈ o.valid queryId, x < now := by
    intro x hx
    obtain ⟨report, hreport, -⟩ := hx
    exact hbefore x report hreport
  refine { h.toIndexed.submit hbefore with value_iff := ?_, previous := ?_, last := ?_ }
  · intro t
    rw [submit_values, submit_valid, Set.mem_insert_iff]
    by_cases ht : t = now
    · simp [ht]
    · rw [if_neg fun hq ↦ ht hq.2, h.value_iff]
      simp [ht]
  · intro t report hreport
    rw [submit_reports] at hreport
    rw [submit_valid]
    split at hreport
    · next hq =>
      cases hreport
      rw [hq.2]
      exact (h.last.isLastBelow hvalidBefore).insert_above le_rfl
    · exact (h.previous t report hreport).insert_above (hbefore t report hreport).le
  · rw [submit_last, if_pos rfl, submit_valid]
    exact isLast_insert hvalidBefore

end Submit

/-! ## Removal -/

section Remove

variable {limit remaining index iterations n : ℕ} {previous : Option ℕ}

/-- The relinking that starts at `index` reaches the report at `i`: all reports in between are
disputed. -/
def Reached (o : Oracle AccountId) (queryId : QueryId) (index i : ℕ) : Prop :=
  index ≤ i ∧ ∀ j t, index ≤ j → j < i →
    o.reportedTimestampsByIndex.lookup (queryId, j) = some t → t ∉ o.valid queryId

open Classical in
/-- A report after the relinking that starts at `index`. -/
noncomputable def relinked (o : Oracle AccountId) (queryId : QueryId) (index : ℕ)
    (previous : Option ℕ) (q : QueryId) (report : Report AccountId) : Report AccountId :=
  if q = queryId ∧ o.Reached queryId index report.index then { report with previous := previous }
  else report

theorem relinked_isDisputed (q : QueryId) (report : Report AccountId) :
    (o.relinked queryId index previous q report).isDisputed = report.isDisputed := by
  unfold relinked
  split <;> rfl

theorem relinked_index (q : QueryId) (report : Report AccountId) :
    (o.relinked queryId index previous q report).index = report.index := by
  unfold relinked
  split <;> rfl

/-- Replace the `previous` link of one report. -/
def setPrevious (o : Oracle AccountId) (queryId : QueryId) (t : ℕ)
    (report : Report AccountId) (previous : Option ℕ) : Oracle AccountId :=
  { o with reports := o.reports.insert (queryId, t) { report with previous := previous } }

theorem setPrevious_reports {report : Report AccountId} (q : QueryId) (t : ℕ) :
    (o.setPrevious queryId timestamp report previous).reports.lookup (q, t) =
      if q = queryId ∧ t = timestamp then some { report with previous := previous }
      else o.reports.lookup (q, t) := by
  simp only [setPrevious, FiniteMap.lookup_insert_ite, Prod.mk.injEq]

theorem setPrevious_valid {report : Report AccountId}
    (h : o.reports.lookup (queryId, timestamp) = some report) :
    (o.setPrevious queryId timestamp report previous).valid queryId = o.valid queryId := by
  ext t
  simp only [valid, Set.mem_ofPred_eq, setPrevious_reports, true_and]
  split
  · next ht =>
    subst ht
    simp only [h, Option.some.injEq, exists_eq_left']
  · rfl

theorem Indexed.setPrevious {report : Report AccountId} (hindexed : Indexed o queryId)
    (h : o.reports.lookup (queryId, timestamp) = some report) :
    Indexed (o.setPrevious queryId timestamp report previous) queryId where
  defined := hindexed.defined
  increasing := hindexed.increasing
  report_at i t ht := by
    obtain ⟨other, hother, hindex⟩ := hindexed.report_at i t ht
    rw [setPrevious_reports]
    split
    · next hq =>
      rw [hq.2, h] at hother
      cases hother
      exact ⟨_, rfl, hindex⟩
    · exact ⟨other, hother, hindex⟩
  timestamp_at t other hother := by
    rw [setPrevious_reports] at hother
    split at hother
    · next hq =>
      cases hother
      rw [hq.2]
      exact hindexed.timestamp_at timestamp report h
    · exact hindexed.timestamp_at t other hother

theorem reached_self : o.Reached queryId index index :=
  ⟨le_rfl, fun _ _ hle hlt ↦ absurd (lt_of_le_of_lt hle hlt) (lt_irrefl _)⟩

/-- Beyond a disputed report, the relinking reaches what it reaches from the next index on. -/
theorem reached_succ {report : Report AccountId}
    (ht : o.reportedTimestampsByIndex.lookup (queryId, index) = some timestamp)
    (hreport : o.reports.lookup (queryId, timestamp) = some report)
    (hdisputed : report.isDisputed = true) {i : ℕ} (hi : i ≠ index) :
    (o.setPrevious queryId timestamp report previous).Reached queryId (index + 1) i ↔
      o.Reached queryId index i := by
  unfold Reached
  rw [setPrevious_valid hreport]
  constructor
  · rintro ⟨hle, hbetween⟩
    refine ⟨by omega, fun j t hj hji hjt ↦ ?_⟩
    by_cases hjindex : j = index
    · rw [hjindex, ht] at hjt
      cases hjt
      rw [mem_valid_of_lookup hreport, hdisputed]
      exact Bool.true_eq_false.mp
    · exact hbetween j t (by omega) hji hjt
  · rintro ⟨hle, hbetween⟩
    exact ⟨by omega, fun j t hj hji hjt ↦ hbetween j t (by omega) hji hjt⟩

/-- Nothing beyond a report that is not disputed is reached. -/
theorem not_reached_of_valid
    (ht : o.reportedTimestampsByIndex.lookup (queryId, index) = some timestamp)
    (hvalid : timestamp ∈ o.valid queryId) {i : ℕ} (hi : i ≠ index) :
    ¬ o.Reached queryId index i :=
  fun hreached ↦ hreached.2 index timestamp le_rfl (lt_of_le_of_ne hreached.1 hi.symm) ht hvalid

/-- The loop of `remove_value`, when it returns, has relinked exactly the reports it reaches. -/
theorem relink_reports {o o' : Oracle AccountId} (hindexed : Indexed o queryId)
    (hremaining : remaining + iterations = limit + 1) (hiterations : iterations ≤ limit)
    (h : relink limit queryId previous remaining index iterations o = .ok (n, o')) :
    o' = { o with reports := o'.reports } ∧ ∀ q t, o'.reports.lookup (q, t) =
      (o.reports.lookup (q, t)).map (o.relinked queryId index previous q) := by
  induction remaining generalizing index iterations o with
  | zero => omega
  | succ remaining ih =>
    unfold relink at h
    split at h
    · cases h
    next hlimit =>
    split at h
    · next hnone =>
      obtain ⟨-, rfl⟩ := Prod.mk.inj (Except.ok.inj h)
      refine ⟨rfl, fun q t ↦ ?_⟩
      cases hreport : o.reports.lookup (q, t) with
      | none => rfl
      | some report =>
        rw [Option.map_some, relinked, if_neg]
        rintro ⟨rfl, hreached⟩
        have hdefined := hindexed.index_lt_count hreport
        obtain ⟨u, hu⟩ := (hindexed.defined index).mpr (lt_of_le_of_lt hreached.1 hdefined)
        rw [hnone] at hu
        cases hu
    · next timestamp ht =>
      split at h
      · cases h
      next next hnext =>
      have hindexNext : next.index = index := by
        obtain ⟨report, hreport, hindex⟩ := hindexed.report_at index timestamp ht
        rw [hnext] at hreport
        cases hreport
        exact hindex
      have hother : ∀ t report, o.reports.lookup (queryId, t) = some report → t ≠ timestamp →
          report.index ≠ index := by
        intro t report hreport hne heq
        have htime := hindexed.timestamp_at t report hreport
        rw [heq, ht] at htime
        cases htime
        exact hne rfl
      change (if next.isDisputed = true then relink limit queryId previous remaining (index + 1)
        (iterations + 1) (o.setPrevious queryId timestamp next previous) else
        .ok (iterations + 1, o.setPrevious queryId timestamp next previous)) = .ok (n, o') at h
      split at h
      · next hdisputed =>
        obtain ⟨hframe, hlookup⟩ :=
          ih (hindexed.setPrevious hnext) (by omega) (by omega) h
        refine ⟨hframe, fun q t ↦ ?_⟩
        rw [hlookup, setPrevious_reports]
        split
        · next hq =>
          rw [hq.1, hq.2, hnext, Option.map_some, Option.map_some, relinked, relinked, if_neg,
            if_pos ⟨rfl, hindexNext ▸ reached_self⟩]
          rintro ⟨-, hreached⟩
          have hle : index + 1 ≤ next.index := hreached.1
          omega
        · next hq =>
          cases hreport : o.reports.lookup (q, t) with
          | none => rfl
          | some report =>
            rw [Option.map_some, Option.map_some, relinked, relinked]
            congr 2
            refine propext (and_congr_right fun hqueryId ↦ ?_)
            subst hqueryId
            exact reached_succ ht hnext hdisputed
              (hother t report hreport fun heq ↦ hq ⟨rfl, heq⟩)
      · next hdisputed =>
        obtain ⟨-, rfl⟩ := Prod.mk.inj (Except.ok.inj h)
        refine ⟨rfl, fun q t ↦ ?_⟩
        rw [setPrevious_reports]
        split
        · next hq =>
          rw [hq.1, hq.2, hnext, Option.map_some, relinked, if_pos ⟨rfl, hindexNext ▸ reached_self⟩]
        · next hq =>
          cases hreport : o.reports.lookup (q, t) with
          | none => rfl
          | some report =>
            rw [Option.map_some, relinked, if_neg]
            rintro ⟨rfl, hreached⟩
            have hvalid : timestamp ∈ o.valid q :=
              (mem_valid_of_lookup hnext).mpr (Bool.not_eq_true _ ▸ hdisputed)
            exact not_reached_of_valid ht hvalid
              (hother t report hreport fun heq ↦ hq ⟨rfl, heq⟩) hreached

/-- What the removal of a report does to the storage. -/
structure Removed (o : Oracle AccountId) (queryId : QueryId) (timestamp : ℕ)
    (report : Report AccountId) (o' : Oracle AccountId) : Prop where
  report_eq : o.reports.lookup (queryId, timestamp) = some report
  valid_before : report.isDisputed = false
  index_eq : o'.reportedTimestampsByIndex = o.reportedTimestampsByIndex
  count_eq : o'.reportedTimestampCount = o.reportedTimestampCount
  values_eq : o'.reportedValuesByTimestamp = o.reportedValuesByTimestamp.erase (queryId, timestamp)
  last_eq : o'.lastReportedTimestamp =
    (o.retractLast queryId timestamp report.previous).lastReportedTimestamp
  reports_eq : ∀ q t, o'.reports.lookup (q, t) =
    if q = queryId ∧ t = timestamp then some { report with isDisputed := true }
    else (o.reports.lookup (q, t)).map (o.relinked queryId (report.index + 1) report.previous q)

/-- Retracting the last reported timestamp touches no other item. -/
theorem retractLast_frame : o.retractLast queryId timestamp previous =
    { o with lastReportedTimestamp :=
      (o.retractLast queryId timestamp previous).lastReportedTimestamp } := by
  unfold retractLast
  split <;> rfl

theorem removeValue_removed {o o' : Oracle AccountId} (hindexed : Indexed o queryId)
    (h : o.removeValue limit queryId timestamp = .ok (n, o')) :
    ∃ report, Removed o queryId timestamp report o' := by
  simp only [removeValue, bind_eq_ok, okOr_eq_ok, guard_eq_ok, exists_const] at h
  obtain ⟨report, hreport, hvalid, -, ⟨iterations, relinkedState⟩, hrelink, hresult⟩ := h
  obtain ⟨-, rfl⟩ := Prod.mk.inj (Except.ok.inj hresult)
  rw [retractLast_frame] at hrelink
  have hretracted : Indexed { o with lastReportedTimestamp :=
      (o.retractLast queryId timestamp report.previous).lastReportedTimestamp } queryId :=
    ⟨hindexed.defined, hindexed.increasing, hindexed.report_at, hindexed.timestamp_at⟩
  obtain ⟨hframe, hreports⟩ :=
    relink_reports hretracted (Nat.add_zero _) (Nat.zero_le _) hrelink
  refine ⟨report, hreport, hvalid, ?_, ?_, ?_, ?_, fun q t ↦ ?_⟩
  · rw [hframe]
  · rw [hframe]
  · rw [hframe]
  · rw [hframe]
  · rw [FiniteMap.lookup_insert_ite]
    simp only [Prod.mk.injEq]
    split
    · rfl
    · exact hreports q t

theorem retractLast_last (q : QueryId) :
    (o.retractLast queryId timestamp previous).lastReportedTimestamp.lookup q =
      if q = queryId ∧ o.lastReportedTimestamp.lookup queryId = some timestamp then previous
      else o.lastReportedTimestamp.lookup q := by
  unfold retractLast
  by_cases hlast : o.lastReportedTimestamp.lookup queryId = some timestamp
  · rw [if_pos hlast]
    cases previous with
    | none => simp only [Option.elim_none, FiniteMap.lookup_erase_ite, hlast, and_true]
    | some p => simp only [Option.elim_some, FiniteMap.lookup_insert_ite, hlast, and_true]
  · rw [if_neg hlast, if_neg fun hq ↦ hlast hq.2]

namespace Removed

variable {report : Report AccountId}

theorem mem_valid (h : Removed o queryId timestamp report o') :
    timestamp ∈ o.valid queryId :=
  (mem_valid_of_lookup h.report_eq).mpr h.valid_before

theorem agree (h : Removed o queryId timestamp report o') {q : QueryId} (hq : q ≠ queryId) :
    Agree o o' q where
  index i := by rw [h.index_eq]
  count := by rw [count, count, h.count_eq]
  reports t := by
    rw [h.reports_eq, if_neg fun heq ↦ hq heq.1]
    have hsame : o.relinked queryId (report.index + 1) report.previous q = id := by
      funext other
      exact if_neg fun heq ↦ hq heq.1
    rw [hsame, Option.map_id_apply]
  values t := by
    rw [h.values_eq, FiniteMap.lookup_erase_ite, if_neg fun heq ↦ hq (by simpa using (Prod.mk.inj heq).1)]
  last := by rw [h.last_eq, retractLast_last, if_neg fun heq ↦ hq heq.1]

theorem valid_eq (h : Removed o queryId timestamp report o') :
    o'.valid queryId = o.valid queryId \ {timestamp} := by
  ext t
  simp only [valid, Set.mem_ofPred_eq, Set.mem_sdiff, Set.mem_singleton_iff, h.reports_eq, true_and]
  split
  · next ht => simp [ht]
  · next ht =>
    simp only [ht, not_false_eq_true, and_true, Option.map_eq_some_iff]
    constructor
    · rintro ⟨_, ⟨other, hother, rfl⟩, hdisputed⟩
      exact ⟨other, hother, by rwa [relinked_isDisputed] at hdisputed⟩
    · rintro ⟨other, hother, hdisputed⟩
      exact ⟨_, ⟨other, hother, rfl⟩, by rwa [relinked_isDisputed]⟩

/-- Apart from links and the disputed flag, every report is kept. -/
theorem exists_report (h : Removed o queryId timestamp report o') {q : QueryId} {t : ℕ}
    {after : Report AccountId} (hafter : o'.reports.lookup (q, t) = some after) :
    ∃ before, o.reports.lookup (q, t) = some before ∧ after.index = before.index := by
  rw [h.reports_eq] at hafter
  split at hafter
  · next hq =>
    cases hafter
    rw [hq.1, hq.2]
    exact ⟨report, h.report_eq, rfl⟩
  · obtain ⟨before, hbefore, rfl⟩ := Option.map_eq_some_iff.mp hafter
    exact ⟨before, hbefore, relinked_index q before⟩

theorem indexed (h : Removed o queryId timestamp report o') (hindexed : Indexed o queryId) :
    Indexed o' queryId where
  defined i := by simpa only [h.index_eq, count, h.count_eq] using hindexed.defined i
  increasing i j t u := by simpa only [h.index_eq] using hindexed.increasing i j t u
  report_at i t ht := by
    rw [h.index_eq] at ht
    obtain ⟨other, hother, hindex⟩ := hindexed.report_at i t ht
    rw [h.reports_eq]
    split
    · next hq =>
      rw [hq.2, h.report_eq] at hother
      cases hother
      exact ⟨_, rfl, hindex⟩
    · exact ⟨_, by rw [hother, Option.map_some], (relinked_index _ other).trans hindex⟩
  timestamp_at t after hafter := by
    obtain ⟨before, hbefore, hindex⟩ := h.exists_report hafter
    rw [h.index_eq, hindex]
    exact hindexed.timestamp_at t before hbefore

/-- The relinking reaches exactly the reports whose last valid report before is the removed one. -/
theorem reached_iff (h : Removed o queryId timestamp report o') (hseries : ReportSeries o queryId)
    {t : ℕ} {other : Report AccountId}
    (hother : o.reports.lookup (queryId, t) = some other) :
    o.Reached queryId (report.index + 1) other.index ↔ other.previous = some timestamp := by
  constructor
  · rintro ⟨hle, hbetween⟩
    have hlt : timestamp < t :=
      (hseries.index_lt_iff h.report_eq hother).mp (by omega)
    have hlast : IsLastBelow (o.valid queryId) t (some timestamp) := by
      refine isLastBelow_some.mpr ⟨h.mem_valid, hlt, fun x hx hxt ↦ ?_⟩
      by_contra hgt
      obtain ⟨between, hreport, -⟩ := id hx
      have hafter := (hseries.index_lt_iff h.report_eq hreport).mpr (not_le.mp hgt)
      have hbefore := (hseries.index_lt_iff hreport hother).mpr hxt
      exact hbetween between.index x hafter hbefore (hseries.timestamp_at x between hreport) hx
    exact (hseries.previous t other hother).unique hlast
  · intro hprevious
    have hlast := hseries.previous t other hother
    rw [hprevious] at hlast
    obtain ⟨-, hlt, hupper⟩ := isLastBelow_some.mp hlast
    refine ⟨(hseries.index_lt_iff h.report_eq hother).mpr hlt, fun j x hj hjt hx hvalid ↦ ?_⟩
    have hxt : x < t := hseries.increasing _ _ _ _ hx (hseries.timestamp_at t other hother) hjt
    have htx : timestamp < x :=
      hseries.increasing _ _ _ _ (hseries.timestamp_at timestamp report h.report_eq) hx hj
    exact absurd (hupper x hvalid hxt) (not_le.mpr htx)

theorem series (h : Removed o queryId timestamp report o') (hseries : ReportSeries o queryId) :
    ReportSeries o' queryId := by
  have hprevious := hseries.previous timestamp report h.report_eq
  refine { h.indexed hseries.toIndexed with value_iff := ?_, previous := ?_, last := ?_ }
  · intro t
    rw [h.values_eq, FiniteMap.lookup_erase_ite, h.valid_eq, Set.mem_sdiff, Set.mem_singleton_iff,
      ← hseries.value_iff]
    simp only [Prod.mk.injEq, true_and]
    split
    · next ht => simp [ht]
    · next ht => simp [ht]
  · intro t after hafter
    rw [h.valid_eq]
    rw [h.reports_eq] at hafter
    split at hafter
    · next hq =>
      cases hafter
      rw [hq.2]
      refine hprevious.remove_other fun heq ↦ ?_
      change report.previous = some timestamp at heq
      rw [heq] at hprevious
      exact absurd (isLastBelow_some.mp hprevious).2.1 (lt_irrefl _)
    · obtain ⟨before, hbefore, rfl⟩ := Option.map_eq_some_iff.mp hafter
      have hlast := hseries.previous t before hbefore
      unfold relinked
      split
      · next hreached =>
        rw [(h.reached_iff hseries hbefore).mp hreached.2] at hlast
        exact hlast.remove_last hprevious
      · next hreached =>
        exact hlast.remove_other fun heq ↦ hreached ⟨rfl, (h.reached_iff hseries hbefore).mpr heq⟩
  · rw [h.valid_eq, h.last_eq, retractLast_last]
    have hlast := hseries.last
    split
    · next hq =>
      rw [hq.2] at hlast
      exact hlast.remove_last hprevious
    · next hq => exact hlast.remove_other fun heq ↦ hq ⟨rfl, heq⟩

end Removed

end Remove

end Oracle

end TellorPallet
