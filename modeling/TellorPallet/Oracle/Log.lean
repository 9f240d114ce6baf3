import TellorPallet.Governance.Runs
import TellorPallet.Oracle.Lookups

/-!
# The reports of a query as a log

What the report storage is for: per query, a log that a submission appends to and a dispute only strikes
a value from. The five maps of the pallet implement it. Every input changes them as it changes the log,
and every read of them is a read of the log, whatever the indices and links in between.
-/

namespace TellorPallet

open Outcome Transition Predecessor Ascending

/-- A submission as the log remembers it; a disputed report has lost its value. -/
structure LogEntry (AccountId : Type) where
  timestamp : ℕ
  blockNumber : ℕ
  reporter : AccountId
  value : Option Value
deriving DecidableEq, Repr

/-- The submissions for a query, oldest first. -/
abbrev ReportLog (AccountId : Type) := List (LogEntry AccountId)

variable {AccountId : Type}

namespace ReportLog

/-- Strike the value submitted at a time. -/
def dispute (log : ReportLog AccountId) (timestamp : ℕ) : ReportLog AccountId :=
  log.map fun entry ↦ if entry.timestamp = timestamp then { entry with value := none } else entry

/-- The entry of a time. -/
def find (log : ReportLog AccountId) (timestamp : ℕ) : Option (LogEntry AccountId) :=
  log.find? fun entry ↦ entry.timestamp = timestamp

/-- The values that stand, each with its time. -/
def values (log : ReportLog AccountId) : List (Value × ℕ) :=
  log.filterMap fun entry ↦ entry.value.map (·, entry.timestamp)

/-- The last value before a time. -/
def before (log : ReportLog AccountId) (timestamp : ℕ) : Option (Value × ℕ) :=
  (log.values.filter fun entry ↦ entry.2 < timestamp).getLast?

/-- The first value after a time. -/
def after (log : ReportLog AccountId) (timestamp : ℕ) : Option (Value × ℕ) :=
  (log.values.filter fun entry ↦ timestamp < entry.2).head?

/-- The last `maxCount` values between two times. -/
def between (log : ReportLog AccountId) (lower upper maxCount : ℕ) : List (Value × ℕ) :=
  (log.values.filter fun entry ↦ lower < entry.2 ∧ entry.2 < upper).rtake maxCount

end ReportLog

namespace Oracle

/-! ## Reads of single items -/

section Reads

variable (o : Oracle AccountId) (queryId : QueryId)

/-- `get_new_value_count_by_query_id`. -/
def getNewValueCountByQueryId : ℕ := o.count queryId

/-- `get_current_value`. -/
def getCurrentValue : Option Value :=
  (o.lastReportedTimestamp.lookup queryId).bind fun t ↦ o.reportedValuesByTimestamp.lookup (queryId, t)

/-- `get_block_number_by_timestamp`. -/
def getBlockNumberByTimestamp (timestamp : ℕ) : Option ℕ :=
  (o.reports.lookup (queryId, timestamp)).map Report.blockNumber

/-- `get_timestamp_index_by_timestamp`. -/
def getTimestampIndexByTimestamp (timestamp : ℕ) : Option ℕ :=
  (o.reports.lookup (queryId, timestamp)).map Report.index

/-- `get_report_details`. -/
def getReportDetails (timestamp : ℕ) : Option (AccountId × Bool) :=
  (o.reports.lookup (queryId, timestamp)).map fun report ↦ (report.reporter, report.isDisputed)

/-! ## The log -/

/-- What the storage holds of the report at a time. -/
def entryOf (timestamp : ℕ) (report : Report AccountId) : LogEntry AccountId where
  timestamp := timestamp
  blockNumber := report.blockNumber
  reporter := report.reporter
  value := o.retrieveData queryId timestamp

/-- What the storage holds of the submission with an index. -/
def entryAt (index : ℕ) : Option (LogEntry AccountId) :=
  (o.reportedTimestampsByIndex.lookup (queryId, index)).bind fun timestamp ↦
    (o.reports.lookup (queryId, timestamp)).map (o.entryOf queryId timestamp)

/-- The log that the storage of a query represents. -/
def log : ReportLog AccountId := (List.range (o.count queryId)).filterMap (o.entryAt queryId)

end Reads

section Log

variable {o o' : Oracle AccountId} {queryId : QueryId} {timestamp : ℕ}

theorem entryAt_eq_some (h : Indexed o queryId) {index : ℕ} {entry : LogEntry AccountId} :
    o.entryAt queryId index = some entry ↔
      ∃ report, o.reports.lookup (queryId, entry.timestamp) = some report ∧ report.index = index ∧
        entry = o.entryOf queryId entry.timestamp report := by
  simp only [entryAt, Option.bind_eq_some_iff, Option.map_eq_some_iff]
  constructor
  · rintro ⟨t, ht, report, hreport, rfl⟩
    obtain ⟨other, hother, hindex⟩ := h.report_at index t ht
    rw [hreport] at hother
    cases hother
    exact ⟨report, hreport, hindex, rfl⟩
  · rintro ⟨report, hreport, rfl, hentry⟩
    exact ⟨entry.timestamp, h.timestamp_at _ report hreport, report, hreport, hentry.symm⟩

theorem Indexed.entryAt_isSome (h : Indexed o queryId) {index : ℕ} (hindex : index < o.count queryId) :
    (o.entryAt queryId index).isSome = true := by
  obtain ⟨t, ht⟩ := (h.defined index).mpr hindex
  obtain ⟨report, hreport, -⟩ := h.report_at index t ht
  rw [entryAt, ht, Option.bind_some, hreport]
  rfl

/-- The entries of the log are the stored reports. -/
theorem mem_log (h : Indexed o queryId) {entry : LogEntry AccountId} :
    entry ∈ o.log queryId ↔ ∃ report, o.reports.lookup (queryId, entry.timestamp) = some report ∧
      entry = o.entryOf queryId entry.timestamp report := by
  simp only [log, List.mem_filterMap, List.mem_range, entryAt_eq_some h]
  constructor
  · rintro ⟨index, -, report, hreport, -, hentry⟩
    exact ⟨report, hreport, hentry⟩
  · rintro ⟨report, hreport, hentry⟩
    exact ⟨report.index, h.index_lt_count hreport, report, hreport, rfl, hentry⟩

/-- The log is in time order. -/
theorem Indexed.log_ascends (h : Indexed o queryId) : Ascends LogEntry.timestamp (o.log queryId) := by
  apply Ascends.filterMap List.pairwise_lt_range
  intro i j entry later hentry hlater hlt
  obtain ⟨report, hreport, rfl, -⟩ := (entryAt_eq_some h).mp hentry
  obtain ⟨other, hother, rfl, -⟩ := (entryAt_eq_some h).mp hlater
  exact (h.index_lt_iff hreport hother).mp hlt

theorem getElem?_filterMap_range {α : Type} {f : ℕ → Option α} {n : ℕ}
    (h : ∀ i < n, (f i).isSome = true) (i : ℕ) :
    ((List.range n).filterMap f)[i]? = if i < n then f i else none := by
  induction n with
  | zero => simp
  | succ n ih =>
    have hlength : ((List.range n).filterMap f).length = n := by
      have hall : ∀ a ∈ List.range n, (f a).isSome = true := fun a ha ↦ h a (by
        rw [List.mem_range] at ha
        omega)
      rw [List.filterMap_length_eq_length.mpr hall, List.length_range]
    obtain ⟨last, hlast⟩ := Option.isSome_iff_exists.mp (h n (Nat.lt_succ_self n))
    rw [List.range_succ, List.filterMap_append, List.filterMap_cons_some hlast, List.filterMap_nil]
    rcases lt_trichotomy i n with hlt | rfl | hgt
    · rw [List.getElem?_append_left (by omega), ih fun j hj ↦ h j (by omega), if_pos hlt,
        if_pos (by omega)]
    · rw [List.getElem?_append_right hlength.le, hlength, Nat.sub_self,
        if_pos (Nat.lt_succ_self i), hlast]
      rfl
    · have hout : (((List.range n).filterMap f) ++ [last]).length ≤ i := by
        rw [List.length_append, hlength, List.length_singleton]
        omega
      rw [List.getElem?_eq_none hout, if_neg (by omega)]

theorem Indexed.log_getElem? (h : Indexed o queryId) (index : ℕ) :
    (o.log queryId)[index]? = o.entryAt queryId index := by
  rw [log, getElem?_filterMap_range fun i hi ↦ h.entryAt_isSome hi]
  split
  · rfl
  · next hout =>
    cases hentry : o.entryAt queryId index with
    | none => rfl
    | some entry =>
      obtain ⟨report, hreport, rfl, -⟩ := (entryAt_eq_some h).mp hentry
      exact absurd (h.index_lt_count hreport) hout

theorem Indexed.length_log (h : Indexed o queryId) : (o.log queryId).length = o.count queryId := by
  have hall : ∀ i ∈ List.range (o.count queryId), (o.entryAt queryId i).isSome = true :=
    fun i hi ↦ h.entryAt_isSome (List.mem_range.mp hi)
  rw [log, List.filterMap_length_eq_length.mpr hall, List.length_range]

theorem Indexed.log_find (h : Indexed o queryId) (timestamp : ℕ) :
    (o.log queryId).find timestamp =
      (o.reports.lookup (queryId, timestamp)).map (o.entryOf queryId timestamp) := by
  cases hfound : (o.log queryId).find timestamp with
  | none =>
    cases hreport : o.reports.lookup (queryId, timestamp) with
    | none => rfl
    | some report =>
      have hmem : o.entryOf queryId timestamp report ∈ o.log queryId :=
        (mem_log h).mpr ⟨report, hreport, rfl⟩
      exact absurd (decide_eq_true (rfl : timestamp = timestamp)) (List.find?_eq_none.mp hfound _ hmem)
  | some entry =>
    rw [ReportLog.find] at hfound
    have htime : entry.timestamp = timestamp := by simpa using List.find?_some hfound
    obtain ⟨report, hreport, hentry⟩ := (mem_log h).mp (List.mem_of_find?_eq_some hfound)
    rw [htime] at hreport hentry
    rw [hreport, hentry]
    rfl

/-- The values that stand in the log are those of the valid reports. -/
theorem ReportSeries.log_values (h : ReportSeries o queryId) :
    (o.log queryId).values = o.validReports queryId := by
  rw [ReportLog.values, log, List.filterMap_filterMap, validReports]
  refine List.filterMap_congr fun index _ ↦ ?_
  rw [entryAt, validEntry, getTimestampByQueryIdAndIndex]
  cases ht : o.reportedTimestampsByIndex.lookup (queryId, index) with
  | none => rfl
  | some t =>
    obtain ⟨report, hreport, -⟩ := h.report_at index t ht
    rw [Option.bind_some, Option.bind_some, hreport, Option.map_some, Option.bind_some]
    split
    · rfl
    · next hdisputed =>
      have hnone : o.retrieveData queryId t = none := by
        cases hvalue : o.retrieveData queryId t with
        | none => rfl
        | some value =>
          exact absurd ((h.isInDispute_iff ht).mpr ((h.value_iff t).mp ⟨value, hvalue⟩)) hdisputed
      rw [entryOf, hnone]
      rfl

/-! ## Updates -/

/-- Storage that agrees on a query has its log. -/
theorem Agree.log_eq (h : Agree o o' queryId) : o'.log queryId = o.log queryId := by
  have hentry : o'.entryAt queryId = o.entryAt queryId := by
    funext index
    have hvalue : o'.entryOf queryId = o.entryOf queryId := by
      funext t report
      simp only [entryOf, retrieveData, h.values]
    rw [entryAt, entryAt, h.index, hvalue]
    simp only [h.reports]
  rw [log, log, h.count, hentry]

/-- A submission appends to the log of its query. -/
theorem Indexed.log_submit (h : Indexed o queryId) {now blockNumber : ℕ} {reporter : AccountId}
    {value : Value} (hfresh : o.reports.lookup (queryId, now) = none) :
    (o.submit queryId now blockNumber reporter value).log queryId =
      o.log queryId ++ [⟨now, blockNumber, reporter, some value⟩] := by
  have hlast : (o.submit queryId now blockNumber reporter value).entryAt queryId (o.count queryId) =
      some ⟨now, blockNumber, reporter, some value⟩ := by
    rw [entryAt, submit_index, if_pos ⟨rfl, rfl⟩, Option.bind_some, submit_reports, if_pos ⟨rfl, rfl⟩,
      Option.map_some, entryOf, retrieveData, submit_values, if_pos ⟨rfl, rfl⟩]
    rfl
  have hearlier : (List.range (o.count queryId)).filterMap
      ((o.submit queryId now blockNumber reporter value).entryAt queryId) = o.log queryId := by
    refine List.filterMap_congr fun index hindex ↦ ?_
    have hlt := List.mem_range.mp hindex
    obtain ⟨t, ht⟩ := (h.defined index).mpr hlt
    obtain ⟨report, hreport, -⟩ := h.report_at index t ht
    have hne : t ≠ now := by
      rintro rfl
      rw [hfresh] at hreport
      cases hreport
    rw [entryAt, submit_index, if_neg (by omega), ht, Option.bind_some, submit_reports,
      if_neg fun heq ↦ hne heq.2, entryAt, ht, Option.bind_some, hreport, Option.map_some,
      Option.map_some, entryOf, entryOf, retrieveData, submit_values, if_neg fun heq ↦ hne heq.2]
    rfl
  rw [log, submit_count, if_pos rfl, List.range_succ, List.filterMap_append, hearlier,
    List.filterMap_cons_some hlast, List.filterMap_nil]

theorem relinked_blockNumber {index : ℕ} {previous : Option ℕ} (q : QueryId) (report : Report AccountId) :
    (o.relinked queryId index previous q report).blockNumber = report.blockNumber := by
  unfold relinked
  split <;> rfl

theorem relinked_reporter {index : ℕ} {previous : Option ℕ} (q : QueryId) (report : Report AccountId) :
    (o.relinked queryId index previous q report).reporter = report.reporter := by
  unfold relinked
  split <;> rfl

/-- A removal strikes a value from the log of its query. -/
theorem Removed.log_eq {report : Report AccountId} (h : Removed o queryId timestamp report o')
    (hindexed : Indexed o queryId) :
    o'.log queryId = (o.log queryId).dispute timestamp := by
  have hcount : o'.count queryId = o.count queryId := by rw [count, count, h.count_eq]
  rw [log, log, hcount, ReportLog.dispute, List.map_filterMap]
  refine List.filterMap_congr fun index hindex ↦ ?_
  obtain ⟨t, ht⟩ := (hindexed.defined index).mpr (List.mem_range.mp hindex)
  obtain ⟨other, hother, -⟩ := hindexed.report_at index t ht
  have hvalue : o'.retrieveData queryId t =
      if t = timestamp then none else o.retrieveData queryId t := by
    rw [retrieveData, h.values_eq, FiniteMap.lookup_erase_ite]
    simp only [Prod.mk.injEq, true_and]
    rfl
  rw [entryAt, entryAt, h.index_eq, ht, Option.bind_some, Option.bind_some, h.reports_eq, hother,
    Option.map_some, Option.map_some]
  by_cases htime : t = timestamp
  · rw [htime, h.report_eq] at hother
    cases hother
    rw [if_pos ⟨rfl, htime⟩, Option.map_some, entryOf, hvalue, if_pos htime]
    simp [entryOf, htime]
  · rw [if_neg fun heq ↦ htime heq.2, Option.map_some, entryOf, hvalue, if_neg htime]
    simp [entryOf, htime, relinked_blockNumber, relinked_reporter]

/-! ## Reads -/

/-- The reads of the storage of a query, as reads of its log. The searches forward from a time add 32-bit
indices, so that their log has fewer than `2 ^ 31` entries. -/
structure ReadsLog (o : Oracle AccountId) (queryId : QueryId) (log : ReportLog AccountId) : Prop where
  ascends : Ascends LogEntry.timestamp log
  count : o.getNewValueCountByQueryId queryId = log.length
  timestamp : ∀ index,
    o.getTimestampByQueryIdAndIndex queryId index = log[index]?.map LogEntry.timestamp
  index : ∀ t index, o.getTimestampIndexByTimestamp queryId t = some index ↔
    log[index]?.map LogEntry.timestamp = some t
  block : ∀ t, o.getBlockNumberByTimestamp queryId t = (log.find t).map LogEntry.blockNumber
  reporter : ∀ t, o.getReporterByTimestamp queryId t = (log.find t).map LogEntry.reporter
  details : ∀ t, o.getReportDetails queryId t =
    (log.find t).map fun entry ↦ (entry.reporter, entry.value.isNone)
  inDispute : ∀ t, o.isInDispute queryId t = (log.find t).elim false fun entry ↦ entry.value.isNone
  data : ∀ t, o.retrieveData queryId t = (log.find t).bind LogEntry.value
  current : o.getCurrentValue queryId = log.values.getLast?.map Prod.fst
  before : ∀ t, o.getDataBefore queryId t = log.before t
  after : log.length < 2 ^ 31 → ∀ t, o.getDataAfter queryId t = some (log.after t)
  between : log.length < 2 ^ 31 → ∀ t maxAge maxCount,
    o.getMultipleValuesBefore queryId t maxAge maxCount = some (log.between (t - maxAge) t maxCount)

theorem ReportSeries.isNone_data (h : ReportSeries o queryId) {report : Report AccountId}
    (hreport : o.reports.lookup (queryId, timestamp) = some report) :
    (o.retrieveData queryId timestamp).isNone = report.isDisputed := by
  have hvalue := (h.value_iff timestamp).trans (mem_valid_of_lookup hreport)
  cases hdata : o.retrieveData queryId timestamp with
  | none =>
    cases hdisputed : report.isDisputed with
    | true => rfl
    | false =>
      obtain ⟨value, hsome⟩ := hvalue.mpr hdisputed
      rw [retrieveData, hsome] at hdata
      cases hdata
  | some value => rw [hvalue.mp ⟨value, hdata⟩, Option.isNone_some]

theorem ReportSeries.data_eq_none (h : ReportSeries o queryId)
    (hreport : o.reports.lookup (queryId, timestamp) = none) :
    o.retrieveData queryId timestamp = none := by
  cases hdata : o.retrieveData queryId timestamp with
  | none => rfl
  | some value =>
    obtain ⟨report, hsome, -⟩ := (h.value_iff timestamp).mp ⟨value, hdata⟩
    rw [hreport] at hsome
    cases hsome

theorem ReportSeries.values_ascends (h : ReportSeries o queryId) :
    Ascends Prod.snd (o.validReports queryId) := h.ascends List.pairwise_lt_range

/-- The last valid time and what is stored at it are the last standing value of the log. -/
theorem ReportSeries.getLast?_values (h : ReportSeries o queryId) {p : Option ℕ}
    (hp : IsLastBelow (o.valid queryId) timestamp p) :
    ((o.validReports queryId).filter fun entry ↦ entry.2 < timestamp).getLast? =
      p.bind fun t ↦ (o.retrieveData queryId t).map (·, t) := by
  cases p with
  | none =>
    rw [isLastBelow_none] at hp
    have hnone : (o.validReports queryId).filter (fun entry ↦ entry.2 < timestamp) = [] := by
      refine List.filter_eq_nil_iff.mpr fun entry hentry hlt ↦ ?_
      have hle := hp _ ((mem_validReports h.toIndexed).mp hentry).1
      exact absurd (of_decide_eq_true hlt) (not_lt.mpr hle)
    rw [hnone]
    rfl
  | some t =>
    obtain ⟨hvalid, hlt, hupper⟩ := isLastBelow_some.mp hp
    obtain ⟨value, hvalue⟩ := h.exists_value hvalid
    rw [Option.bind_some, hvalue, Option.map_some]
    refine (h.values_ascends.filter _).getLast?_eq (a := (value, t)) ?_ fun entry hentry ↦ ?_
    · exact List.mem_filter.mpr ⟨(mem_validReports h.toIndexed).mpr ⟨hvalid, hvalue⟩, decide_eq_true hlt⟩
    · obtain ⟨hmem, hless⟩ := List.mem_filter.mp hentry
      exact hupper _ ((mem_validReports h.toIndexed).mp hmem).1 (of_decide_eq_true hless)

theorem ReportSeries.exists_bound (h : ReportSeries o queryId) :
    ∃ bound, ∀ t ∈ o.valid queryId, t < bound := by
  have hlast := h.last
  cases hlookup : o.lastReportedTimestamp.lookup queryId with
  | none =>
    rw [hlookup] at hlast
    exact ⟨0, fun t ht ↦ absurd ht (Set.eq_empty_iff_forall_notMem.mp hlast t)⟩
  | some last =>
    rw [hlookup] at hlast
    exact ⟨last + 1, fun t ht ↦ Nat.lt_succ_of_le (hlast.2 ht)⟩

/-- The search after a time ends at the first standing value after it. -/
theorem ReportSeries.getDataAfter_eq (h : ReportSeries o queryId) (hcount : o.count queryId < 2 ^ 31) :
    o.getDataAfter queryId timestamp =
      some ((o.validReports queryId).filter fun entry ↦ timestamp < entry.2).head? := by
  have hindexed := h.toIndexed
  obtain ⟨found, hfound, hfirst⟩ : ∃ found, o.getIndexForDataAfter queryId timestamp = some found ∧
      IsFirst (o.validAfter queryId timestamp) found := getIndexForDataAfter_isFirst hindexed hcount
  rw [getDataAfter, hfound]
  dsimp only [Option.bind_eq_bind, Option.bind_some]
  cases found with
  | none =>
    have hnone : (o.validReports queryId).filter (fun entry ↦ timestamp < entry.2) = [] := by
      refine List.filter_eq_nil_iff.mpr fun entry hentry hlt ↦ ?_
      obtain ⟨hvalid, -⟩ := (mem_validReports hindexed).mp hentry
      obtain ⟨report, hreport, -⟩ := id hvalid
      have hindex := hindexed.timestamp_at _ report hreport
      exact Set.eq_empty_iff_forall_notMem.mp hfirst report.index
        ⟨entry.2, hvalid, hindex, of_decide_eq_true hlt⟩
    rw [hnone]
    rfl
  | some index =>
    obtain ⟨⟨t, hvalid, ht, hlt⟩, hleast⟩ := hfirst
    obtain ⟨value, hvalue⟩ := h.exists_value hvalid
    rw [Option.bind_some, getTimestampByQueryIdAndIndex, ht, Option.bind_some, hvalue, Option.map_some]
    have hascends := h.values_ascends.filter fun entry ↦ timestamp < entry.2
    refine congrArg some (hascends.head?_eq (a := (value, t)) ?_ fun entry hentry ↦ ?_).symm
    · exact List.mem_filter.mpr ⟨(mem_validReports hindexed).mpr ⟨hvalid, hvalue⟩, decide_eq_true hlt⟩
    · obtain ⟨hmem, hless⟩ := List.mem_filter.mp hentry
      obtain ⟨hother, -⟩ := (mem_validReports hindexed).mp hmem
      obtain ⟨report, hreport, -⟩ := id hother
      have hindex := hindexed.timestamp_at _ report hreport
      exact hindexed.timestamp_le ht hindex
        (hleast ⟨entry.2, hother, hindex, of_decide_eq_true hless⟩)

/-- Every read of the storage of a query is a read of its log. -/
theorem ReportSeries.readsLog (h : ReportSeries o queryId) : ReadsLog o queryId (o.log queryId) := by
  have hindexed := h.toIndexed
  refine ⟨hindexed.log_ascends, hindexed.length_log.symm, fun index ↦ ?_, fun t index ↦ ?_, fun t ↦ ?_,
    fun t ↦ ?_, fun t ↦ ?_, fun t ↦ ?_, fun t ↦ ?_, ?_, fun t ↦ ?_, fun hlength t ↦ ?_,
    fun hlength t maxAge maxCount ↦ ?_⟩
  · rw [hindexed.log_getElem?, getTimestampByQueryIdAndIndex, entryAt]
    cases ht : o.reportedTimestampsByIndex.lookup (queryId, index) with
    | none => rfl
    | some t =>
      obtain ⟨report, hreport, -⟩ := hindexed.report_at index t ht
      rw [Option.bind_some, hreport]
      rfl
  · rw [hindexed.log_getElem?, getTimestampIndexByTimestamp, Option.map_eq_some_iff,
      Option.map_eq_some_iff]
    constructor
    · rintro ⟨report, hreport, hindex⟩
      exact ⟨o.entryOf queryId t report,
        (entryAt_eq_some hindexed).mpr ⟨report, hreport, hindex, rfl⟩, rfl⟩
    · rintro ⟨entry, hentry, rfl⟩
      obtain ⟨report, hreport, hindex, -⟩ := (entryAt_eq_some hindexed).mp hentry
      exact ⟨report, hreport, hindex⟩
  · rw [hindexed.log_find, getBlockNumberByTimestamp, Option.map_map]
    rfl
  · rw [hindexed.log_find, getReporterByTimestamp, Option.map_map]
    rfl
  · rw [hindexed.log_find, getReportDetails]
    cases hreport : o.reports.lookup (queryId, t) with
    | none => rfl
    | some report => simp only [Option.map_some, entryOf, h.isNone_data hreport]
  · rw [hindexed.log_find, isInDispute]
    cases hreport : o.reports.lookup (queryId, t) with
    | none => rfl
    | some report => simp only [Option.map_some, Option.elim_some, entryOf, h.isNone_data hreport]
  · rw [hindexed.log_find]
    cases hreport : o.reports.lookup (queryId, t) with
    | none => exact h.data_eq_none hreport
    | some report => rfl
  · obtain ⟨bound, hbound⟩ : ∃ bound, ∀ t ∈ o.valid queryId, t < bound := h.exists_bound
    have hlast := h.getLast?_values (h.last.isLastBelow hbound)
    have hall : (o.validReports queryId).filter (fun entry ↦ entry.2 < bound) = o.validReports queryId :=
      List.filter_eq_self.mpr fun entry hentry ↦
        decide_eq_true (hbound _ ((mem_validReports hindexed).mp hentry).1)
    rw [hall] at hlast
    rw [h.log_values, hlast, getCurrentValue, Option.map_bind]
    refine Option.bind_congr fun t _ ↦ ?_
    rw [Function.comp_apply, Option.map_map]
    exact Option.map_id_apply.symm
  · obtain ⟨p, hp⟩ := exists_isLastBelow (o.valid queryId) t
    rw [ReportLog.before, h.log_values, h.getLast?_values hp, getDataBefore_eq h hp]
  · rw [hindexed.length_log] at hlength
    rw [ReportLog.after, h.log_values, h.getDataAfter_eq hlength]
  · rw [hindexed.length_log] at hlength
    rw [getMultipleValuesBefore_eq h hlength, ReportLog.between, h.log_values]
    rfl

end Log

end Oracle

/-! ## The log of a run -/

variable [DecidableEq AccountId] (cfg : Config AccountId)

/-- What a successful call makes of the log of a query: a submission is appended, and the first dispute
of a report strikes its value. -/
def Call.logged (s : State AccountId) (queryId : QueryId) (log : ReportLog AccountId)
    (origin : Origin AccountId) : Call AccountId → ReportLog AccountId
  | .submitValue q value _ _ =>
    match origin with
    | .signed reporter =>
      if q = queryId then log ++ [⟨s.now, s.blockNumber, reporter, some value⟩] else log
    | _ => log
  | .beginDispute q timestamp _ =>
    if q = queryId ∧ s.governance.rounds (disputeIdOf cfg q timestamp) = 0 then log.dispute timestamp
    else log
  | _ => log

/-- What an input makes of the log of a query. -/
def Input.logged (s : State AccountId) (queryId : QueryId) (log : ReportLog AccountId) :
    Input AccountId → ReportLog AccountId
  | .extrinsic send origin call =>
    if (dispatch cfg send s origin call).isOk then call.logged cfg s queryId log origin else log
  | _ => log

/-- The log of a query that the inputs of a run write. -/
def logging (queryId : QueryId) :
    List (Input AccountId) → State AccountId → ReportLog AccountId → ReportLog AccountId
  | [], _, log => log
  | input :: rest, s, log =>
    logging queryId rest (step cfg input s) (input.logged cfg s queryId log)

variable {cfg} {s s' : State AccountId} {queryId : QueryId}

theorem Submission.log_eq {reporter : AccountId} {q : QueryId} {value : Value} {staker : StakeInfo}
    {event : Event AccountId} (h : Submission s reporter q value s' staker event)
    (hinv : SeriesInvariant s) :
    s'.oracle.log queryId =
      if q = queryId then s.oracle.log queryId ++ [⟨s.now, s.blockNumber, reporter, some value⟩]
      else s.oracle.log queryId := by
  have horacle : s'.oracle = s.oracle.submit q s.now s.blockNumber reporter value := by rw [h.state_eq]
  rw [horacle]
  split
  · next hq =>
    rw [← hq]
    exact (hinv.series q).toIndexed.log_submit h.fresh
  · next hq => exact (Oracle.submit_agree (Ne.symm hq)).log_eq

theorem RoundPrepared.log_eq {q : QueryId} {timestamp voteRound : ℕ} {disputeId : DisputeId}
    {dispute : Dispute AccountId} (h : RoundPrepared cfg s q timestamp disputeId voteRound dispute s')
    (hinv : SeriesInvariant s) :
    s'.oracle.log queryId =
      if q = queryId ∧ voteRound = 1 then (s.oracle.log queryId).dispute timestamp
      else s.oracle.log queryId := by
  rcases h with ⟨hfirst, iterations, hround⟩ | ⟨hlater, rfl, -⟩
  · obtain ⟨report, hremoved⟩ := Oracle.removeValue_removed (hinv.series q).toIndexed hround.removed
    by_cases hq : q = queryId
    · rw [if_pos ⟨hq, hfirst⟩, ← hq]
      exact hremoved.log_eq (hinv.series q).toIndexed
    · rw [if_neg fun heq ↦ hq heq.1]
      exact (hremoved.agree (Ne.symm hq)).log_eq
  · rw [if_neg fun heq ↦ hlater heq.2]

/-- The calls that change the stored reports. -/
def Call.changesReports : Call AccountId → Bool
  | .submitValue .. | .beginDispute .. => true
  | _ => false

def Input.changesReports : Input AccountId → Bool
  | .extrinsic _ _ call => call.changesReports
  | _ => false

theorem Effect.oracle_eq {input : Input AccountId} (h : Effect cfg s input s')
    (hinput : input.changesReports = false) : s'.oracle = s.oracle := by
  cases h with
  | refused => rfl
  | minor hrun h => exact (minor_oracle_eq h).1
  | newBlock h => rfl
  | external hbound hpallet => rfl
  | tipped hsigner h => exact (congrArg State.oracle h.frame :)
  | feedSetUp hbalance h => exact (congrArg State.oracle h.frame :)
  | feedSetUpFunded hsigner hbalance h hfunded =>
    exact (congrArg State.oracle hfunded.frame :).trans (congrArg State.oracle h.frame :)
  | feedFunded hsigner h => exact (congrArg State.oracle h.frame :)
  | onetimeClaimed hsigner h => exact (congrArg State.oracle h.frame :)
  | feedClaimed hsigner h => exact (congrArg State.oracle h.frame :)
  | rewardsAdded hsigner h hevents hquiet =>
    exact (congrArg State.oracle hevents :).trans (congrArg State.oracle (doAddStakingRewards_frame h) :)
  | submitted hevent h => cases hinput
  | disputed hsigner hround hmax hprepared hopened => cases hinput
  | tallied h => exact (congrArg State.oracle h.state_eq :)
  | executed h => exact (congrArg State.oracle h.state_eq :)
  | reported hevent haccepted hcall h => exact (congrArg State.oracle h.frame :)
  | withdrawn h => exact (congrArg State.oracle h.state_eq :)

omit [DecidableEq AccountId] in
theorem Call.logged_eq {call : Call AccountId} {log : ReportLog AccountId} {origin : Origin AccountId}
    (h : call.changesReports = false) : call.logged cfg s queryId log origin = log := by
  cases call with
  | submitValue q value nonce queryData => cases h
  | beginDispute q timestamp beneficiary => cases h
  | _ => rfl

/-- A successful call changes the log of a query as it should. -/
theorem log_dispatch {send : Sender} {origin : Origin AccountId} {call : Call AccountId}
    (hinv : SeriesInvariant s) (hadmits : Admissible cfg s (.extrinsic send origin call))
    (h : dispatch cfg send s origin call = .ok s') :
    s'.oracle.log queryId = call.logged cfg s queryId (s.oracle.log queryId) origin := by
  cases hcall : call.changesReports with
  | false => rw [(dispatch_effect hadmits h).oracle_eq hcall, Call.logged_eq hcall]
  | true =>
    cases call with
    | submitValue q value nonce queryData =>
      obtain ⟨reporter, horigin, hsubmit⟩ := bind_eq_ok.mp h
      obtain ⟨staker, hsubmission⟩ := submitValue_submission hsubmit
      rw [ensureSigned_eq_ok.mp horigin]
      exact hsubmission.log_eq hinv
    | beginDispute q timestamp beneficiary =>
      obtain ⟨initiator, -, hdispute⟩ := bind_eq_ok.mp h
      obtain ⟨voteRound, dispute, fee, s₁, hround, -, hprepared, hopened⟩ := beginDispute_eq_ok hdispute
      have hopen : s'.oracle = s₁.oracle := (congrArg State.oracle hopened.state_eq :)
      have hfirst : voteRound = 1 ↔ s.governance.rounds (disputeIdOf cfg q timestamp) = 0 := by omega
      rw [hopen, hprepared.log_eq hinv, Call.logged]
      simp only [hfirst]
    | _ => cases hcall

/-- An input changes the log of a query as it should. -/
theorem log_step {input : Input AccountId} (hinv : SeriesInvariant s)
    (hadmits : Admissible cfg s input) :
    (step cfg input s).oracle.log queryId = input.logged cfg s queryId (s.oracle.log queryId) := by
  cases input with
  | newBlock blockNumber now => rfl
  | onInitialize send =>
    exact congrArg (fun o ↦ o.log queryId) ((step_effect hadmits).oracle_eq rfl)
  | external account balance => rfl
  | extrinsic send origin call =>
    rw [step, applyCall, Input.logged]
    cases hcall : dispatch cfg send s origin call with
    | error error => rfl
    | ok s' => exact log_dispatch hinv hadmits hcall

theorem log_run (inputs : List (Input AccountId)) (hinv : SeriesInvariant s)
    (hadmits : AdmitsAll (step cfg) (Admissible cfg) inputs s) :
    (run (step cfg) inputs s).oracle.log queryId =
      logging cfg queryId inputs s (s.oracle.log queryId) := by
  induction inputs generalizing s with
  | nil => rfl
  | cons input rest ih =>
    rw [logging, ← log_step hinv hadmits.1]
    exact ih ((step_effect hadmits.1).seriesStep.preserves hinv) hadmits.2

end TellorPallet
