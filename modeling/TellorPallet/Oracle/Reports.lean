import TellorPallet.Pallet.State

/-!
# Report series: submission and removal

The storage effects of `submit_value` and `remove_value` on the series of reports of one query id.
Removal marks a report as disputed and relinks the reports after it, up to and including the first
one that is still valid, to the report before it.
-/

namespace TellorPallet

open Outcome

variable {AccountId : Type} [DecidableEq AccountId]

namespace Oracle

/-- The storage writes of `submit_value` to the series. -/
def submit (o : Oracle AccountId) (queryId : QueryId) (timestamp : ℕ) (blockNumber : ℕ)
    (reporter : AccountId) (value : Value) : Oracle AccountId :=
  let index := o.count queryId
  { o with
    reportedTimestampCount := o.reportedTimestampCount.insert queryId (index + 1)
    reportedTimestampsByIndex := o.reportedTimestampsByIndex.insert (queryId, index) timestamp
    reports := o.reports.insert (queryId, timestamp)
      { index := index
        blockNumber := blockNumber
        reporter := reporter
        isDisputed := false
        previous := o.lastReportedTimestamp.lookup queryId }
    lastReportedTimestamp := o.lastReportedTimestamp.insert queryId timestamp
    reportedValuesByTimestamp := o.reportedValuesByTimestamp.insert (queryId, timestamp) value
    timeOfLastNewValue := some timestamp }

/-- The last reported timestamp falls back to `previous` when `timestamp` is removed. -/
def retractLast (o : Oracle AccountId) (queryId : QueryId) (timestamp : ℕ)
    (previous : Option ℕ) : Oracle AccountId :=
  if o.lastReportedTimestamp.lookup queryId = some timestamp then
    { o with
      lastReportedTimestamp := previous.elim (o.lastReportedTimestamp.erase queryId)
        (o.lastReportedTimestamp.insert queryId) }
  else o

/-- The loop of `remove_value` over the reports after the removed one: `remaining` indices of its
range are left, the next one is `index`. Returns the number of iterations. -/
def relink (limit : ℕ) (queryId : QueryId) (previous : Option ℕ) :
    (remaining index iterations : ℕ) → Oracle AccountId → Except DispatchError (ℕ × Oracle AccountId)
  | 0, _, iterations, o => .ok (iterations, o)
  | remaining + 1, index, iterations, o =>
    if limit < iterations + 1 then .error (.module .maxDisputedTimeSeriesReached)
    else
      match o.reportedTimestampsByIndex.lookup (queryId, index) with
      | none => .ok (iterations + 1, o)
      | some timestamp =>
        match o.reports.lookup (queryId, timestamp) with
        | none => .error (.module .invalidTimestamp)
        | some next =>
          let o := { o with
            reports := o.reports.insert (queryId, timestamp) { next with previous := previous } }
          if next.isDisputed then relink limit queryId previous remaining (index + 1) (iterations + 1) o
          else .ok (iterations + 1, o)

/-- The storage effects of `remove_value`. The removed report itself is written last, when the
mutating closure of the source returns. -/
def removeValue (limit : ℕ) (o : Oracle AccountId) (queryId : QueryId) (timestamp : ℕ) :
    Except DispatchError (ℕ × Oracle AccountId) := do
  let report ← okOr (o.reports.lookup (queryId, timestamp)) (.module .invalidTimestamp)
  ensure (report.isDisputed = false) .valueDisputed
  ensure (o.reportedTimestampsByIndex.lookup (queryId, report.index) = some timestamp)
    .invalidTimestamp
  let (iterations, o) ← relink limit queryId report.previous (limit + 1) (report.index + 1) 0
    (o.retractLast queryId timestamp report.previous)
  .ok (iterations, { o with
    reports := o.reports.insert (queryId, timestamp) { report with isDisputed := true }
    reportedValuesByTimestamp := o.reportedValuesByTimestamp.erase (queryId, timestamp) })

/-! ## Reads -/

/-- `retrieve_data`. -/
def retrieveData (o : Oracle AccountId) (queryId : QueryId) (timestamp : ℕ) :
    Option Value :=
  o.reportedValuesByTimestamp.lookup (queryId, timestamp)

/-- `get_reporter_by_timestamp`. -/
def getReporterByTimestamp (o : Oracle AccountId) (queryId : QueryId) (timestamp : ℕ) :
    Option AccountId :=
  (o.reports.lookup (queryId, timestamp)).map Report.reporter

/-- `is_in_dispute`. -/
def isInDispute (o : Oracle AccountId) (queryId : QueryId) (timestamp : ℕ) : Bool :=
  (o.reports.lookup (queryId, timestamp)).elim false Report.isDisputed

/-- The index of a report the search settled on, or of the valid report before it when it is
disputed. -/
def settle (o : Oracle AccountId) (queryId : QueryId) (time : ℕ) (index : ℕ) : Option ℕ :=
  (o.reports.lookup (queryId, time)).bind fun report ↦
    if report.isDisputed then
      report.previous.bind fun t ↦ (o.reports.lookup (queryId, t)).map Report.index
    else some index

/-- The loop of `get_index_for_data_before_with_start`, for at most `fuel` iterations: the result
with the number of iterations, or `none` when the loop is still running. -/
def searchBefore (o : Oracle AccountId) (queryId : QueryId) (timestamp : ℕ) :
    (fuel start stop iterations : ℕ) → Option (Option ℕ × ℕ)
  | 0, _, _, _ => none
  | fuel + 1, start, stop, iterations =>
    match Checked.sub stop start with
    | none => some (none, iterations + 1)
    | some span =>
      let middle := span / 2 + 1 + start
      match o.reportedTimestampsByIndex.lookup (queryId, middle) with
      | none => some (none, iterations + 1)
      | some time =>
        if time < timestamp then
          match o.reportedTimestampsByIndex.lookup (queryId, middle + 1) with
          | none => some (none, iterations + 1)
          | some nextTime =>
            if timestamp ≤ nextTime then some (o.settle queryId time middle, iterations + 1)
            else searchBefore o queryId timestamp fuel (middle + 1) stop (iterations + 1)
        else
          match o.reportedTimestampsByIndex.lookup (queryId, middle - 1) with
          | none => some (none, iterations + 1)
          | some previousTime =>
            if previousTime < timestamp then
              some (o.settle queryId previousTime (middle - 1), iterations + 1)
            else searchBefore o queryId timestamp fuel start (middle - 1) (iterations + 1)

/-- `get_index_for_data_before_with_start`. -/
def getIndexForDataBeforeWithStart (o : Oracle AccountId) (queryId : QueryId)
    (timestamp : ℕ) (start : ℕ) : Option ℕ × ℕ :=
  match o.lastReportedTimestamp.lookup queryId with
  | none => (none, 0)
  | some lastReportedTimestamp =>
    match o.reportedTimestampsByIndex.lookup (queryId, start) with
    | none => (none, 0)
    | some time =>
      if timestamp ≤ time then (none, 0)
      else
        match o.reports.lookup (queryId, lastReportedTimestamp) with
        | none => (none, 0)
        | some report =>
          if lastReportedTimestamp < timestamp then (some report.index, 0)
          else
            (o.searchBefore queryId timestamp (report.index + 1) start report.index 0).getD (none, 0)

/-- `get_index_for_data_before`. -/
def getIndexForDataBefore (o : Oracle AccountId) (queryId : QueryId) (timestamp : ℕ) :
    Option ℕ :=
  (o.getIndexForDataBeforeWithStart queryId timestamp 0).1

/-- `get_data_before_with_start`. -/
def getDataBeforeWithStart (o : Oracle AccountId) (queryId : QueryId) (timestamp : ℕ)
    (start : ℕ) : Option (Value × ℕ) × ℕ :=
  let (indexBefore, iterations) := o.getIndexForDataBeforeWithStart queryId timestamp start
  (indexBefore.bind fun index ↦
    (o.reportedTimestampsByIndex.lookup (queryId, index)).bind fun timestampRetrieved ↦
      (o.retrieveData queryId timestampRetrieved).map (·, timestampRetrieved), iterations)

/-- `get_data_before`. -/
def getDataBefore (o : Oracle AccountId) (queryId : QueryId) (timestamp : ℕ) :
    Option (Value × ℕ) :=
  (o.getIndexForDataBefore queryId timestamp).bind fun index ↦
    (o.reportedTimestampsByIndex.lookup (queryId, index)).bind fun timestampRetrieved ↦
      (o.retrieveData queryId timestampRetrieved).map (·, timestampRetrieved)

end Oracle

end TellorPallet
