import Mathlib.Data.List.DropRight
import TellorPallet.Oracle.Series

/-!
# Reads by other pallets

The reads of the trait `UsingTellor` that search forward and collect: the first valid report after a
time, and the valid reports of a range of times. Their loops are given as many iterations as the
series has reports; a result `none` stands for a loop that is still running after them.
-/

namespace TellorPallet

open Predecessor

variable {AccountId : Type}

namespace Oracle

/-- `get_timestamp_by_query_id_and_index`. -/
def getTimestampByQueryIdAndIndex (o : Oracle AccountId) (queryId : QueryId) (index : ℕ) : Option ℕ :=
  o.reportedTimestampsByIndex.lookup (queryId, index)

/-- The timestamp at an index, zero where there is none. -/
def timestampAt (o : Oracle AccountId) (queryId : QueryId) (index : ℕ) : ℕ :=
  (o.getTimestampByQueryIdAndIndex queryId index).getD 0

/-- The binary search of `get_index_for_data_after`: the index and the timestamp of the candidate. -/
def searchAfter (o : Oracle AccountId) (queryId : QueryId) (timestamp : ℕ) :
    (fuel start stop : ℕ) → Option (ℕ × ℕ)
  | 0, _, _ => none
  | fuel + 1, start, stop =>
    let middle := Saturating.add u32Max stop start / 2
    let timestampRetrieved := o.timestampAt queryId middle
    if timestamp < timestampRetrieved then
      -- get immediate previous value
      if o.timestampAt queryId (middle - 1) ≤ timestamp then some (middle, timestampRetrieved)
      else searchAfter o queryId timestamp fuel start (middle - 1)
    else
      -- get immediate next value
      let nextTime := o.timestampAt queryId (Saturating.add u32Max middle 1)
      if timestamp < nextTime then some (Saturating.add u32Max middle 1, nextTime)
      else searchAfter o queryId timestamp fuel (Saturating.add u32Max middle 1) stop

/-- The loop of `get_index_for_data_after` from a disputed candidate to the next valid report, up to
the last index `count`. -/
def skipDisputed (o : Oracle AccountId) (queryId : QueryId) (count : ℕ) :
    (fuel middle timestampRetrieved : ℕ) → Option (ℕ × ℕ)
  | 0, _, _ => none
  | fuel + 1, middle, timestampRetrieved =>
    if o.isInDispute queryId timestampRetrieved = true ∧ middle < count then
      let middle := Saturating.add u32Max middle 1
      skipDisputed o queryId count fuel middle (o.timestampAt queryId middle)
    else some (middle, timestampRetrieved)

/-- `get_index_for_data_after`. -/
def getIndexForDataAfter (o : Oracle AccountId) (queryId : QueryId) (timestamp : ℕ) :
    Option (Option ℕ) :=
  if o.count queryId = 0 then some none
  else
    let count := o.count queryId - 1
    -- checking boundaries to short-circuit the algorithm
    if o.timestampAt queryId count ≤ timestamp then some none
    else do
      let (middle, timestampRetrieved) ← (if timestamp < o.timestampAt queryId 0 then
          some (0, o.timestampAt queryId 0)
        else o.searchAfter queryId timestamp (o.count queryId) 0 count)
      if o.isInDispute queryId timestampRetrieved = false then some (some middle)
      else do
        let (middle, timestampRetrieved) ←
          o.skipDisputed queryId count (o.count queryId) middle timestampRetrieved
        if middle = count ∧ o.isInDispute queryId timestampRetrieved = true then some none
        else some (some middle)

/-- `get_data_after`. -/
def getDataAfter (o : Oracle AccountId) (queryId : QueryId) (timestamp : ℕ) :
    Option (Option (Value × ℕ)) := do
  let found ← o.getIndexForDataAfter queryId timestamp
  some (found.bind fun index ↦
    (o.getTimestampByQueryIdAndIndex queryId index).bind fun timestampRetrieved ↦
      (o.retrieveData queryId timestampRetrieved).map (·, timestampRetrieved))

/-- The loop of `get_multiple_values_before` that collects valid timestamps, latest first. -/
def collectTimestamps (o : Oracle AccountId) (queryId : QueryId) (startIndex endIndex maxCount : ℕ) :
    (fuel index : ℕ) → (timestamps : List ℕ) → Option (List ℕ)
  | 0, _, _ => none
  | fuel + 1, index, timestamps =>
    if timestamps.length < maxCount ∧ startIndex < Saturating.add u32Max endIndex 1 - index then
      let timestamps := (o.getTimestampByQueryIdAndIndex queryId (endIndex - index)).elim timestamps
        fun timestampRetrieved ↦
          if o.isInDispute queryId timestampRetrieved = false then timestamps ++ [timestampRetrieved]
          else timestamps
      collectTimestamps o queryId startIndex endIndex maxCount fuel (Saturating.add u32Max index 1)
        timestamps
    else some timestamps

/-- `get_multiple_values_before`. -/
def getMultipleValuesBefore (o : Oracle AccountId) (queryId : QueryId) (timestamp maxAge maxCount : ℕ) :
    Option (List (Value × ℕ)) := do
  -- get index of first possible value
  let first ← o.getIndexForDataAfter queryId (timestamp - maxAge)
  match first, o.getIndexForDataBefore queryId timestamp with
  | some startIndex, some endIndex => do
    let timestamps ← o.collectTimestamps queryId startIndex endIndex maxCount (o.count queryId + 1) 0 []
    -- retrieve values and reverse timestamps order
    some (timestamps.reverse.filterMap fun timestamp ↦
      (o.retrieveData queryId timestamp).map (·, timestamp))
  | _, _ => some []

end Oracle

end TellorPallet
