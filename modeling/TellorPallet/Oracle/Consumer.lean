import TellorPallet.Oracle.Backing
import TellorPallet.Oracle.Log
import TellorPallet.Pallet.Decoding

/-!
# A pallet that reads prices

The sample pallet that uses Tellor: it multiplies what its callers give it by the latest price that is at
least fifteen minutes and less than a day old. The delay leaves time for disputes. What it reads is the
latest undisputed report of that age, and no report made during the last fifteen minutes changes it.
-/

namespace TellorPallet

open Outcome Transition Predecessor

variable {AccountId : Type}

def fifteenMinutes : ℕ := 15 * minutes

def oneDay : ℕ := 24 * hours

inductive ConsumerEvent (AccountId : Type) where
  | configured (queryId : QueryId)
  | valueStored (value : ℕ) (who : AccountId)
deriving DecidableEq, Repr

inductive ConsumerError where
  | badOrigin
  /-- The pallet has not been configured. -/
  | notConfigured
deriving DecidableEq, Repr

/-- The storage of the pallet. -/
structure Consumer (AccountId : Type) where
  configuration : Option QueryId
  values : FiniteMap AccountId ℕ
  events : List (ConsumerEvent AccountId)

/-- `get_price`. -/
def getPrice (o : Oracle AccountId) (now : ℕ) (queryId : QueryId) : Option ℕ :=
  -- retrieve data at least 15 minutes old to allow time for disputes
  (o.getDataBefore queryId (now - fifteenMinutes)).bind fun found ↦
    -- check that the data is not too old
    if now - found.2 < oneDay then bytesToU256 found.1 else none

section Calls

variable [DecidableEq AccountId] (c : Consumer AccountId)

/-- `configure`; `configureOrigin` are the origins that `ConfigureOrigin` accepts. -/
def configure (configureOrigin : Origin AccountId → Bool) (origin : Origin AccountId)
    (queryId : QueryId) : Except ConsumerError (Consumer AccountId) := do
  guard (configureOrigin origin = true) .badOrigin
  .ok { c with
    configuration := some queryId
    events := c.events ++ [.configured queryId] }

/-- `do_something`. -/
def doSomething (o : Oracle AccountId) (now : ℕ) (origin : Origin AccountId) (value : ℕ) :
    Except ConsumerError (Consumer AccountId) :=
  match origin with
  | .signed who => do
    let queryId ← okOr c.configuration .notConfigured
    match getPrice o now queryId with
    | some price =>
      let derivedValue := Saturating.mul u256Max price value
      .ok { c with
        values := c.values.insert who derivedValue
        events := c.events ++ [.valueStored derivedValue who] }
    | none => .ok c
  | _ => .error .badOrigin

/-- The storage after a price was found for an account, or none. -/
def Consumer.stored (who : AccountId) (value : ℕ) : Option ℕ → Consumer AccountId
  | some price =>
    let derivedValue := min (price * value) u256Max
    { c with
      values := c.values.insert who derivedValue
      events := c.events ++ [.valueStored derivedValue who] }
  | none => c

end Calls

/-! ## What is read -/

namespace ReportLog

/-- The price in a log at a time: that of its latest value more than fifteen minutes old, if that is less
than a day old and a number. -/
def price (log : ReportLog AccountId) (now : ℕ) : Option ℕ :=
  (log.before (now - fifteenMinutes)).bind fun entry ↦
    if now < entry.2 + oneDay then bytesToU256 entry.1 else none

theorem values_append (log later : ReportLog AccountId) :
    (log ++ later).values = log.values ++ later.values := List.filterMap_append

theorem exists_entry {log : ReportLog AccountId} {entry : Value × ℕ} (h : entry ∈ log.values) :
    ∃ logged ∈ log, logged.timestamp = entry.2 := by
  obtain ⟨logged, hlogged, hvalue⟩ := List.mem_filterMap.mp h
  obtain ⟨value, -, rfl⟩ := Option.map_eq_some_iff.mp hvalue
  exact ⟨logged, hlogged, rfl⟩

/-- Entries at or after a time do not change what is read before it. -/
theorem before_append {log later : ReportLog AccountId} {timestamp : ℕ}
    (h : ∀ entry ∈ later, timestamp ≤ entry.timestamp) :
    (log ++ later).before timestamp = log.before timestamp := by
  have hnone : later.values.filter (fun entry ↦ entry.2 < timestamp) = [] := by
    refine List.filter_eq_nil_iff.mpr fun entry hentry hlt ↦ ?_
    obtain ⟨logged, hlogged, htime⟩ := exists_entry hentry
    have hle := h logged hlogged
    rw [htime] at hle
    exact absurd (of_decide_eq_true hlt) (not_lt.mpr hle)
  rw [before, before, values_append, List.filter_append, hnone, List.append_nil]

theorem dispute_append (log later : ReportLog AccountId) (timestamp : ℕ) :
    (log ++ later).dispute timestamp = log.dispute timestamp ++ later.dispute timestamp :=
  List.map_append

theorem exists_of_mem_dispute {log : ReportLog AccountId} {timestamp : ℕ} {entry : LogEntry AccountId}
    (h : entry ∈ log.dispute timestamp) : ∃ before ∈ log, before.timestamp = entry.timestamp := by
  obtain ⟨before, hbefore, rfl⟩ := List.mem_map.mp h
  refine ⟨before, hbefore, ?_⟩
  split <;> rfl

end ReportLog

/-- The search and the check of the age read the price in the log. -/
theorem getPrice_eq {o : Oracle AccountId} {queryId : QueryId} (h : Oracle.ReportSeries o queryId)
    (now : ℕ) : getPrice o now queryId = (o.log queryId).price now := by
  rw [getPrice, ReportLog.price, h.readsLog.before]
  refine Option.bind_congr fun entry hread ↦ ?_
  have hbefore : entry.2 < now - fifteenMinutes := by
    have hmem := List.mem_of_getLast? hread
    exact of_decide_eq_true (List.mem_filter.mp hmem).2
  have hle : entry.2 ≤ now := hbefore.le.trans (Nat.sub_le now fifteenMinutes)
  have hage : now - entry.2 < oneDay ↔ now < entry.2 + oneDay := tsub_lt_iff_left hle
  simp only [hage]

/-! ## The last fifteen minutes -/

variable [DecidableEq AccountId] (cfg : Config AccountId)

/-- What an input strikes from the log of a query. -/
def Input.struck (s : State AccountId) (queryId : QueryId) (log : ReportLog AccountId) :
    Input AccountId → ReportLog AccountId
  | .extrinsic send origin (.beginDispute q timestamp beneficiary) =>
    if (dispatch cfg send s origin (.beginDispute q timestamp beneficiary)).isOk ∧ q = queryId ∧
        s.governance.rounds (disputeIdOf cfg q timestamp) = 0 then log.dispute timestamp
    else log
  | _ => log

/-- A log without the values that the inputs of a run strike. -/
def striking (queryId : QueryId) :
    List (Input AccountId) → State AccountId → ReportLog AccountId → ReportLog AccountId
  | [], _, log => log
  | input :: rest, s, log => striking queryId rest (step cfg input s) (input.struck cfg s queryId log)

section Runs

variable {cfg} {s : State AccountId} {queryId : QueryId}

omit [DecidableEq AccountId] in
theorem since_le_dispute {log : ReportLog AccountId} {since timestamp : ℕ}
    (h : ∀ entry ∈ log, since ≤ entry.timestamp) :
    ∀ entry ∈ log.dispute timestamp, since ≤ entry.timestamp := by
  intro entry hentry
  obtain ⟨before, hbefore, htime⟩ := ReportLog.exists_of_mem_dispute hentry
  exact (h before hbefore).trans_eq htime

omit [DecidableEq AccountId] in
/-- A submission appends an entry of the current time, or none. -/
theorem logged_submitValue {origin : Origin AccountId} {q : QueryId} {value : Value} {nonce : ℕ}
    {queryData : QueryData} (log : ReportLog AccountId) :
    ∃ entries : ReportLog AccountId, (∀ entry ∈ entries, entry.timestamp = s.now) ∧
      Call.logged cfg s queryId log origin (.submitValue q value nonce queryData) = log ++ entries := by
  have hnone : ∃ entries : ReportLog AccountId, (∀ entry ∈ entries, entry.timestamp = s.now) ∧
      log = log ++ entries :=
    ⟨[], fun _ hentry ↦ absurd hentry List.not_mem_nil, (List.append_nil log).symm⟩
  cases origin with
  | signed reporter =>
    rw [Call.logged]
    split
    · exact ⟨_, fun entry hentry ↦ by rw [List.mem_singleton.mp hentry], rfl⟩
    · exact hnone
  | _ => exact hnone

/-- An input strikes values from the earlier part of a log, and may append to the later part. -/
theorem logged_append (input : Input AccountId) {since : ℕ} (hsince : since ≤ s.now)
    (log : ReportLog AccountId) {later : ReportLog AccountId}
    (hlater : ∀ entry ∈ later, since ≤ entry.timestamp) :
    ∃ later', input.logged cfg s queryId (log ++ later) = input.struck cfg s queryId log ++ later' ∧
      ∀ entry ∈ later', since ≤ entry.timestamp := by
  have hkept : input.logged cfg s queryId (log ++ later) = log ++ later →
      input.struck cfg s queryId log = log →
      ∃ later', input.logged cfg s queryId (log ++ later) = input.struck cfg s queryId log ++ later' ∧
        ∀ entry ∈ later', since ≤ entry.timestamp :=
    fun hlogged hstruck ↦ ⟨later, by rw [hlogged, hstruck], hlater⟩
  cases input with
  | newBlock blockNumber now => exact hkept rfl rfl
  | onInitialize send => exact hkept rfl rfl
  | external account balance => exact hkept rfl rfl
  | extrinsic send origin call =>
    cases hcall : call.changesReports with
    | false =>
      refine hkept ?_ ?_
      · rw [Input.logged, Call.logged_eq hcall, ite_self]
      · cases call with
        | beginDispute q timestamp beneficiary => cases hcall
        | _ => rfl
    | true =>
      cases call with
      | submitValue q value nonce queryData =>
        rw [Input.logged]
        split
        · obtain ⟨entries, htime, hlogged⟩ := logged_submitValue (log ++ later)
          rw [hlogged, List.append_assoc]
          refine ⟨later ++ entries, rfl, fun entry hentry ↦ ?_⟩
          rcases List.mem_append.mp hentry with hbefore | hnew
          · exact hlater entry hbefore
          · exact hsince.trans_eq (htime entry hnew).symm
        · exact ⟨later, rfl, hlater⟩
      | beginDispute q timestamp beneficiary =>
        by_cases hstrikes : (dispatch cfg send s origin
            (.beginDispute q timestamp beneficiary)).isOk = true ∧ q = queryId ∧
              s.governance.rounds (disputeIdOf cfg q timestamp) = 0
        · rw [Input.logged, if_pos hstrikes.1, Call.logged, if_pos hstrikes.2, Input.struck,
            if_pos hstrikes, ReportLog.dispute_append]
          exact ⟨_, rfl, since_le_dispute hlater⟩
        · refine hkept ?_ (if_neg hstrikes)
          rw [Input.logged]
          split
          · next haccepted => exact if_neg fun hfirst ↦ hstrikes ⟨haccepted, hfirst⟩
          · rfl
      | _ => cases hcall

theorem logging_append (inputs : List (Input AccountId)) {since : ℕ} (hsince : since ≤ s.now)
    (hadmits : AdmitsAll (step cfg) (Admissible cfg) inputs s) (log : ReportLog AccountId)
    {later : ReportLog AccountId} (hlater : ∀ entry ∈ later, since ≤ entry.timestamp) :
    ∃ later', logging cfg queryId inputs s (log ++ later) =
      striking cfg queryId inputs s log ++ later' ∧ ∀ entry ∈ later', since ≤ entry.timestamp := by
  induction inputs generalizing s log later with
  | nil => exact ⟨later, rfl, hlater⟩
  | cons input rest ih =>
    obtain ⟨later', hlogged, hlater'⟩ := logged_append input hsince log hlater
    rw [logging, striking, hlogged]
    exact ih (hsince.trans (step_effect hadmits.1).seriesStep.now_le) hadmits.2 _ hlater'

/-- Over fifteen minutes the price is that of the log they began with, less the values that were struck
since: reports made in the meantime do not change it. -/
theorem getPrice_run (h : Reachable cfg s) {inputs : List (Input AccountId)}
    (hadmits : AdmitsAll (step cfg) (Admissible cfg) inputs s) {now : ℕ}
    (hwithin : now ≤ s.now + fifteenMinutes) :
    getPrice (run (step cfg) inputs s).oracle now queryId =
      (striking cfg queryId inputs s (s.oracle.log queryId)).price now := by
  have hseries : Oracle.ReportSeries (run (step cfg) inputs s).oracle queryId := by
    obtain ⟨s₀, hgenesis, hreaches⟩ := h
    have hreachable : Reachable cfg (run (step cfg) inputs s) :=
      ⟨s₀, hgenesis, hreaches.trans (reaches_run inputs s hadmits)⟩
    exact hreachable.seriesInvariant.series queryId
  have hnone : ∀ entry ∈ ([] : ReportLog AccountId), s.now ≤ entry.timestamp :=
    fun _ hentry ↦ absurd hentry List.not_mem_nil
  obtain ⟨later, hlog, hlater⟩ := logging_append inputs le_rfl hadmits (s.oracle.log queryId) hnone
  rw [List.append_nil] at hlog
  rw [getPrice_eq hseries, log_run inputs h.seriesInvariant hadmits, hlog, ReportLog.price,
    ReportLog.before_append, ReportLog.price]
  intro entry hentry
  exact (Nat.sub_le_of_le_add hwithin).trans (hlater entry hentry)

/-- A configured pallet accepts every signed call and multiplies by the price in the log of up to fifteen
minutes ago, less the values that were struck since. Reports made in the meantime do not change what it
stores. -/
theorem doSomething_of_run (h : Reachable cfg s) {inputs : List (Input AccountId)}
    (hadmits : AdmitsAll (step cfg) (Admissible cfg) inputs s)
    (hwithin : (run (step cfg) inputs s).now ≤ s.now + fifteenMinutes) {c : Consumer AccountId}
    (hconfigured : c.configuration = some queryId) (who : AccountId) (value : ℕ) :
    doSomething c (run (step cfg) inputs s).oracle (run (step cfg) inputs s).now (.signed who) value =
      .ok (c.stored who value ((striking cfg queryId inputs s (s.oracle.log queryId)).price
        (run (step cfg) inputs s).now)) := by
  have hconfiguration : okOr c.configuration ConsumerError.notConfigured = .ok queryId := by
    rw [hconfigured]
    rfl
  refine bind_eq_ok.mpr ⟨queryId, hconfiguration, ?_⟩
  rw [getPrice_run h hadmits hwithin]
  cases (striking cfg queryId inputs s (s.oracle.log queryId)).price (run (step cfg) inputs s).now with
  | none => rfl
  | some price => rfl

/-- Reports at 10, 20 and 30 seconds; the second is disputed, and the price read fifteen minutes after it
is that of the first. -/
theorem doSomething_of_run_disputed :
    let s := run (step Mock.config) [Mock.deposit 7, Mock.deposit 8, Mock.deposit 9, Mock.block 10,
      Mock.submit 7, Mock.block 20, Mock.submit 8, Mock.block 30] Mock.genesis
    let inputs := [Mock.submit 9, Mock.dispute 9 20, Mock.block 925]
    let s' := run (step Mock.config) inputs s
    ∃ c, configure (⟨none, ∅, []⟩ : Consumer ℕ) (· = .other) .other Mock.queryId = .ok c ∧
      doSomething c s'.oracle s'.now (.signed 5) 3 = .ok (c.stored 5 3
        ((striking Mock.config Mock.queryId inputs s (s.oracle.log Mock.queryId)).price s'.now)) := by
  intro s inputs s'
  exact ⟨_, rfl, doSomething_of_run (Mock.reachableBy_run _ (by decide +kernel)) (by decide +kernel)
    (by decide +kernel) rfl 5 3⟩

end Runs

end TellorPallet
