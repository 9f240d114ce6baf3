import TellorPallet.Oracle.Runs

/-!
# The history of tips and rewards

Storage keeps of a tip entry only what is left to claim of it, and of a claim only that it was made.
The history says what was tipped into each entry, which entries were paid out to which report, and
which reports were rewarded from which feed. It is recorded beside the state, from the successful
calls alone.
-/

namespace TellorPallet

open Outcome Transition

variable {AccountId : Type} [DecidableEq AccountId] (cfg : Config AccountId)

structure History where
  /-- The amount tipped into each entry of each query. -/
  tipped : QueryId × ℕ → ℕ
  /-- The entries paid out, each as query and index, with the timestamp of the report. -/
  payouts : List ((QueryId × ℕ) × ℕ)
  /-- The reports rewarded from a feed. -/
  rewards : List (QueryId × FeedId × ℕ)

namespace History

/-- Nothing happened yet. -/
def empty : History := ⟨fun _ ↦ 0, [], []⟩

/-- The entries paid out to any report. -/
def paid (history : History) : List (QueryId × ℕ) := history.payouts.map Prod.fst

/-- An amount was tipped into an entry. -/
def addTip (history : History) (entry : QueryId × ℕ) (amount : ℕ) : History :=
  { history with tipped := Function.update history.tipped entry (history.tipped entry + amount) }

def addPayouts (history : History) (payouts : List ((QueryId × ℕ) × ℕ)) : History :=
  { history with payouts := history.payouts ++ payouts }

def addRewards (history : History) (rewards : List (QueryId × FeedId × ℕ)) : History :=
  { history with rewards := history.rewards ++ rewards }

end History

/-- The first of the tip entries up to `last` that the amount of a one-time tip is made of. -/
def paidFrom (o : Oracle AccountId) (a : AutoPay AccountId) (queryId : QueryId)
    (report : Report AccountId) (last : ℕ) : ℕ :=
  match (o.reports.lookup (queryId, report.previous.getD 0)).map Report.index with
  | none => 0
  | some indexBefore =>
    if 1 < report.index - indexBefore then
      match a.firstTipAfter queryId (report.previous.getD 0) last with
      | .ok first => min first last
      | .error _ => last
    else last

/-- The entries from `first` to `last` of a query, paid out to a report. -/
def payoutsBetween (queryId : QueryId) (first last timestamp : ℕ) : List ((QueryId × ℕ) × ℕ) :=
  (List.range' first (last + 1 - first)).map fun index ↦ ((queryId, index), timestamp)

/-- The entries that a successful computation of a one-time tip pays out: `a` are the tips it found
and `a'` those it left. -/
def payoutsAt (o : Oracle AccountId) (a a' : AutoPay AccountId) (queryId : QueryId) (timestamp : ℕ) :
    List ((QueryId × ℕ) × ℕ) :=
  match o.reports.lookup (queryId, timestamp), a.lastTipAt queryId timestamp with
  | some report, .ok last =>
    payoutsBetween queryId (paidFrom o a' queryId report last) last timestamp
  | _, _ => []

/-- The entries that a claim of one-time tips pays out. -/
def claimPayouts (o : Oracle AccountId) (now : ℕ) (queryId : QueryId) (reporter : AccountId) :
    List ℕ → AutoPay AccountId → List ((QueryId × ℕ) × ℕ)
  | [], _ => []
  | timestamp :: rest, a =>
    match getOnetimeTipAmount cfg o now a queryId timestamp reporter with
    | .ok (_, a') =>
      payoutsAt o a a' queryId timestamp ++ claimPayouts o now queryId reporter rest a'
    | .error _ => []

/-- What a successful call adds to the history. -/
def recordCall (s s' : State AccountId) (signer : AccountId) (call : Call AccountId)
    (history : History) : History :=
  match call with
  | .tip queryId amount _ => history.addTip (queryId, s'.autoPay.countTips queryId - 1) amount
  | .claimOnetimeTip queryId timestamps =>
    history.addPayouts (claimPayouts cfg s.oracle s.now queryId signer timestamps s.autoPay)
  | .claimTip feedId queryId timestamps =>
    history.addRewards (timestamps.map fun timestamp ↦ (queryId, feedId, timestamp))
  | _ => history

/-- What an input adds to the history. -/
def record (s : State AccountId) (input : Input AccountId) (history : History) : History :=
  match input with
  | .extrinsic send (.signed signer) call =>
    match dispatch cfg send s (.signed signer) call with
    | .ok s' => recordCall cfg s s' signer call history
    | .error _ => history
  | _ => history

/-- A state of the runs from empty storage whose inputs are admitted, with its history. -/
def RecordedBy (admits : State AccountId → Input AccountId → Prop) (s : State AccountId)
    (history : History) : Prop :=
  ∃ s₀, IsGenesis cfg s₀ ∧
    Reaches (recording (step cfg) (record cfg)) (fun c input ↦ admits c.1 input)
      (s₀, History.empty) (s, history)

/-- A reachable state with its history. -/
def Recorded (s : State AccountId) (history : History) : Prop :=
  RecordedBy cfg (Admissible cfg) s history

/-- What every admitted input preserves, with what it adds to the history, holds throughout. -/
theorem RecordedBy.invariant {admits : State AccountId → Input AccountId → Prop} {s : State AccountId}
    {history : History} (inv : State AccountId → History → Prop) (h : RecordedBy cfg admits s history)
    (hgenesis : ∀ s, IsGenesis cfg s → inv s History.empty)
    (hstep : ∀ s history input, inv s history → admits s input →
      inv (step cfg input s) (record cfg s input history)) : inv s history :=
  ReachedWith.invariant inv h hgenesis hstep

/-- Every state of the runs has a history. -/
theorem ReachableBy.recordedBy {admits : State AccountId → Input AccountId → Prop}
    {s : State AccountId} (h : ReachableBy cfg admits s) :
    ∃ history, RecordedBy cfg admits s history := by
  obtain ⟨s₀, hgenesis, hreaches⟩ := h
  obtain ⟨history, hrecorded⟩ := Reaches.recorded hreaches History.empty
  exact ⟨history, s₀, hgenesis, hrecorded⟩

/-- A run of the mock runtime with its history. -/
def Mock.recorded (inputs : List (Input ℕ)) : State ℕ × History :=
  run (recording (step Mock.config) (record Mock.config)) inputs (Mock.genesis, History.empty)

theorem Mock.recordedBy_recorded {admits : State ℕ → Input ℕ → Prop} (inputs : List (Input ℕ))
    (h : AdmitsAll (recording (step Mock.config) (record Mock.config)) (fun c input ↦ admits c.1 input)
      inputs (Mock.genesis, History.empty)) :
    RecordedBy Mock.config admits (Mock.recorded inputs).1 (Mock.recorded inputs).2 :=
  Mock.reachedWith_run inputs h

end TellorPallet
