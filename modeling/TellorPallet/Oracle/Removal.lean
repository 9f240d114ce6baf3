import TellorPallet.Oracle.Runs

/-!
# The limit of a removal

`remove_value` visits the disputed reports that follow the removed one and the first one after them.
It succeeds exactly when the limit admits that many iterations, and then all of them were visited.
-/

namespace TellorPallet

open Outcome Transition

variable {AccountId : Type}

namespace Oracle

variable {o : Oracle AccountId} {queryId : QueryId} {timestamp : ℕ}

/-- Whether the report at an index is disputed. -/
def isDisputedAt (o : Oracle AccountId) (queryId : QueryId) (index : ℕ) : Bool :=
  (o.reportedTimestampsByIndex.lookup (queryId, index)).any (o.isInDispute queryId)

/-- The number of disputed reports in a row among `n` indices from `index` on. -/
def disputedRun (o : Oracle AccountId) (queryId : QueryId) (index n : ℕ) : ℕ :=
  ((List.range' index n).takeWhile (o.isDisputedAt queryId)).length

/-- The number of disputed reports that immediately follow the report at an index. -/
def disputedAfter (o : Oracle AccountId) (queryId : QueryId) (index : ℕ) : ℕ :=
  o.disputedRun queryId (index + 1) (o.count queryId - (index + 1))

theorem isDisputedAt_eq {index t : ℕ} {report : Report AccountId}
    (ht : o.reportedTimestampsByIndex.lookup (queryId, index) = some t)
    (hreport : o.reports.lookup (queryId, t) = some report) :
    o.isDisputedAt queryId index = report.isDisputed := by
  rw [isDisputedAt, ht, Option.any_some, isInDispute, hreport, Option.elim_some]

theorem disputedRun_succ (index n : ℕ) : o.disputedRun queryId index (n + 1) =
    if o.isDisputedAt queryId index = true then o.disputedRun queryId (index + 1) n + 1 else 0 := by
  rw [disputedRun, List.range'_succ, List.takeWhile_cons]
  split <;> rfl

/-- Relinking a report disputes none. -/
theorem setPrevious_disputedRun {t : ℕ} {report : Report AccountId} {previous : Option ℕ}
    (h : o.reports.lookup (queryId, t) = some report) (index n : ℕ) :
    (o.setPrevious queryId t report previous).disputedRun queryId index n =
      o.disputedRun queryId index n := by
  have hsame : (o.setPrevious queryId t report previous).isDisputedAt queryId =
      o.isDisputedAt queryId := by
    funext i
    have hdispute : (o.setPrevious queryId t report previous).isInDispute queryId =
        o.isInDispute queryId := by
      funext u
      rw [isInDispute, isInDispute, setPrevious_reports]
      split
      · next heq =>
        rw [heq.2, h]
        rfl
      · rfl
    rw [isDisputedAt, isDisputedAt, hdispute]
    rfl
  rw [disputedRun, disputedRun, hsame]

/-- The loop of `remove_value` takes one iteration for each disputed report in a row, and one more. -/
theorem relink_eq {limit n index : ℕ} (remaining iterations : ℕ) {previous : Option ℕ}
    {o : Oracle AccountId} (hindexed : Indexed o queryId)
    (hremaining : remaining + iterations = limit + 1) (hiterations : iterations ≤ limit)
    (hn : n = o.count queryId - index) :
    ∃ o', relink limit queryId previous remaining index iterations o =
      if iterations + o.disputedRun queryId index n < limit then
        .ok (iterations + o.disputedRun queryId index n + 1, o')
      else .error (.module .maxDisputedTimeSeriesReached) := by
  induction remaining generalizing n index iterations o with
  | zero => omega
  | succ remaining ih =>
    unfold relink
    split
    · next hlimit => exact ⟨o, by rw [if_neg (by omega)]⟩
    next hlimit =>
    cases ht : o.reportedTimestampsByIndex.lookup (queryId, index) with
    | none =>
      have hend : n = 0 := by
        by_contra hpositive
        obtain ⟨t, ht'⟩ := (hindexed.defined index).mpr (by omega)
        rw [ht] at ht'
        cases ht'
      have hrun : o.disputedRun queryId index n = 0 := by rw [hend]; rfl
      exact ⟨o, by rw [hrun, if_pos (by omega)]⟩
    | some t =>
      obtain ⟨next, hnext, -⟩ := hindexed.report_at index t ht
      have hless := (hindexed.defined index).mp ⟨t, ht⟩
      obtain ⟨m, rfl⟩ : ∃ m, n = m + 1 := Nat.exists_eq_succ_of_ne_zero (by omega)
      rw [disputedRun_succ, isDisputedAt_eq ht hnext]
      dsimp only
      rw [hnext]
      dsimp only
      by_cases hdisputed : next.isDisputed = true
      · rw [if_pos hdisputed, if_pos hdisputed]
        have hrest : m = (o.setPrevious queryId t next previous).count queryId - (index + 1) := by
          change m = o.count queryId - (index + 1)
          omega
        obtain ⟨o', ho'⟩ := ih (iterations + 1) (hindexed.setPrevious hnext) (by omega) (by omega)
          hrest
        rw [setPrevious_disputedRun hnext] at ho'
        rw [show iterations + 1 + o.disputedRun queryId (index + 1) m =
          iterations + (o.disputedRun queryId (index + 1) m + 1) by omega] at ho'
        exact ⟨o', ho'⟩
      · have hadmitted : iterations + 0 < limit := by omega
        refine ⟨o.setPrevious queryId t next previous, ?_⟩
        rw [if_neg hdisputed, if_neg hdisputed, if_pos hadmitted]
        rfl

/-- `remove_value` of a valid report takes one iteration for each disputed report that follows it, and
one more, when the limit admits them; otherwise it fails. -/
theorem removeValue_eq (h : Indexed o queryId) (limit : ℕ) {report : Report AccountId}
    (hreport : o.reports.lookup (queryId, timestamp) = some report)
    (hvalid : report.isDisputed = false) :
    ∃ o', o.removeValue limit queryId timestamp =
      if o.disputedAfter queryId report.index < limit then
        .ok (o.disputedAfter queryId report.index + 1, o')
      else .error (.module .maxDisputedTimeSeriesReached) := by
  have hframe : (o.retractLast queryId timestamp report.previous) = { o with
      lastReportedTimestamp :=
        (o.retractLast queryId timestamp report.previous).lastReportedTimestamp } := retractLast_frame
  have hretracted : Indexed (o.retractLast queryId timestamp report.previous) queryId := by
    rw [hframe]
    exact ⟨h.defined, h.increasing, h.report_at, h.timestamp_at⟩
  have hrun : (o.retractLast queryId timestamp report.previous).disputedRun queryId (report.index + 1)
      ((o.retractLast queryId timestamp report.previous).count queryId - (report.index + 1)) =
        o.disputedAfter queryId report.index := by
    rw [hframe]
    rfl
  obtain ⟨relinked, hrelink⟩ : ∃ o', relink limit queryId report.previous (limit + 1)
      (report.index + 1) 0 (o.retractLast queryId timestamp report.previous) =
      if 0 + o.disputedAfter queryId report.index < limit then
        .ok (0 + o.disputedAfter queryId report.index + 1, o')
      else .error (.module .maxDisputedTimeSeriesReached) := by
    rw [← hrun]
    exact relink_eq (limit + 1) 0 hretracted rfl (Nat.zero_le _) rfl
  rw [Nat.zero_add] at hrelink
  have hindex := h.timestamp_at timestamp report hreport
  simp only [removeValue, hreport, okOr, ensure, Outcome.guard, hvalid, hindex, hrelink, bind,
    Except.bind]
  by_cases hlimit : o.disputedAfter queryId report.index < limit
  · simp only [if_pos hlimit]
    exact ⟨_, rfl⟩
  · simp only [if_neg hlimit]
    exact ⟨o, rfl⟩

/-- All reports of a run are disputed. -/
theorem isDisputedAt_of_lt (n : ℕ) {index j : ℕ} (h : j < o.disputedRun queryId index n) :
    o.isDisputedAt queryId (index + j) = true := by
  induction n generalizing index j with
  | zero => exact absurd h (Nat.not_lt_zero j)
  | succ n ih =>
    rw [disputedRun_succ] at h
    split at h
    · next hfirst =>
      cases j with
      | zero => exact hfirst
      | succ j =>
        rw [show index + (j + 1) = index + 1 + j by omega]
        exact ih (by omega)
    · exact absurd h (Nat.not_lt_zero j)

/-- The report after a run that goes up to the last index is valid, if there is one. -/
theorem isDisputedAt_disputedRun (h : Indexed o queryId) {index n : ℕ}
    (hn : o.count queryId ≤ index + n) :
    o.isDisputedAt queryId (index + o.disputedRun queryId index n) = false := by
  induction n generalizing index with
  | zero =>
    have hnone : o.reportedTimestampsByIndex.lookup (queryId, index) = none := by
      cases ht : o.reportedTimestampsByIndex.lookup (queryId, index) with
      | none => rfl
      | some t => exact absurd ((h.defined index).mp ⟨t, ht⟩) (not_lt.mpr hn)
    change o.isDisputedAt queryId index = false
    rw [isDisputedAt, hnone, Option.any_none]
  | succ n ih =>
    rw [disputedRun_succ]
    split
    · rw [show index + (o.disputedRun queryId (index + 1) n + 1) =
        index + 1 + o.disputedRun queryId (index + 1) n by omega]
      exact ih (by omega)
    · next hfirst => exact Bool.eq_false_iff.mpr hfirst

/-- The reports after a removed one, up to and including the next valid one, now point at the one
before it. -/
def RelinkedUpToValid (o : Oracle AccountId) (queryId : QueryId) (report : Report AccountId)
    (o' : Oracle AccountId) : Prop :=
  ∀ i t next, report.index < i → i ≤ report.index + o.disputedAfter queryId report.index + 1 →
    o.reportedTimestampsByIndex.lookup (queryId, i) = some t →
    o.reports.lookup (queryId, t) = some next →
    o'.reports.lookup (queryId, t) = some { next with previous := report.previous }

theorem Removed.relinkedUpToValid {o' : Oracle AccountId} {report : Report AccountId}
    (hindexed : Indexed o queryId) (h : Removed o queryId timestamp report o') :
    RelinkedUpToValid o queryId report o' := by
  intro i t next hlower hupper ht hnext
  have hindex : next.index = i := by
    obtain ⟨other, hother, heq⟩ := hindexed.report_at i t ht
    rw [hnext] at hother
    cases hother
    exact heq
  have hne : t ≠ timestamp := by
    rintro rfl
    rw [h.report_eq] at hnext
    cases hnext
    omega
  have hreached : o.Reached queryId (report.index + 1) next.index := by
    refine ⟨by omega, fun j u hj hji hu ↦ ?_⟩
    have hdisputed : o.isDisputedAt queryId (report.index + 1 + (j - (report.index + 1))) = true := by
      apply isDisputedAt_of_lt (o.count queryId - (report.index + 1))
      unfold disputedAfter at hupper
      omega
    rw [Nat.add_sub_cancel' hj] at hdisputed
    obtain ⟨other, hother, -⟩ := hindexed.report_at j u hu
    rw [isDisputedAt_eq hu hother] at hdisputed
    rw [mem_valid_of_lookup hother, hdisputed]
    exact Bool.true_eq_false.mp
  rw [h.reports_eq, if_neg fun heq ↦ hne heq.2, hnext, Option.map_some, relinked,
    if_pos ⟨rfl, hreached⟩]

end Oracle

variable [DecidableEq AccountId] {cfg : Config AccountId} {s : State AccountId}

/-- In every reachable state `remove_value` of a valid report succeeds exactly when fewer disputed
reports than the limit follow it immediately, up to the next valid report or the end. It then takes
one iteration more than there are such reports, no more than the limit, and relinks them all with the
valid one after them; otherwise it fails with the error of the limit. -/
theorem removeValue_of_reachable (h : Reachable cfg s) (queryId : QueryId) (timestamp : ℕ)
    (report : Report AccountId) (hreport : s.oracle.reports.lookup (queryId, timestamp) = some report)
    (hvalid : report.isDisputed = false) :
    ((∀ j < s.oracle.disputedAfter queryId report.index,
        s.oracle.isDisputedAt queryId (report.index + 1 + j) = true) ∧
      s.oracle.isDisputedAt queryId
        (report.index + 1 + s.oracle.disputedAfter queryId report.index) = false) ∧
    ((∃ n o', s.oracle.removeValue cfg.maxDisputedTimeSeries queryId timestamp = .ok (n, o')) ↔
      s.oracle.disputedAfter queryId report.index < cfg.maxDisputedTimeSeries) ∧
    (∀ n o', s.oracle.removeValue cfg.maxDisputedTimeSeries queryId timestamp = .ok (n, o') →
      n = s.oracle.disputedAfter queryId report.index + 1 ∧ n ≤ cfg.maxDisputedTimeSeries ∧
        s.oracle.RelinkedUpToValid queryId report o') ∧
    (cfg.maxDisputedTimeSeries ≤ s.oracle.disputedAfter queryId report.index →
      s.oracle.removeValue cfg.maxDisputedTimeSeries queryId timestamp =
        .error (.module .maxDisputedTimeSeriesReached)) := by
  have hindexed := (h.seriesInvariant.series queryId).toIndexed
  refine ⟨⟨fun j hj ↦ Oracle.isDisputedAt_of_lt _ hj,
    Oracle.isDisputedAt_disputedRun hindexed (by omega)⟩, ?_⟩
  obtain ⟨o₁, hremove⟩ := Oracle.removeValue_eq hindexed cfg.maxDisputedTimeSeries hreport hvalid
  rw [hremove]
  rcases Nat.lt_or_ge (s.oracle.disputedAfter queryId report.index) cfg.maxDisputedTimeSeries with
    hless | hge
  · rw [if_pos hless] at hremove ⊢
    refine ⟨iff_of_true ⟨_, _, rfl⟩ hless, fun n o' h ↦ ?_, fun hge ↦ absurd hless (not_lt.mpr hge)⟩
    cases h
    obtain ⟨other, hremoved⟩ := Oracle.removeValue_removed hindexed hremove
    have hsame := hremoved.report_eq
    rw [hreport] at hsame
    cases hsame
    exact ⟨rfl, hless, hremoved.relinkedUpToValid hindexed⟩
  · rw [if_neg (not_lt.mpr hge)]
    refine ⟨iff_of_false ?_ (not_lt.mpr hge), fun n o' h ↦ ?_, fun _ ↦ rfl⟩
    · rintro ⟨n, o', h⟩
      cases h
    · cases h

/-- The first of three reports is removed after the second one was: it takes two iterations. -/
theorem removeValue_of_reports :
    let s := run (step Mock.config) Mock.reports Mock.genesis
    ∀ n o', s.oracle.removeValue Mock.config.maxDisputedTimeSeries Mock.queryId (Mock.start + 10) =
      .ok (n, o') → n = 2 := by
  intro s n o' hremove
  have hs : Reachable Mock.config s := Mock.reachableBy_run Mock.reports (by decide +kernel)
  have hreport : s.oracle.reports.lookup (Mock.queryId, Mock.start + 10) =
      some ⟨0, 2, 7, false, none⟩ := by decide +kernel
  have hn := ((removeValue_of_reachable hs Mock.queryId (Mock.start + 10) _ hreport rfl).2.2.1 n o'
    hremove).1
  rw [hn]
  decide +kernel

end TellorPallet
