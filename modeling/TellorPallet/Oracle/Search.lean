import TellorPallet.Oracle.Series

/-!
# The search for the last report before a time

On a consistent series the search of `get_index_for_data_before_with_start` from index zero ends
within its fuel, and yields the last report before the given time that is not disputed.
-/

namespace TellorPallet

open Predecessor

variable {AccountId : Type}

namespace Oracle

variable {o : Oracle AccountId} {queryId : QueryId} {timestamp : ℕ}

/-- The index of a query's report at a time, if there is one. -/
def indexAt (o : Oracle AccountId) (queryId : QueryId) (t : ℕ) : Option ℕ :=
  (o.reports.lookup (queryId, t)).map Report.index

/-- Settling on the last report before a time, disputed or not, yields the last that is not. -/
theorem settle_eq (h : ReportSeries o queryId) {k u : ℕ} {p : Option ℕ}
    (hk : o.reportedTimestampsByIndex.lookup (queryId, k) = some u) (hu : u < timestamp)
    (hnext : ∀ v, o.reportedTimestampsByIndex.lookup (queryId, k + 1) = some v → timestamp ≤ v)
    (hp : IsLastBelow (o.valid queryId) timestamp p) :
    o.settle queryId u k = p.bind (o.indexAt queryId) := by
  obtain ⟨report, hreport, hindex⟩ := h.report_at k u hk
  have hgap : ∀ x ∈ o.valid queryId, x < timestamp → x ≤ u := by
    intro x hx hxt
    obtain ⟨other, hother, -⟩ := hx
    have hxIndex := h.timestamp_at x other hother
    by_contra hgt
    have hafter : report.index < other.index :=
      (h.index_lt_iff hreport hother).mpr (not_le.mp hgt)
    have hcount := h.index_lt_count hother
    obtain ⟨v, hv⟩ := (h.defined (k + 1)).mpr (by omega)
    have hvt := hnext v hv
    rcases Nat.lt_or_ge (k + 1) other.index with hlt | hge
    · have hvx := h.increasing _ _ _ _ hv hxIndex hlt
      omega
    · have heq : other.index = k + 1 := by omega
      rw [heq, hv] at hxIndex
      cases hxIndex
      omega
  rw [settle, hreport, Option.bind_some]
  cases hdisputed : report.isDisputed with
  | false =>
    have hlast : IsLastBelow (o.valid queryId) timestamp (some u) :=
      isLastBelow_some.mpr ⟨(mem_valid_of_lookup hreport).mpr hdisputed, hu, hgap⟩
    rw [hp.unique hlast, Option.bind_some, indexAt, hreport, Option.map_some, hindex]
    rfl
  | true =>
    have hinvalid : u ∉ o.valid queryId := by
      rw [mem_valid_of_lookup hreport, hdisputed]
      exact Bool.true_eq_false.mp
    have hlast : IsLastBelow (o.valid queryId) timestamp report.previous :=
      (h.previous u report hreport).raise hu.le fun x hx hxt ↦
        lt_of_le_of_ne (hgap x hx hxt) fun heq ↦ hinvalid (heq ▸ hx)
    rw [hp.unique hlast]
    rfl

/-- What the bisection keeps: its time lies after the report at one index and not after the report at
the other. -/
structure Brackets (o : Oracle AccountId) (queryId : QueryId) (timestamp start stop : ℕ) : Prop where
  before : ∃ t, o.reportedTimestampsByIndex.lookup (queryId, start) = some t ∧ t < timestamp
  after : ∃ t, o.reportedTimestampsByIndex.lookup (queryId, stop) = some t ∧ timestamp ≤ t

theorem Brackets.lt {start stop : ℕ} (hb : Brackets o queryId timestamp start stop)
    (h : ReportSeries o queryId) : start < stop := by
  obtain ⟨ts, hstart, hts⟩ := hb.before
  obtain ⟨te, hstop, hte⟩ := hb.after
  by_contra hle
  rcases Nat.eq_or_lt_of_le (not_lt.mp hle) with heq | hlt
  · rw [heq, hstart] at hstop
    cases hstop
    omega
  · have htime := h.increasing _ _ _ _ hstop hstart hlt
    omega

theorem searchBefore_below {fuel start stop iterations middle time nextTime : ℕ}
    (hle : start ≤ stop) (hmiddle : middle = (stop - start) / 2 + 1 + start)
    (htime : o.reportedTimestampsByIndex.lookup (queryId, middle) = some time)
    (hbefore : time < timestamp)
    (hnextTime : o.reportedTimestampsByIndex.lookup (queryId, middle + 1) = some nextTime) :
    o.searchBefore queryId timestamp (fuel + 1) start stop iterations =
      if timestamp ≤ nextTime then some (o.settle queryId time middle, iterations + 1)
      else o.searchBefore queryId timestamp fuel (middle + 1) stop (iterations + 1) := by
  have hspan : Checked.sub stop start = some (stop - start) := Checked.sub_eq_some.mpr ⟨hle, rfl⟩
  rw [searchBefore, hspan]
  dsimp only
  rw [← hmiddle, htime]
  dsimp only
  rw [if_pos hbefore, hnextTime]

theorem searchBefore_above {fuel start stop iterations middle time previousTime : ℕ}
    (hle : start ≤ stop) (hmiddle : middle = (stop - start) / 2 + 1 + start)
    (htime : o.reportedTimestampsByIndex.lookup (queryId, middle) = some time)
    (hafter : timestamp ≤ time)
    (hpreviousTime : o.reportedTimestampsByIndex.lookup (queryId, middle - 1) = some previousTime) :
    o.searchBefore queryId timestamp (fuel + 1) start stop iterations =
      if previousTime < timestamp then
        some (o.settle queryId previousTime (middle - 1), iterations + 1)
      else o.searchBefore queryId timestamp fuel start (middle - 1) (iterations + 1) := by
  have hspan : Checked.sub stop start = some (stop - start) := Checked.sub_eq_some.mpr ⟨hle, rfl⟩
  rw [searchBefore, hspan]
  dsimp only
  rw [← hmiddle, htime]
  dsimp only
  rw [if_neg (not_lt.mpr hafter), hpreviousTime]

/-- One iteration of the bisection settles on the last report before the time, or goes on between two
indices that are at most half as far apart. -/
theorem searchBefore_step (h : ReportSeries o queryId) {start stop : ℕ} (iterations : ℕ) {p : Option ℕ}
    (hb : Brackets o queryId timestamp start stop)
    (hp : IsLastBelow (o.valid queryId) timestamp p) :
    (∀ fuel, o.searchBefore queryId timestamp (fuel + 1) start stop iterations =
      some (p.bind (o.indexAt queryId), iterations + 1)) ∨
    ∃ start' stop', Brackets o queryId timestamp start' stop' ∧ 2 * (stop' - start') ≤ stop - start ∧
      ∀ fuel, o.searchBefore queryId timestamp (fuel + 1) start stop iterations =
        o.searchBefore queryId timestamp fuel start' stop' (iterations + 1) := by
  have horder := hb.lt h
  obtain ⟨te, hstop, -⟩ := id hb.after
  have hstopCount := (h.defined stop).mp ⟨te, hstop⟩
  obtain ⟨middle, hmiddle⟩ : ∃ middle, middle = (stop - start) / 2 + 1 + start := ⟨_, rfl⟩
  obtain ⟨time, htime⟩ := (h.defined middle).mpr (by omega)
  rcases Nat.lt_or_ge time timestamp with hbefore | hafter
  · have hstrict : middle < stop := Brackets.lt ⟨⟨time, htime, hbefore⟩, hb.after⟩ h
    obtain ⟨nextTime, hnextTime⟩ := (h.defined (middle + 1)).mpr (by omega)
    rcases Nat.lt_or_ge nextTime timestamp with hearly | hfound
    · refine .inr ⟨middle + 1, stop, ⟨⟨nextTime, hnextTime, hearly⟩, hb.after⟩, by omega, fun _ ↦ ?_⟩
      rw [searchBefore_below horder.le hmiddle htime hbefore hnextTime, if_neg (not_le.mpr hearly)]
    · refine .inl fun _ ↦ ?_
      rw [searchBefore_below horder.le hmiddle htime hbefore hnextTime, if_pos hfound,
        settle_eq h htime hbefore (fun v hv ↦ ?_) hp]
      rw [hnextTime] at hv
      cases hv
      exact hfound
  · obtain ⟨previousTime, hpreviousTime⟩ := (h.defined (middle - 1)).mpr (by omega)
    rcases Nat.lt_or_ge previousTime timestamp with hfound | hlate
    · refine .inl fun _ ↦ ?_
      rw [searchBefore_above horder.le hmiddle htime hafter hpreviousTime, if_pos hfound,
        settle_eq h hpreviousTime hfound (fun v hv ↦ ?_) hp]
      rw [Nat.sub_add_cancel (by omega), htime] at hv
      cases hv
      exact hafter
    · refine .inr ⟨start, middle - 1, ⟨hb.before, ⟨previousTime, hpreviousTime, hlate⟩⟩, by omega,
        fun _ ↦ ?_⟩
      rw [searchBefore_above horder.le hmiddle htime hafter hpreviousTime, if_neg (not_lt.mpr hlate)]

theorem log_half {m n : ℕ} (hpositive : 0 < m) (hhalf : 2 * m ≤ n) :
    Nat.log 2 m + 1 ≤ Nat.log 2 n := by
  rw [← Nat.log_mul_base one_lt_two hpositive.ne', Nat.mul_comm]
  exact Nat.log_mono_right hhalf

/-- The bisection ends with the last report before the time, after at most one iteration more than the
logarithm of the distance between its indices. -/
theorem searchBefore_eq (h : ReportSeries o queryId) {start stop : ℕ} (iterations : ℕ) {p : Option ℕ}
    (hb : Brackets o queryId timestamp start stop)
    (hp : IsLastBelow (o.valid queryId) timestamp p) :
    ∃ n ≤ iterations + Nat.log 2 (stop - start) + 1, ∀ fuel, Nat.log 2 (stop - start) < fuel →
      o.searchBefore queryId timestamp fuel start stop iterations =
        some (p.bind (o.indexAt queryId), n) := by
  induction hspan : stop - start using Nat.strong_induction_on generalizing start stop iterations with
  | h span ih =>
    rcases searchBefore_step h iterations hb hp with hends | ⟨start', stop', hb', hhalf, hgoes⟩
    · refine ⟨iterations + 1, by omega, fun fuel hfuel ↦ ?_⟩
      obtain ⟨fuel, rfl⟩ := Nat.exists_eq_add_of_lt (Nat.zero_lt_of_lt hfuel)
      rw [Nat.zero_add, hends]
    · have hpositive : 0 < stop' - start' := Nat.sub_pos_of_lt (hb'.lt h)
      obtain ⟨n, hn, hsearch⟩ := ih (stop' - start') (by omega) (iterations + 1) hb' rfl
      have hlog : Nat.log 2 (stop' - start') + 1 ≤ Nat.log 2 span :=
        log_half hpositive (hspan ▸ hhalf)
      refine ⟨n, by omega, fun fuel hfuel ↦ ?_⟩
      obtain ⟨fuel, rfl⟩ := Nat.exists_eq_add_of_lt (Nat.zero_lt_of_lt hfuel)
      rw [Nat.zero_add] at hfuel ⊢
      rw [hgoes]
      exact hsearch fuel (by omega)

/-- The index found is that of the last report before the time that is not disputed. -/
theorem getIndexForDataBefore_eq (h : ReportSeries o queryId) {p : Option ℕ}
    (hp : IsLastBelow (o.valid queryId) timestamp p) :
    o.getIndexForDataBefore queryId timestamp = p.bind (o.indexAt queryId) := by
  have hlast := h.last
  unfold getIndexForDataBefore getIndexForDataBeforeWithStart
  cases hlrt : o.lastReportedTimestamp.lookup queryId with
  | none =>
    rw [hlrt] at hlast
    have hempty : o.valid queryId = ∅ := hlast
    have hnone : IsLastBelow (o.valid queryId) timestamp none := by
      rw [isLastBelow_none, hempty]
      exact fun _ hx ↦ absurd hx (Set.notMem_empty _)
    rw [hp.unique hnone]
    rfl
  | some lastReportedTimestamp =>
    rw [hlrt] at hlast
    obtain ⟨report, hreport, -⟩ := id hlast.1
    have hreportIndex := h.timestamp_at _ report hreport
    have hcount := h.index_lt_count hreport
    obtain ⟨time, htime⟩ := (h.defined 0).mpr (Nat.zero_lt_of_lt hcount)
    simp only [htime, hreport]
    split
    · next hnone =>
      have hbefore : IsLastBelow (o.valid queryId) timestamp none := by
        rw [isLastBelow_none]
        intro x hx
        obtain ⟨other, hother, -⟩ := hx
        rcases Nat.eq_zero_or_pos other.index with hzero | hpositive
        · have hxIndex := h.timestamp_at x other hother
          rw [hzero, htime] at hxIndex
          cases hxIndex
          exact hnone
        · exact hnone.trans
            (h.increasing _ _ _ _ htime (h.timestamp_at x other hother) hpositive).le
      rw [hp.unique hbefore]
      rfl
    · next hfirst =>
      split
      · next hafter =>
        have hfound : IsLastBelow (o.valid queryId) timestamp (some lastReportedTimestamp) :=
          isLastBelow_some.mpr ⟨hlast.1, hafter, fun x hx _ ↦ hlast.2 hx⟩
        rw [hp.unique hfound, Option.bind_some, indexAt, hreport]
        rfl
      · next hbefore =>
        have hb : Brackets o queryId timestamp 0 report.index :=
          ⟨⟨time, htime, not_le.mp hfirst⟩, ⟨lastReportedTimestamp, hreportIndex, not_lt.mp hbefore⟩⟩
        obtain ⟨n, -, hsearch⟩ := searchBefore_eq h 0 hb hp
        rw [hsearch (report.index + 1) (Nat.lt_succ_of_le (Nat.log_le_self 2 _))]
        rfl

/-- The data found is the value of the last report before the time that is not disputed. -/
theorem getDataBefore_eq (h : ReportSeries o queryId) {p : Option ℕ}
    (hp : IsLastBelow (o.valid queryId) timestamp p) :
    o.getDataBefore queryId timestamp =
      p.bind fun t ↦ (o.retrieveData queryId t).map (·, t) := by
  rw [getDataBefore, getIndexForDataBefore_eq h hp]
  cases p with
  | none => rfl
  | some t =>
    obtain ⟨report, hreport, -⟩ := (isLastBelow_some.mp hp).1
    rw [Option.bind_some, Option.bind_some, indexAt, hreport, Option.map_some, Option.bind_some,
      h.timestamp_at t report hreport, Option.bind_some]

end Oracle

end TellorPallet
