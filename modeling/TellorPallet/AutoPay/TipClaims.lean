import TellorPallet.AutoPay.TipSeries

/-!
# What a one-time tip is made of

The amount of a one-time tip is read off the entries from a first to a last one: the cumulative total
of the last, its own amount, or a difference of totals. The last entry is the last at or before the
report; all of them are newer than the valid report before it.
-/

namespace TellorPallet

open Outcome Predecessor
open scoped BigOperators

variable {AccountId : Type} {cfg : Config AccountId}

/-- The second bisection: the entry found is newer than the time, or the last one, and the one before
it is not, or the very first one. -/
theorem AutoPay.firstTipAfter_eq_ok {a : AutoPay AccountId} {queryId : QueryId}
    {timestampBefore last first : ℕ} (hlast : 0 < last)
    (h : a.firstTipAfter queryId timestampBefore last = .ok first) :
    1 ≤ first ∧ first ≤ last ∧
      (first = 1 ∨ ∃ entry, a.tips.lookup (queryId, first - 1) = some entry ∧
        entry.timestamp ≤ timestampBefore) ∧
      (first = last ∨ ∃ entry, a.tips.lookup (queryId, first) = some entry ∧
        timestampBefore < entry.timestamp) := by
  obtain ⟨index, hindex, h⟩ := bind_eq_ok.mp h
  cases h
  obtain ⟨-, hlt, hbefore, hafter⟩ := bisect_eq_ok hlast (by omega) hindex
  refine ⟨by omega, hlt, ?_, ?_⟩
  · rcases hbefore with heq | hfalse
    · exact Or.inl (by omega)
    · simp only [bind_eq_ok, okOr_eq_ok, Except.ok.injEq, decide_eq_false_iff_not, not_lt] at hfalse
      exact Or.inr hfalse
  · rcases hafter with heq | htrue
    · exact Or.inl heq
    · simp only [bind_eq_ok, okOr_eq_ok, Except.ok.injEq, decide_eq_true_eq] at htrue
      exact Or.inr htrue

/-- The amount of a one-time tip, in terms of the entries from `first` to `last`. -/
inductive AmountOf (a : AutoPay AccountId) (queryId : QueryId) (first last : ℕ) (lastTip : Tip) :
    ℕ → Prop where
  | all (hfirst : first = 0) : AmountOf a queryId first last lastTip lastTip.cumulativeTips
  | last (hfirst : first = last) : AmountOf a queryId first last lastTip lastTip.amount
  | between {firstTip : Tip} (hlt : first < last)
      (hfirst : a.tips.lookup (queryId, first) = some firstTip) :
      AmountOf a queryId first last lastTip
        (lastTip.cumulativeTips - firstTip.cumulativeTips + firstTip.amount)

section Claims

variable {o : Oracle AccountId} {now : ℕ} {a a' : AutoPay AccountId} {tipped : QueryId × ℕ → ℕ}
  {queryId : QueryId} {timestamp : ℕ} {claimer : AccountId} {report : Report AccountId}
  {last amount : ℕ} {lastTip : Tip}

/-- Entries other than the last are found as they were. -/
theorem OnetimeTip.lookup (h : OnetimeTip o now a queryId timestamp claimer report last lastTip a')
    (i : ℕ) : a'.tips.lookup (queryId, i) =
      if i = last then some { lastTip with amount := 0 } else a.tips.lookup (queryId, i) := by
  rw [h.autoPay_eq]
  exact FiniteMap.lookup_insert_snd _ _ _ _ _

/-- The last entry is the last one at or before the report. -/
theorem OnetimeTip.timestamp_le_iff
    (h : OnetimeTip o now a queryId timestamp claimer report last lastTip a')
    (hseries : TipSeries o now a tipped queryId) {i : ℕ} {entry : Tip}
    (hentry : a.tips.lookup (queryId, i) = some entry) : entry.timestamp ≤ timestamp ↔ i ≤ last := by
  constructor
  · intro hle
    by_contra hgt
    have hcount := (hseries.defined i).mp ⟨entry, hentry⟩
    obtain ⟨-, -, -, hafter⟩ := bisect_eq_ok h.tips_pos (by omega) h.last_eq
    rcases hafter with heq | htrue
    · omega
    · obtain ⟨next, hnext⟩ := (hseries.defined (last + 1)).mpr (by omega)
      have hearlier := hseries.timestamp_le hnext hentry (by omega)
      have hnewer : timestamp < next.timestamp := by simpa [hnext] using htrue
      omega
  · intro hle
    exact (hseries.timestamp_le hentry h.lastTip_eq hle).trans h.lastTip_le

/-- How the amount comes from the entries it is made of. -/
theorem OnetimeTip.amountOf (h : OnetimeTip o now a queryId timestamp claimer report last lastTip a')
    (hamount : OnetimeTipAmount cfg o a' queryId report last lastTip amount) :
    paidFrom o a' queryId report last ≤ last ∧
      AmountOf a queryId (paidFrom o a' queryId report last) last lastTip amount := by
  cases hamount with
  | all hbefore =>
    have hfirst : paidFrom o a' queryId report last = 0 := by
      simp only [paidFrom, hbefore, Option.map_none]
    rw [hfirst]
    exact ⟨Nat.zero_le _, .all rfl⟩
  | adjacent hbefore horder hgap =>
    have hfirst : paidFrom o a' queryId report last = last := by
      simp only [paidFrom, hbefore, Option.map_some, if_neg (not_lt.mpr hgap)]
    rw [hfirst]
    exact ⟨le_rfl, .last rfl⟩
  | single hbefore horder hgap hfound hlast =>
    have hfirst : paidFrom o a' queryId report last = last := by
      simp only [paidFrom, hbefore, Option.map_some, if_pos hgap, hfound, min_eq_right hlast]
    rw [hfirst]
    exact ⟨le_rfl, .last rfl⟩
  | @between before first _ hbefore horder hgap hfound hlast hsum =>
    have hfirst : paidFrom o a' queryId report last = first := by
      simp only [paidFrom, hbefore, Option.map_some, if_pos hgap, hfound, min_eq_left hlast.le]
    simp only [AutoPay.tipsBetween, bind_eq_ok, okOr_eq_ok, Checked.sub_eq_some,
      Checked.add_eq_some] at hsum
    obtain ⟨lastTip', hlastTip', firstTip, hfirstTip, _, ⟨-, rfl⟩, -, rfl⟩ := hsum
    rw [h.lookup, if_pos rfl] at hlastTip'
    cases hlastTip'
    rw [h.lookup, if_neg hlast.ne] at hfirstTip
    rw [hfirst]
    exact ⟨hlast.le, .between hlast hfirstTip⟩

/-- The amount is at most what was tipped into the entries it is made of. -/
theorem AmountOf.le_sum {first : ℕ} (h : AmountOf a queryId first last lastTip amount)
    (hle : first ≤ last) (hseries : TipSeries o now a tipped queryId)
    (hlastTip : a.tips.lookup (queryId, last) = some lastTip) :
    amount ≤ ∑ i ∈ Finset.Icc first last, tipped (queryId, i) := by
  cases h with
  | all hfirst =>
    rw [hfirst]
    exact hseries.cumulative_le_sum hlastTip
  | last hfirst =>
    rw [hfirst, Finset.Icc_self, Finset.sum_singleton]
    exact hseries.amount_le last lastTip hlastTip
  | between hlt hfirst =>
    have hcumulative := hseries.cumulative_le hfirst hle hlastTip
    have hamount := hseries.amount_le first _ hfirst
    have hsplit := Finset.add_sum_Ioc_eq_sum_Icc (f := fun i ↦ tipped (queryId, i)) hle
    rw [← Finset.Icc_add_one_left_eq_Ioc] at hsplit
    omega

/-- The entries a tip is made of are newer than the valid report before it. -/
theorem OnetimeTip.previous_lt_of_paidFrom_le
    (h : OnetimeTip o now a queryId timestamp claimer report last lastTip a')
    (hamount : OnetimeTipAmount cfg o a' queryId report last lastTip amount)
    (hreports : o.ReportSeries queryId) (hseries : TipSeries o now a tipped queryId) {p i : ℕ}
    {entry : Tip} (hp : report.previous = some p)
    (hentry : a.tips.lookup (queryId, i) = some entry)
    (hle : paidFrom o a' queryId report last ≤ i) : p < entry.timestamp := by
  have hlt := h.previous_lt
  rw [hp, Option.getD_some] at hlt
  have hlater : last ≤ i → p < entry.timestamp :=
    fun hle ↦ hlt.trans_le (hseries.timestamp_le h.lastTip_eq hentry hle)
  cases hamount with
  | all hbefore =>
    rw [hp, Option.getD_some] at hbefore
    have hprevious := hreports.previous timestamp report h.report_eq
    rw [hp] at hprevious
    obtain ⟨other, hother, -⟩ := (isLastBelow_some.mp hprevious).1
    rw [hbefore] at hother
    cases hother
  | adjacent hbefore horder hgap =>
    simp only [paidFrom, hbefore, Option.map_some, if_neg (not_lt.mpr hgap)] at hle
    exact hlater hle
  | single hbefore horder hgap hfound hlast =>
    simp only [paidFrom, hbefore, Option.map_some, if_pos hgap, hfound, min_eq_right hlast] at hle
    exact hlater hle
  | between hbefore horder hgap hfound hlast hsum =>
    simp only [paidFrom, hbefore, Option.map_some, if_pos hgap, hfound, min_eq_left hlast.le] at hle
    obtain ⟨-, -, -, hafter⟩ := AutoPay.firstTipAfter_eq_ok (by omega) hfound
    rcases hafter with heq | ⟨firstTip, hfirst, hnewer⟩
    · omega
    · rw [h.lookup, if_neg hlast.ne] at hfirst
      rw [hp, Option.getD_some] at hnewer
      exact hnewer.trans_le (hseries.timestamp_le hfirst hentry hle)

end Claims

end TellorPallet
