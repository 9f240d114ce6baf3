import TellorPallet.AutoPay.History

/-!
# The tip entries of a query

What `tip` and `claim_onetime_tip` keep true of the entries of one query: they are in time order, a
report separates each from the next, and the cumulative totals never exceed what was tipped. On such
a series the two bisections of `get_onetime_tip_amount` find the entries between two reports.
-/

namespace TellorPallet

open Outcome
open scoped BigOperators

variable {AccountId : Type} {cfg : Config AccountId}

/-! ## The bisection -/

/-- With enough fuel the bisection ends between two neighbours: the lower one is the lower end or
tested false, the upper one is the upper end or tested true. -/
theorem bisect_eq_ok {after : ℕ → Except DispatchError Bool} {fuel lower upper index : ℕ}
    (horder : lower < upper) (hfuel : upper - lower ≤ fuel + 1)
    (h : bisect after fuel lower upper = .ok index) :
    lower ≤ index ∧ index < upper ∧ (index = lower ∨ after index = .ok false) ∧
      (index + 1 = upper ∨ after (index + 1) = .ok true) := by
  induction fuel generalizing lower upper with
  | zero =>
    cases h
    exact ⟨le_rfl, horder, Or.inl rfl, Or.inl (by omega)⟩
  | succ fuel ih =>
    simp only [bisect, bind_eq_ok, okOr_eq_ok, Checked.sub_eq_some] at h
    obtain ⟨_, ⟨-, rfl⟩, h⟩ := h
    split at h
    · next hspan =>
      obtain ⟨middle, hmiddle⟩ : ∃ middle, middle = (upper + lower) / 2 := ⟨_, rfl⟩
      rw [← hmiddle] at h
      have hlower : lower < middle := by omega
      have hupper : middle < upper := by omega
      obtain ⟨side, hside, h⟩ := bind_eq_ok.mp h
      cases side with
      | true =>
        obtain ⟨hle, hlt, hbefore, hafter⟩ := ih hlower (by omega) h
        refine ⟨hle, hlt.trans hupper, hbefore, Or.inr ?_⟩
        rcases hafter with heq | htrue
        · rw [heq]
          exact hside
        · exact htrue
      | false =>
        obtain ⟨hle, hlt, hbefore, hafter⟩ := ih hupper (by omega) h
        refine ⟨hlower.le.trans hle, hlt, Or.inr ?_, hafter⟩
        rcases hbefore with heq | hfalse
        · rw [heq]
          exact hside
        · exact hfalse
    · next hspan =>
      cases h
      exact ⟨le_rfl, horder, Or.inl rfl, Or.inl (by omega)⟩

/-! ## The series -/

/-- The tip entries of a query are in order, and worth no more than was tipped. -/
structure TipSeries (o : Oracle AccountId) (now : ℕ) (a : AutoPay AccountId)
    (tipped : QueryId × ℕ → ℕ) (queryId : QueryId) : Prop where
  defined : ∀ i, (∃ entry, a.tips.lookup (queryId, i) = some entry) ↔ i < a.countTips queryId
  increasing : ∀ i j entry later, a.tips.lookup (queryId, i) = some entry →
    a.tips.lookup (queryId, j) = some later → i < j → entry.timestamp < later.timestamp
  time : ∀ i entry, a.tips.lookup (queryId, i) = some entry →
    0 < entry.timestamp ∧ entry.timestamp ≤ now + 1
  separated : ∀ i entry later, a.tips.lookup (queryId, i) = some entry →
    a.tips.lookup (queryId, i + 1) = some later →
    ∃ t report, o.reports.lookup (queryId, t) = some report ∧ entry.timestamp ≤ t ∧
      t < later.timestamp
  tipped_pos : ∀ i, i < a.countTips queryId → 0 < tipped (queryId, i)
  untipped : ∀ i, a.countTips queryId ≤ i → tipped (queryId, i) = 0
  amount_le : ∀ i entry, a.tips.lookup (queryId, i) = some entry →
    entry.amount ≤ tipped (queryId, i)
  cumulative_first : ∀ entry, a.tips.lookup (queryId, 0) = some entry →
    entry.cumulativeTips ≤ tipped (queryId, 0)
  cumulative_next : ∀ i entry later, a.tips.lookup (queryId, i) = some entry →
    a.tips.lookup (queryId, i + 1) = some later →
    later.cumulativeTips ≤ entry.cumulativeTips + tipped (queryId, i + 1)

namespace TipSeries

variable {o o' : Oracle AccountId} {now now' : ℕ} {a a' : AutoPay AccountId}
  {tipped tipped' : QueryId × ℕ → ℕ} {queryId : QueryId}

theorem timestamp_le (h : TipSeries o now a tipped queryId) {i j : ℕ} {entry later : Tip}
    (hi : a.tips.lookup (queryId, i) = some entry) (hj : a.tips.lookup (queryId, j) = some later)
    (hle : i ≤ j) : entry.timestamp ≤ later.timestamp := by
  rcases Nat.eq_or_lt_of_le hle with rfl | hlt
  · rw [hi] at hj
    cases hj
    exact le_rfl
  · exact (h.increasing i j entry later hi hj hlt).le

/-- A later total exceeds an earlier one by no more than was tipped in between. -/
theorem cumulative_le (h : TipSeries o now a tipped queryId) {first last : ℕ} {firstTip lastTip : Tip}
    (hfirst : a.tips.lookup (queryId, first) = some firstTip) (hle : first ≤ last)
    (hlast : a.tips.lookup (queryId, last) = some lastTip) :
    lastTip.cumulativeTips ≤
      firstTip.cumulativeTips + ∑ i ∈ Finset.Icc (first + 1) last, tipped (queryId, i) := by
  induction last, hle using Nat.le_induction generalizing lastTip with
  | base =>
    rw [hfirst] at hlast
    cases hlast
    exact Nat.le_add_right _ _
  | succ last hle ih =>
    have hcount := (h.defined (last + 1)).mp ⟨lastTip, hlast⟩
    obtain ⟨before, hbefore⟩ := (h.defined last).mpr (by omega)
    have hnext := h.cumulative_next last before lastTip hbefore hlast
    have hsum := ih hbefore
    rw [Finset.sum_Icc_succ_top (by omega)]
    omega

theorem cumulative_le_sum (h : TipSeries o now a tipped queryId) {last : ℕ} {lastTip : Tip}
    (hlast : a.tips.lookup (queryId, last) = some lastTip) :
    lastTip.cumulativeTips ≤ ∑ i ∈ Finset.Icc 0 last, tipped (queryId, i) := by
  have hcount := (h.defined last).mp ⟨lastTip, hlast⟩
  obtain ⟨firstTip, hfirst⟩ := (h.defined 0).mpr (by omega)
  have hle := h.cumulative_le hfirst (Nat.zero_le last) hlast
  have hzero := h.cumulative_first firstTip hfirst
  rw [← Finset.add_sum_Ioc_eq_sum_Icc (Nat.zero_le last)]
  exact hle.trans (Nat.add_le_add_right hzero _)

/-! ## What changes leave the series alone -/

/-- What a series depends on: its own entries, their history, and that reports are not lost. -/
theorem congr (h : TipSeries o now a tipped queryId) (hnow : now ≤ now')
    (hreports : ∀ t report, o.reports.lookup (queryId, t) = some report →
      ∃ report', o'.reports.lookup (queryId, t) = some report')
    (htips : ∀ i, a'.tips.lookup (queryId, i) = a.tips.lookup (queryId, i))
    (hcount : a'.countTips queryId = a.countTips queryId)
    (htipped : ∀ i, tipped' (queryId, i) = tipped (queryId, i)) :
    TipSeries o' now' a' tipped' queryId where
  defined i := by
    rw [htips, hcount]
    exact h.defined i
  increasing i j entry later := by
    rw [htips, htips]
    exact h.increasing i j entry later
  time i entry hentry := by
    rw [htips] at hentry
    have htime := h.time i entry hentry
    exact ⟨htime.1, htime.2.trans (Nat.add_le_add_right hnow 1)⟩
  separated i entry later hentry hlater := by
    rw [htips] at hentry hlater
    obtain ⟨t, report, hreport, hle, hlt⟩ := h.separated i entry later hentry hlater
    obtain ⟨report', hreport'⟩ := hreports t report hreport
    exact ⟨t, report', hreport', hle, hlt⟩
  tipped_pos i := by
    rw [hcount, htipped]
    exact h.tipped_pos i
  untipped i := by
    rw [hcount, htipped]
    exact h.untipped i
  amount_le i entry := by
    rw [htips, htipped]
    exact h.amount_le i entry
  cumulative_first entry := by
    rw [htips, htipped]
    exact h.cumulative_first entry
  cumulative_next i entry later := by
    rw [htips, htips, htipped]
    exact h.cumulative_next i entry later

/-! ## Changing and adding an entry -/

/-- An entry is replaced, `amount` more having been tipped into it: either nothing but what is left to
claim of it changes, or it is the last one. -/
theorem replace (h : TipSeries o now a tipped queryId) {index amount : ℕ} {entry entry' : Tip}
    (hentry : a.tips.lookup (queryId, index) = some entry)
    (htips : ∀ i, a'.tips.lookup (queryId, i) =
      if i = index then some entry' else a.tips.lookup (queryId, i))
    (hcount : a'.countTips queryId = a.countTips queryId)
    (htipped : ∀ i, tipped' (queryId, i) = tipped (queryId, i) + if i = index then amount else 0)
    (hlast : (entry'.timestamp = entry.timestamp ∧ entry'.cumulativeTips = entry.cumulativeTips) ∨
      index + 1 = a.countTips queryId)
    (hle : entry.timestamp ≤ entry'.timestamp) (hnow : entry'.timestamp ≤ now + 1)
    (hamount : entry'.amount ≤ entry.amount + amount)
    (hcumulative : entry'.cumulativeTips ≤ entry.cumulativeTips + amount) :
    TipSeries o now a' tipped' queryId := by
  -- the entry before the replacement, at every index
  have hbefore : ∀ i later, a'.tips.lookup (queryId, i) = some later →
      ∃ before, a.tips.lookup (queryId, i) = some before ∧ before.timestamp ≤ later.timestamp ∧
        later.timestamp ≤ now + 1 ∧
        later.amount ≤ before.amount + (if i = index then amount else 0) ∧
        later.cumulativeTips ≤ before.cumulativeTips + (if i = index then amount else 0) ∧
        ((later.timestamp = before.timestamp ∧ later.cumulativeTips = before.cumulativeTips) ∨
          i + 1 = a.countTips queryId) := by
    intro i later hlater
    rw [htips] at hlater
    split at hlater
    · next heq =>
      cases hlater
      rw [heq, if_pos rfl]
      exact ⟨entry, hentry, hle, hnow, hamount, hcumulative, hlast⟩
    · next hne =>
      rw [if_neg hne]
      exact ⟨later, hlater, le_rfl, (h.time i later hlater).2, Nat.le_add_right _ _,
        Nat.le_add_right _ _, Or.inl ⟨rfl, rfl⟩⟩
  refine ⟨fun i ↦ ?_, fun i j first later hi hj hlt ↦ ?_, fun i later hi ↦ ?_,
    fun i first later hi hj ↦ ?_, fun i hi ↦ ?_, fun i hi ↦ ?_, fun i later hi ↦ ?_,
    fun later hi ↦ ?_, fun i first later hi hj ↦ ?_⟩
  · rw [hcount, ← h.defined i, htips]
    split
    · next heq =>
      rw [heq]
      exact ⟨fun _ ↦ ⟨entry, hentry⟩, fun _ ↦ ⟨entry', rfl⟩⟩
    · rfl
  · obtain ⟨first₀, hfirst, -, -, -, -, hsame⟩ := hbefore i first hi
    obtain ⟨later₀, hlater, hup, -⟩ := hbefore j later hj
    have hcountj := (h.defined j).mp ⟨later₀, hlater⟩
    have horder := h.increasing i j first₀ later₀ hfirst hlater hlt
    rcases hsame with ⟨htime, -⟩ | hend
    · rw [htime]
      exact horder.trans_le hup
    · omega
  · obtain ⟨before, hlookup, hup, hlimit, -⟩ := hbefore i later hi
    exact ⟨(h.time i before hlookup).1.trans_le hup, hlimit⟩
  · obtain ⟨first₀, hfirst, -, -, -, -, hsame⟩ := hbefore i first hi
    obtain ⟨later₀, hlater, hup, -⟩ := hbefore (i + 1) later hj
    have hcountj := (h.defined (i + 1)).mp ⟨later₀, hlater⟩
    obtain ⟨t, report, hreport, ht, htlt⟩ := h.separated i first₀ later₀ hfirst hlater
    rcases hsame with ⟨htime, -⟩ | hend
    · exact ⟨t, report, hreport, htime ▸ ht, htlt.trans_le hup⟩
    · omega
  · rw [hcount] at hi
    rw [htipped]
    exact Nat.add_pos_left (h.tipped_pos i hi) _
  · rw [hcount] at hi
    have hindex := (h.defined index).mp ⟨entry, hentry⟩
    rw [htipped, h.untipped i hi, if_neg (by omega)]
  · obtain ⟨before, hlookup, -, -, hless, -⟩ := hbefore i later hi
    rw [htipped]
    exact hless.trans (Nat.add_le_add_right (h.amount_le i before hlookup) _)
  · obtain ⟨before, hlookup, -, -, -, hless, -⟩ := hbefore 0 later hi
    rw [htipped]
    exact hless.trans (Nat.add_le_add_right (h.cumulative_first before hlookup) _)
  · obtain ⟨first₀, hfirst, -, -, -, -, hsame⟩ := hbefore i first hi
    obtain ⟨later₀, hlater, -, -, -, hless, -⟩ := hbefore (i + 1) later hj
    have hcountj := (h.defined (i + 1)).mp ⟨later₀, hlater⟩
    have hnext := h.cumulative_next i first₀ later₀ hfirst hlater
    rw [htipped]
    rcases hsame with ⟨-, htotal⟩ | hend
    · rw [htotal]
      omega
    · omega

/-- An entry is added, with `amount` tipped into it, after a report for the entry before it. -/
theorem push (h : TipSeries o now a tipped queryId) {amount : ℕ} {entry : Tip}
    (htips : ∀ i, a'.tips.lookup (queryId, i) =
      if i = a.countTips queryId then some entry else a.tips.lookup (queryId, i))
    (hcount : a'.countTips queryId = a.countTips queryId + 1)
    (htipped : ∀ i, tipped' (queryId, i) =
      tipped (queryId, i) + if i = a.countTips queryId then amount else 0)
    (hpositive : 0 < amount) (htime : entry.timestamp = now + 1) (hamount : entry.amount ≤ amount)
    (hfirst : a.countTips queryId = 0 → entry.cumulativeTips ≤ amount)
    (hnext : ∀ i before, i + 1 = a.countTips queryId →
      a.tips.lookup (queryId, i) = some before →
      entry.cumulativeTips ≤ before.cumulativeTips + amount ∧
        ∃ t report, o.reports.lookup (queryId, t) = some report ∧ before.timestamp ≤ t ∧ t ≤ now) :
    TipSeries o now a' tipped' queryId := by
  have hold : ∀ i later, i ≠ a.countTips queryId → a'.tips.lookup (queryId, i) = some later →
      a.tips.lookup (queryId, i) = some later := by
    intro i later hne hlater
    rwa [htips, if_neg hne] at hlater
  have hnew : ∀ later, a'.tips.lookup (queryId, a.countTips queryId) = some later →
      later = entry := by
    intro later hlater
    rw [htips, if_pos rfl] at hlater
    exact (Option.some.inj hlater).symm
  have hcountLt : ∀ i later, a'.tips.lookup (queryId, i) = some later →
      i < a.countTips queryId ∨ i = a.countTips queryId := by
    intro i later hlater
    by_cases heq : i = a.countTips queryId
    · exact Or.inr heq
    · exact Or.inl ((h.defined i).mp ⟨later, hold i later heq hlater⟩)
  refine ⟨fun i ↦ ?_, fun i j before later hi hj hlt ↦ ?_, fun i later hi ↦ ?_,
    fun i before later hi hj ↦ ?_, fun i hi ↦ ?_, fun i hi ↦ ?_, fun i later hi ↦ ?_,
    fun later hi ↦ ?_, fun i before later hi hj ↦ ?_⟩
  · rw [hcount, htips]
    split
    · next heq => exact ⟨fun _ ↦ by omega, fun _ ↦ ⟨entry, rfl⟩⟩
    · next hne =>
      rw [h.defined i]
      omega
  · rcases hcountLt j later hj with hless | rfl
    · exact h.increasing i j before later (hold i before (by omega) hi) (hold j later hless.ne hj) hlt
    · -- every older entry is at or before the last report
      have hi₀ := hold i before (by omega) hi
      obtain ⟨last, hlast⟩ := (h.defined (a.countTips queryId - 1)).mpr (by omega)
      have hle := h.timestamp_le hi₀ hlast (by omega)
      obtain ⟨-, t, -, -, ht, htnow⟩ := hnext _ last (by omega) hlast
      rw [hnew later hj, htime]
      omega
  · rcases hcountLt i later hi with hless | rfl
    · exact h.time i later (hold i later hless.ne hi)
    · rw [hnew later hi, htime]
      exact ⟨Nat.succ_pos now, le_rfl⟩
  · rcases hcountLt (i + 1) later hj with hless | heq
    · exact h.separated i before later (hold i before (by omega) hi) (hold _ later hless.ne hj)
    · obtain ⟨-, t, report, hreport, ht, htnow⟩ := hnext i before heq (hold i before (by omega) hi)
      rw [heq] at hj
      rw [hnew later hj, htime]
      exact ⟨t, report, hreport, ht, Nat.lt_succ_of_le htnow⟩
  · rw [hcount] at hi
    rw [htipped]
    rcases Nat.lt_succ_iff_lt_or_eq.mp hi with hless | heq
    · exact Nat.add_pos_left (h.tipped_pos i hless) _
    · rw [if_pos heq]
      exact Nat.add_pos_right _ hpositive
  · rw [hcount] at hi
    rw [htipped, h.untipped i (by omega), if_neg (by omega)]
  · rw [htipped]
    rcases hcountLt i later hi with hless | rfl
    · exact (h.amount_le i later (hold i later hless.ne hi)).trans (Nat.le_add_right _ _)
    · rw [hnew later hi, if_pos rfl]
      exact hamount.trans (Nat.le_add_left _ _)
  · rw [htipped]
    rcases hcountLt 0 later hi with hless | heq
    · exact (h.cumulative_first later (hold 0 later hless.ne hi)).trans (Nat.le_add_right _ _)
    · rw [heq] at hi
      rw [hnew later hi, if_pos heq]
      exact (hfirst heq.symm).trans (Nat.le_add_left _ _)
  · rw [htipped]
    rcases hcountLt (i + 1) later hj with hless | heq
    · have hle := h.cumulative_next i before later (hold i before (by omega) hi)
        (hold _ later hless.ne hj)
      omega
    · have hle := (hnext i before heq (hold i before (by omega) hi)).1
      rw [heq] at hj
      rw [hnew later hj, if_pos heq]
      omega

end TipSeries

/-! ## Tips and claims -/

section Operations

variable {o : Oracle AccountId} {now : ℕ} {a a' : AutoPay AccountId}
  {tipped : QueryId × ℕ → ℕ} {queryId : QueryId}

theorem AutoPay.pushTip_count (entry : Tip) (q : QueryId) :
    (a.pushTip queryId entry).countTips q =
      if q = queryId then a.countTips queryId + 1 else a.countTips q := by
  rw [AutoPay.countTips, AutoPay.pushTip, FiniteMap.read_insert]
  rfl

/-- The history after a tip, at one entry. -/
theorem History.addTip_tipped (history : History) (entry other : QueryId × ℕ) (amount : ℕ) :
    (history.addTip entry amount).tipped other =
      history.tipped other + if other = entry then amount else 0 := by
  have hupdate : (history.addTip entry amount).tipped other =
      if other = entry then history.tipped entry + amount else history.tipped other :=
    Function.update_apply _ _ _ _
  rw [hupdate]
  split
  · next heq => rw [heq]
  · rfl

/-- Clearing an entry leaves the series in order. -/
theorem TipSeries.clearTip {index : ℕ} {entry : Tip} {q : QueryId}
    (hentry : a.tips.lookup (queryId, index) = some entry) (h : TipSeries o now a tipped q) :
    TipSeries o now (a.clearTip queryId index entry) tipped q := by
  by_cases hq : q = queryId
  · subst hq
    have htime := h.time index entry hentry
    have htipped : ∀ i, tipped (q, i) = tipped (q, i) + if i = index then 0 else 0 := by
      intro i
      rw [ite_self, Nat.add_zero]
    exact h.replace hentry (FiniteMap.lookup_insert_snd _ _ _ _) rfl htipped (Or.inl ⟨rfl, rfl⟩) le_rfl
      htime.2 (Nat.zero_le _) le_rfl
  · exact h.congr le_rfl (fun t report hreport ↦ ⟨report, hreport⟩)
      (FiniteMap.lookup_insert_of_fst_ne _ hq _ _) rfl fun _ ↦ rfl

/-- A tip leaves the series of its query in order. -/
theorem TipAdded.tipSeries {history : History} {lastReported : Option ℕ} {amount : ℕ}
    (h : TipAdded cfg a lastReported now queryId amount a') (hpositive : 0 < amount)
    (hreported : ∀ t, lastReported = some t →
      t ≤ now ∧ ∃ report, o.reports.lookup (queryId, t) = some report)
    (hseries : TipSeries o now a history.tipped queryId) :
    TipSeries o now a' (history.addTip (queryId, a'.countTips queryId - 1) amount).tipped queryId := by
  have htipped : ∀ n, a'.countTips queryId - 1 = n → ∀ i,
      (history.addTip (queryId, a'.countTips queryId - 1) amount).tipped (queryId, i) =
        history.tipped (queryId, i) + if i = n then amount else 0 := by
    intro n hn i
    rw [History.addTip_tipped, hn]
    simp only [Prod.mk.injEq, true_and]
  have hpushed : ∀ entry, (a.pushTip queryId entry).countTips queryId = a.countTips queryId + 1 :=
    fun entry ↦ by rw [AutoPay.pushTip_count, if_pos rfl]
  have htips : ∀ entry i, (a.pushTip queryId entry).tips.lookup (queryId, i) =
      if i = a.countTips queryId then some entry else a.tips.lookup (queryId, i) :=
    fun entry ↦ FiniteMap.lookup_insert_snd _ _ _ entry
  cases h with
  | first hcount =>
    refine hseries.push (htips _) (hpushed _) (htipped _ ?_) hpositive rfl le_rfl (fun _ ↦ le_rfl)
      fun i before hi ↦ ?_
    · rw [hpushed]
      rfl
    · omega
  | missing hcount hlast =>
    obtain ⟨entry, hentry⟩ := (hseries.defined (a.countTips queryId - 1)).mpr (by omega)
    rw [hlast] at hentry
    cases hentry
  | merge hcount hlast hopen =>
    have htime := hseries.time _ _ hlast
    exact hseries.replace hlast (FiniteMap.lookup_insert_snd _ _ _ _) rfl (htipped _ rfl)
      (Or.inr (by omega)) htime.2 le_rfl (Saturating.add_le _ _ _) (Saturating.add_le _ _ _)
  | @next lastTip hcount hlast hclosed hbound =>
    refine hseries.push (htips _) (hpushed _) (htipped _ ?_) hpositive rfl le_rfl
      (fun hzero ↦ absurd hzero hcount.ne') fun i before hi hbefore ↦ ?_
    · rw [hpushed]
      rfl
    · rw [show i = a.countTips queryId - 1 by omega, hlast] at hbefore
      cases hbefore
      refine ⟨le_rfl, ?_⟩
      -- an entry is only closed by a report
      have htime := (hseries.time _ _ hlast).1
      cases hlrt : lastReported with
      | none =>
        rw [hlrt, Option.getD_none] at hclosed
        omega
      | some t =>
        rw [hlrt, Option.getD_some] at hclosed
        obtain ⟨hnow, report, hreport⟩ := hreported t hlrt
        exact ⟨t, report, hreport, hclosed, hnow⟩

theorem TipAdded.lookup_other {lastReported : Option ℕ} {amount : ℕ} {q : QueryId}
    (h : TipAdded cfg a lastReported now queryId amount a') (hq : q ≠ queryId) (i : ℕ) :
    a'.tips.lookup (q, i) = a.tips.lookup (q, i) := by
  cases h <;> exact FiniteMap.lookup_insert_of_fst_ne _ hq _ _ _

theorem TipAdded.count_other {lastReported : Option ℕ} {amount : ℕ} {q : QueryId}
    (h : TipAdded cfg a lastReported now queryId amount a') (hq : q ≠ queryId) :
    a'.countTips q = a.countTips q := by
  cases h with
  | merge hcount hlast hopen => rfl
  | _ => rw [AutoPay.pushTip_count, if_neg hq]

/-- A tip leaves the series of other queries alone. -/
theorem TipAdded.tipSeries_other {history : History} {lastReported : Option ℕ} {amount : ℕ}
    {q : QueryId} (h : TipAdded cfg a lastReported now queryId amount a') (hq : q ≠ queryId)
    (hseries : TipSeries o now a history.tipped q) :
    TipSeries o now a' (history.addTip (queryId, a'.countTips queryId - 1) amount).tipped q := by
  refine hseries.congr le_rfl (fun t report hreport ↦ ⟨report, hreport⟩) (h.lookup_other hq)
    (h.count_other hq) fun i ↦ ?_
  rw [History.addTip_tipped, if_neg fun heq ↦ hq (Prod.mk.inj heq).1, Nat.add_zero]

/-- What was tipped into the entries of a query up to an index, after one more tip for it. -/
theorem History.sum_addTip (history : History) (queryId : QueryId) (index amount last : ℕ) :
    ∑ j ∈ Finset.range (last + 1), (history.addTip (queryId, index) amount).tipped (queryId, j) =
      ∑ j ∈ Finset.range (last + 1), history.tipped (queryId, j) +
        if index ≤ last then amount else 0 := by
  simp only [History.addTip_tipped, Prod.mk.injEq, true_and, Finset.sum_add_distrib,
    Finset.sum_ite_eq', Finset.mem_range, Nat.lt_succ_iff]

/-- A tip adds to the total of its query. -/
theorem TipAdded.sum_tipped {history : History} {lastReported : Option ℕ} {amount : ℕ}
    (h : TipAdded cfg a lastReported now queryId amount a')
    (hseries : TipSeries o now a history.tipped queryId) :
    ∑ j ∈ Finset.range (a'.countTips queryId),
        (history.addTip (queryId, a'.countTips queryId - 1) amount).tipped (queryId, j) =
      ∑ j ∈ Finset.range (a.countTips queryId), history.tipped (queryId, j) + amount := by
  have huntipped := hseries.untipped _ le_rfl
  cases h with
  | @merge lastTip hcount hlast hopen =>
    have hsame : (a.mergeTip cfg queryId lastTip amount (now + 1)).countTips queryId =
        a.countTips queryId - 1 + 1 := (Nat.sub_add_cancel hcount).symm
    rw [hsame, Nat.add_sub_cancel, History.sum_addTip, if_pos le_rfl, Nat.sub_add_cancel hcount]
  | _ =>
    rw [AutoPay.pushTip_count, if_pos rfl, Nat.add_sub_cancel, History.sum_addTip, if_pos le_rfl,
      Finset.sum_range_succ, huntipped, Nat.add_zero]

/-- A tip whose total the balance type can hold keeps the cumulative totals exact. -/
theorem TipAdded.cumulative_eq_sum {history : History} {lastReported : Option ℕ} {amount : ℕ}
    (h : TipAdded cfg a lastReported now queryId amount a')
    (hseries : TipSeries o now a history.tipped queryId)
    (hbound : ∑ j ∈ Finset.range (a.countTips queryId), history.tipped (queryId, j) + amount ≤
      cfg.balanceMax)
    (htotal : ∀ i entry, a.tips.lookup (queryId, i) = some entry →
      entry.cumulativeTips = ∑ j ∈ Finset.range (i + 1), history.tipped (queryId, j))
    (i : ℕ) (entry : Tip) (hentry : a'.tips.lookup (queryId, i) = some entry) :
    entry.cumulativeTips = ∑ j ∈ Finset.range (i + 1),
      (history.addTip (queryId, a'.countTips queryId - 1) amount).tipped (queryId, j) := by
  have huntipped := hseries.untipped _ le_rfl
  have hpushed : ∀ entry, (a.pushTip queryId entry).countTips queryId - 1 = a.countTips queryId :=
    fun entry ↦ by rw [AutoPay.pushTip_count, if_pos rfl, Nat.add_sub_cancel]
  have hold : ∀ i later, a.tips.lookup (queryId, i) = some later → i < a.countTips queryId :=
    fun i later hlater ↦ (hseries.defined i).mp ⟨later, hlater⟩
  cases h with
  | first hcount =>
    rw [AutoPay.pushTip, FiniteMap.lookup_insert_snd] at hentry
    rw [hpushed, History.sum_addTip]
    split at hentry
    · next heq =>
      cases hentry
      rw [heq, hcount, if_pos le_rfl, Finset.sum_range_one]
      rw [hcount] at huntipped
      rw [huntipped, Nat.zero_add]
    · have hi := hold i entry hentry
      rw [if_neg (by omega), Nat.add_zero]
      exact htotal i entry hentry
  | missing hcount hlast =>
    obtain ⟨lastTip, hlastTip⟩ := (hseries.defined (a.countTips queryId - 1)).mpr (by omega)
    rw [hlast] at hlastTip
    cases hlastTip
  | @merge lastTip hcount hlast hopen =>
    have hsame : (a.mergeTip cfg queryId lastTip amount (now + 1)).countTips queryId =
        a.countTips queryId := rfl
    rw [AutoPay.mergeTip, FiniteMap.lookup_insert_snd] at hentry
    rw [hsame, History.sum_addTip]
    split at hentry
    · next heq =>
      cases hentry
      have hbefore := htotal _ lastTip hlast
      rw [Nat.sub_add_cancel hcount] at hbefore
      rw [heq, if_pos le_rfl, Nat.sub_add_cancel hcount, ← hbefore]
      rw [← hbefore] at hbound
      exact Saturating.add_eq hbound
    · have hi := hold i entry hentry
      rw [if_neg (by omega), Nat.add_zero]
      exact htotal i entry hentry
  | @next lastTip hcount hlast hclosed hfits =>
    rw [AutoPay.pushTip, FiniteMap.lookup_insert_snd] at hentry
    rw [hpushed, History.sum_addTip]
    split at hentry
    · next heq =>
      cases hentry
      have hbefore := htotal _ lastTip hlast
      rw [Nat.sub_add_cancel hcount] at hbefore
      rw [heq, if_pos le_rfl, Finset.sum_range_succ, huntipped, ← hbefore]
      rfl
    · have hi := hold i entry hentry
      rw [if_neg (by omega), Nat.add_zero]
      exact htotal i entry hentry

end Operations

end TellorPallet
