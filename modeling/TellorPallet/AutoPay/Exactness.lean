import TellorPallet.AutoPay.Payments

/-!
# What a one-time tip pays

While no tip of a query is claimed, its entries hold what was tipped into them and their cumulative
totals add it up. A claim then pays exactly the entries between the valid report before and the
report, with one exception: the search for the first of them starts behind the very first entry of
the query, so that this entry is left out when a second one goes with it.
-/

namespace TellorPallet

open Outcome Transition Predecessor
open scoped BigOperators

variable {AccountId : Type}

/-! ## The entries between two reports -/

/-- The entries newer than the previous report, if there is one, and not newer than the report. -/
def AutoPay.tipsIn (a : AutoPay AccountId) (queryId : QueryId) (previous : Option ℕ) (timestamp : ℕ) :
    Finset ℕ :=
  (Finset.range (a.countTips queryId)).filter fun i ↦
    ∃ entry ∈ a.tips.lookup (queryId, i),
      (∀ p ∈ previous, p < entry.timestamp) ∧ entry.timestamp ≤ timestamp

/-- The first two entries of the query both lie between the previous report and the report. -/
def AutoPay.FirstTwoIn (a : AutoPay AccountId) (queryId : QueryId) (previous : Option ℕ)
    (timestamp : ℕ) : Prop :=
  ∃ p ∈ previous, ∃ first ∈ a.tips.lookup (queryId, 0), ∃ next ∈ a.tips.lookup (queryId, 1),
    p < first.timestamp ∧ next.timestamp ≤ timestamp

instance (a : AutoPay AccountId) (queryId : QueryId) (previous : Option ℕ) (timestamp : ℕ) :
    Decidable (a.FirstTwoIn queryId previous timestamp) :=
  inferInstanceAs (Decidable (∃ p ∈ previous, _))

theorem AutoPay.mem_tipsIn {a : AutoPay AccountId} {queryId : QueryId} {previous : Option ℕ}
    {timestamp i : ℕ} : i ∈ a.tipsIn queryId previous timestamp ↔ i < a.countTips queryId ∧
      ∃ entry, a.tips.lookup (queryId, i) = some entry ∧
        (∀ p, previous = some p → p < entry.timestamp) ∧ entry.timestamp ≤ timestamp := by
  simp only [AutoPay.tipsIn, Finset.mem_filter, Finset.mem_range, Option.mem_def]

section Claims

variable {cfg : Config AccountId} {o : Oracle AccountId} {now : ℕ} {a a' : AutoPay AccountId}
  {tipped : QueryId × ℕ → ℕ} {queryId : QueryId} {timestamp : ℕ} {claimer : AccountId}
  {report : Report AccountId} {last amount : ℕ} {lastTip : Tip}

/-- With exact entries, the amount is what was tipped into the entries it is made of. -/
theorem AmountOf.eq_sum {first : ℕ} (h : AmountOf a queryId first last lastTip amount)
    (hle : first ≤ last) (hlastTip : a.tips.lookup (queryId, last) = some lastTip)
    (hamount : ∀ i entry, a.tips.lookup (queryId, i) = some entry → entry.amount = tipped (queryId, i))
    (htotal : ∀ i entry, a.tips.lookup (queryId, i) = some entry →
      entry.cumulativeTips = ∑ j ∈ Finset.range (i + 1), tipped (queryId, j)) :
    amount = ∑ i ∈ Finset.Icc first last, tipped (queryId, i) := by
  cases h with
  | all hfirst =>
    rw [htotal last lastTip hlastTip, hfirst, Finset.range_eq_Ico]
    rfl
  | last hfirst =>
    rw [hfirst, Finset.Icc_self, Finset.sum_singleton]
    exact hamount last lastTip hlastTip
  | between hlt hfirst =>
    have hsplit := Finset.sum_range_add_sum_Ico (fun i ↦ tipped (queryId, i))
      (show first + 1 ≤ last + 1 by omega)
    have hhead := Finset.add_sum_Ioc_eq_sum_Icc (f := fun i ↦ tipped (queryId, i)) hle
    have hsame : Finset.Ico (first + 1) (last + 1) = Finset.Ioc first last := by
      ext i
      simp only [Finset.mem_Ico, Finset.mem_Ioc]
      omega
    rw [hsame] at hsplit
    rw [htotal last lastTip hlastTip, htotal first _ hfirst, hamount first _ hfirst]
    omega

/-- An entry between the two reports is among those a tip is made of, unless it is the very first one
and the search starts behind it. -/
theorem OnetimeTip.paidFrom_le_of_previous_lt
    (h : OnetimeTip o now a queryId timestamp claimer report last lastTip a')
    (hamount : OnetimeTipAmount cfg o a' queryId report last lastTip amount)
    (hreports : o.ReportSeries queryId)
    (hpositive : ∀ t report, o.reports.lookup (queryId, t) = some report → 0 < t)
    (hseries : TipSeries o now a tipped queryId) {i : ℕ} {entry : Tip}
    (hentry : a.tips.lookup (queryId, i) = some entry) (hi : i ≤ last)
    (hnewer : ∀ p, report.previous = some p → p < entry.timestamp) :
    paidFrom o a' queryId report last ≤ i ∨ (i = 0 ∧ 0 < last ∧ ∃ p, report.previous = some p) := by
  -- the report found at the previous timestamp is the previous valid report
  have hprevious : ∀ before, o.reports.lookup (queryId, report.previous.getD 0) = some before →
      ∃ p, report.previous = some p := by
    intro before hbefore
    cases hp : report.previous with
    | none =>
      rw [hp] at hbefore
      exact absurd (hpositive _ before hbefore) (lt_irrefl 0)
    | some p => exact ⟨p, rfl⟩
  have hsearch : ∀ {p first}, report.previous = some p →
      a'.firstTipAfter queryId (report.previous.getD 0) last = .ok first → i < first → first ≤ last →
        i = 0 ∧ 0 < last := by
    intro p first hp hfound hlt hfirst
    have hlast : 0 < last := by omega
    obtain ⟨-, -, hbefore, -⟩ := AutoPay.firstTipAfter_eq_ok hlast hfound
    rcases hbefore with hone | ⟨older, holder, hle⟩
    · exact ⟨by omega, hlast⟩
    · rw [h.lookup, if_neg (by omega)] at holder
      have horder := hseries.timestamp_le hentry holder (by omega)
      have hlt' := hnewer p hp
      rw [hp, Option.getD_some] at hle
      omega
  cases hamount with
  | all hbefore =>
    left
    simp only [paidFrom, hbefore, Option.map_none, Nat.zero_le]
  | @adjacent before hbefore horder hgap =>
    left
    simp only [paidFrom, hbefore, Option.map_some, if_neg (not_lt.mpr hgap)]
    by_contra hlt
    obtain ⟨p, hp⟩ := hprevious before hbefore
    -- a report separates the entry from the next one, and lies between the two adjacent reports
    have hcount := (hseries.defined last).mp ⟨lastTip, h.lastTip_eq⟩
    obtain ⟨later, hlater⟩ := (hseries.defined (i + 1)).mpr (by omega)
    obtain ⟨t, between, hbetween, hafter, hearlier⟩ := hseries.separated i entry later hentry hlater
    have hlaterLe := (h.timestamp_le_iff hseries hlater).mpr (by omega)
    have hnewer' := hnewer p hp
    rw [hp, Option.getD_some] at hbefore
    have hfirst := (hreports.index_lt_iff hbefore hbetween).mpr (by omega)
    have hsecond := (hreports.index_lt_iff hbetween h.report_eq).mpr (by omega)
    omega
  | @single before first hbefore horder hgap hfound hlast =>
    obtain ⟨p, hp⟩ := hprevious before hbefore
    simp only [paidFrom, hbefore, Option.map_some, if_pos hgap, hfound, min_eq_right hlast]
    rcases Nat.eq_or_lt_of_le hi with heq | hlt
    · exact Or.inl heq.ge
    · obtain ⟨-, hfirst, -⟩ := AutoPay.firstTipAfter_eq_ok (by omega) hfound
      obtain ⟨hzero, hpos⟩ := hsearch hp hfound (by omega) hfirst
      exact Or.inr ⟨hzero, hpos, p, hp⟩
  | @between before first _ hbefore horder hgap hfound hlast hsum =>
    obtain ⟨p, hp⟩ := hprevious before hbefore
    simp only [paidFrom, hbefore, Option.map_some, if_pos hgap, hfound, min_eq_left hlast.le]
    by_cases hle : first ≤ i
    · exact Or.inl hle
    · obtain ⟨hzero, hpos⟩ := hsearch hp hfound (not_le.mp hle) hlast.le
      exact Or.inr ⟨hzero, hpos, p, hp⟩

/-- After a previous valid report, the very first entry is not among those a tip of several entries is
made of. -/
theorem OnetimeTip.paidFrom_pos
    (h : OnetimeTip o now a queryId timestamp claimer report last lastTip a')
    (hamount : OnetimeTipAmount cfg o a' queryId report last lastTip amount)
    (hreports : o.ReportSeries queryId) {p : ℕ} (hp : report.previous = some p) (hlast : 0 < last) :
    0 < paidFrom o a' queryId report last := by
  cases hamount with
  | all hbefore =>
    have hprevious := hreports.previous timestamp report h.report_eq
    rw [hp] at hprevious
    obtain ⟨other, hother, -⟩ := (isLastBelow_some.mp hprevious).1
    rw [hp, Option.getD_some, hother] at hbefore
    cases hbefore
  | adjacent hbefore horder hgap =>
    simpa only [paidFrom, hbefore, Option.map_some, if_neg (not_lt.mpr hgap)] using hlast
  | single hbefore horder hgap hfound hle =>
    simpa only [paidFrom, hbefore, Option.map_some, if_pos hgap, hfound, min_eq_right hle] using hlast
  | between hbefore horder hgap hfound hlt hsum =>
    have hfirst := (AutoPay.firstTipAfter_eq_ok hlast hfound).1
    simp only [paidFrom, hbefore, Option.map_some, if_pos hgap, hfound, min_eq_left hlt.le]
    omega

/-- With exact entries, a tip is what was tipped between the two reports exactly when the first two
entries of the query do not both lie there. -/
theorem OnetimeTip.eq_sum_iff
    (h : OnetimeTip o now a queryId timestamp claimer report last lastTip a')
    (hamount : OnetimeTipAmount cfg o a' queryId report last lastTip amount)
    (hreports : o.ReportSeries queryId)
    (hpositive : ∀ t report, o.reports.lookup (queryId, t) = some report → 0 < t)
    (hseries : TipSeries o now a tipped queryId)
    (hexact : ∀ i entry, a.tips.lookup (queryId, i) = some entry →
      entry.amount = tipped (queryId, i) ∧
        entry.cumulativeTips = ∑ j ∈ Finset.range (i + 1), tipped (queryId, j)) :
    amount = ∑ i ∈ a.tipsIn queryId report.previous timestamp, tipped (queryId, i) ↔
      ¬a.FirstTwoIn queryId report.previous timestamp := by
  obtain ⟨hle, hof⟩ := h.amountOf hamount
  have hcount := (hseries.defined last).mp ⟨lastTip, h.lastTip_eq⟩
  have hsum := hof.eq_sum hle h.lastTip_eq (fun i entry hentry ↦ (hexact i entry hentry).1)
    fun i entry hentry ↦ (hexact i entry hentry).2
  have hsub : Finset.Icc (paidFrom o a' queryId report last) last ⊆
      a.tipsIn queryId report.previous timestamp := by
    intro i hi
    obtain ⟨hfirst, hlast⟩ := Finset.mem_Icc.mp hi
    obtain ⟨entry, hentry⟩ := (hseries.defined i).mpr (by omega)
    refine AutoPay.mem_tipsIn.mpr ⟨by omega, entry, hentry, fun p hp ↦ ?_, ?_⟩
    · exact h.previous_lt_of_paidFrom_le hamount hreports hseries hp hentry hfirst
    · exact (h.timestamp_le_iff hseries hentry).mpr hlast
  rw [hsum]
  constructor
  · rintro heq ⟨p, hp, first, hfirst, next, hnext, hnewer, hearlier⟩
    have hlast := (h.timestamp_le_iff hseries hnext).mp hearlier
    have hfrom := h.paidFrom_pos hamount hreports hp (by omega)
    have hzero : 0 ∈ a.tipsIn queryId report.previous timestamp := by
      refine AutoPay.mem_tipsIn.mpr ⟨by omega, first, hfirst, fun p' hp' ↦ ?_, ?_⟩
      · rw [hp] at hp'
        cases hp'
        exact hnewer
      · exact (h.timestamp_le_iff hseries hfirst).mpr (Nat.zero_le _)
    have hout : 0 ∉ Finset.Icc (paidFrom o a' queryId report last) last :=
      fun hmem ↦ absurd (Finset.mem_Icc.mp hmem).1 (not_le.mpr hfrom)
    have hlt := Finset.sum_lt_sum_of_subset (f := fun i ↦ tipped (queryId, i)) hsub hzero hout
      (hseries.tipped_pos 0 (by omega)) fun _ _ _ ↦ Nat.zero_le _
    exact absurd heq hlt.ne
  · intro hnot
    have hsame : a.tipsIn queryId report.previous timestamp ⊆
        Finset.Icc (paidFrom o a' queryId report last) last := by
      intro i hi
      obtain ⟨-, entry, hentry, hnewer, hearlier⟩ := AutoPay.mem_tipsIn.mp hi
      have hlast := (h.timestamp_le_iff hseries hentry).mp hearlier
      rcases h.paidFrom_le_of_previous_lt hamount hreports hpositive hseries hentry hlast hnewer with
        hfirst | ⟨rfl, hpos, p, hp⟩
      · exact Finset.mem_Icc.mpr ⟨hfirst, hlast⟩
      · obtain ⟨next, hnext⟩ := (hseries.defined 1).mpr (by omega)
        exact absurd ⟨p, hp, entry, hentry, next, hnext, hnewer p hp,
          (h.timestamp_le_iff hseries hnext).mpr hpos⟩ hnot
    rw [Finset.Subset.antisymm hsub hsame]

end Claims

/-! ## Runs without claims -/

variable [DecidableEq AccountId] {cfg : Config AccountId}

/-- The input is a claim of one-time tips of the query. -/
def Input.claimsTipsOf (queryId : QueryId) : Input AccountId → Bool
  | .extrinsic _ _ (.claimOnetimeTip q _) => decide (q = queryId)
  | _ => false

variable (cfg) in
/-- The inputs of the runs in which no one-time tip of the query is claimed. -/
def Unclaimed (queryId : QueryId) (s : State AccountId) (input : Input AccountId) : Prop :=
  Admissible cfg s input ∧ input.claimsTipsOf queryId = false

instance (queryId : QueryId) (s : State AccountId) (input : Input AccountId) :
    Decidable (Unclaimed cfg queryId s input) :=
  inferInstanceAs (Decidable (_ ∧ _))

/-- No entry of the query is paid out yet, and the cumulative totals add up what was tipped. -/
structure ExactTips (cfg : Config AccountId) (queryId : QueryId) (s : State AccountId)
    (history : History) : Prop where
  payments : Payments cfg s history
  unpaid : ∀ i, (queryId, i) ∉ history.paid
  total : ∀ i entry, s.autoPay.tips.lookup (queryId, i) = some entry →
    entry.cumulativeTips = ∑ j ∈ Finset.range (i + 1), history.tipped (queryId, j)

section Steps

variable {s s' : State AccountId} {history history' : History} {queryId : QueryId}

omit [DecidableEq AccountId] in
theorem ExactTips.exact (h : ExactTips cfg queryId s history) (i : ℕ) (entry : Tip)
    (hentry : s.autoPay.tips.lookup (queryId, i) = some entry) :
    entry.amount = history.tipped (queryId, i) ∧
      entry.cumulativeTips = ∑ j ∈ Finset.range (i + 1), history.tipped (queryId, j) :=
  ⟨h.payments.tips.unpaid queryId i entry hentry (h.unpaid i), h.total i entry hentry⟩

omit [DecidableEq AccountId] in
/-- What was tipped for the query is still in the tips account. -/
theorem ExactTips.sum_le (h : ExactTips cfg queryId s history) :
    ∑ j ∈ Finset.range (s.autoPay.countTips queryId), history.tipped (queryId, j) ≤
      s.ledger cfg.tips := by
  have himage : ∑ entry ∈ (Finset.range (s.autoPay.countTips queryId)).image (queryId, ·),
      history.tipped entry =
        ∑ j ∈ Finset.range (s.autoPay.countTips queryId), history.tipped (queryId, j) :=
    Finset.sum_image fun i _ j _ heq ↦ (Prod.mk.inj heq).2
  have hunpaid : ∑ entry ∈ (Finset.range (s.autoPay.countTips queryId)).image (queryId, ·),
      history.tipped entry ≤ unpaidTips s.autoPay history.paid := by
    refine FiniteMap.sum_le_total fun entry hmem ↦ ?_
    obtain ⟨i, hi, rfl⟩ := Finset.mem_image.mp hmem
    obtain ⟨tip, htip⟩ := ((h.payments.tips.series queryId).defined i).mpr (Finset.mem_range.mp hi)
    refine ⟨tip, htip, ?_⟩
    rw [if_neg (h.unpaid i), (h.exact i tip htip).1]
  have hcovered := h.payments.covered
  omega

/-- A claim of one-time tips touches no entry of another query. -/
theorem claimTimestamps_other {o : Oracle AccountId} {now : ℕ} {a a' : AutoPay AccountId}
    {q : QueryId} {reporter : AccountId} {timestamps : List ℕ} {reward reward' : ℕ}
    (hq : queryId ≠ q)
    (h : claimTimestamps cfg o now q reporter timestamps (reward, a) = .ok (reward', a')) :
    (∀ i, a'.tips.lookup (queryId, i) = a.tips.lookup (queryId, i)) ∧
      ∀ i, (queryId, i) ∉ (claimPayouts cfg o now q reporter timestamps a).map Prod.fst := by
  induction timestamps generalizing reward a with
  | nil =>
    cases h
    exact ⟨fun _ ↦ rfl, fun _ ↦ List.not_mem_nil⟩
  | cons timestamp rest ih =>
    simp only [claimTimestamps, bind_eq_ok] at h
    obtain ⟨⟨amount, a₁⟩, hcomputed, hrest⟩ := h
    obtain ⟨report, last, lastTip, htip, -⟩ := getOnetimeTipAmount_eq_ok hcomputed
    obtain ⟨hlookup, hnot⟩ := ih hrest
    refine ⟨fun i ↦ ?_, fun i ↦ ?_⟩
    · rw [hlookup, htip.autoPay_eq]
      exact FiniteMap.lookup_insert_of_fst_ne _ hq _ _ _
    · rw [claimPayouts, hcomputed, List.map_append, List.mem_append, htip.payoutsAt_eq,
        mem_paid_payoutsBetween]
      rintro (⟨heq, -⟩ | hlater)
      · exact hq heq
      · exact hnot i hlater

/-- The totals stay exact while no tip of the query is claimed. -/
theorem HistoryStep.exactTips {input : Input AccountId} (hunclaimed : input.claimsTipsOf queryId = false)
    (h : HistoryStep cfg s history input s' history') (hinv : ExactTips cfg queryId s history) :
    ExactTips cfg queryId s' history' := by
  refine ⟨h.payments hinv.payments, fun i ↦ ?_, fun i entry hentry ↦ ?_⟩
  · cases h with
    | @onetimeClaimed send reporter q timestamps _ a _ _ h =>
      have hq : queryId ≠ q := fun heq ↦ of_decide_eq_false hunclaimed heq.symm
      rw [History.addPayouts_paid, List.mem_append]
      rintro (hbefore | hnew)
      · exact hinv.unpaid i hbefore
      · exact (claimTimestamps_other hq h.claimed).2 i hnew
    | _ => exact hinv.unpaid i
  · cases h with
    | kept hseries h =>
      rw [h.tips_eq] at hentry
      exact hinv.total i entry hentry
    | @tipped send tipper q amount queryData a _ hsigner h =>
      have htips : s'.autoPay.tips = a.tips := (congrArg AutoPay.tips h.autoPay_eq :)
      have hcount : s'.autoPay.countTips q = a.countTips q := by
        rw [AutoPay.countTips, (congrArg AutoPay.tipCount h.autoPay_eq :), AutoPay.countTips]
      rw [htips] at hentry
      rw [hcount]
      by_cases hq : queryId = q
      · subst hq
        obtain ⟨⟨-, hfits, -⟩, -⟩ := (transfer_eq_ok cfg).mp h.transferred
        exact h.added.cumulative_eq_sum (hinv.payments.tips.series queryId)
          ((Nat.add_le_add_right hinv.sum_le amount).trans (hfits.resolve_left hsigner)) hinv.total i
          entry hentry
      · have hsame : ∀ j, (history.addTip (q, a.countTips q - 1) amount).tipped (queryId, j) =
            history.tipped (queryId, j) := by
          intro j
          rw [History.addTip_tipped, if_neg fun heq ↦ hq (Prod.mk.inj heq).1, Nat.add_zero]
        simp only [hsame]
        rw [h.added.lookup_other hq] at hentry
        exact hinv.total i entry hentry
    | @onetimeClaimed send reporter q timestamps _ a s₁ _ h =>
      have hq : queryId ≠ q := fun heq ↦ of_decide_eq_false hunclaimed heq.symm
      have htips : s'.autoPay.tips = a.tips := by
        rw [h.state_eq, (congrArg State.autoPay (payReward_frame h.paid) :)]
      rw [htips, (claimTimestamps_other hq h.claimed).1] at hentry
      exact hinv.total i entry hentry
    | @feedClaimed send reporter feedId q timestamps feed reward a s₁ _ h =>
      have htips : s'.autoPay.tips = s.autoPay.tips := by
        rw [h.state_eq, (congrArg State.autoPay (payReward_frame h.paid) :),
          (claimFeedTimestamps_eq_ok (Nat.zero_le _) h.claimed).2.1]
      rw [htips] at hentry
      exact hinv.total i entry hentry

theorem RecordedBy.exactTips (h : RecordedBy cfg (Unclaimed cfg queryId) s history) :
    ExactTips cfg queryId s history :=
  h.invariant cfg (ExactTips cfg queryId)
    (fun _ hgenesis ↦ ⟨payments_genesis hgenesis, fun _ ↦ List.not_mem_nil, fun i entry hentry ↦ by
      obtain ⟨ledger, blockNumber, now, -, rfl⟩ := hgenesis
      simp [State.genesis] at hentry⟩)
    fun _ _ _ hinv hadmits ↦ (step_history hadmits.1).exactTips hadmits.2 hinv

/-- In every state reached without a claim for the query, a one-time tip for a report is what was
tipped into the entries between the previous valid report and the report, exactly when the first two
entries of the query do not both lie there. -/
theorem onetimeTip_eq_sum_iff (h : RecordedBy cfg (Unclaimed cfg queryId) s history)
    {timestamp amount : ℕ} {claimer : AccountId} {a' : AutoPay AccountId} {previous : Option ℕ}
    (hprevious : IsLastBelow (s.oracle.valid queryId) timestamp previous)
    (htip : getOnetimeTipAmount cfg s.oracle s.now s.autoPay queryId timestamp claimer =
      .ok (amount, a')) :
    amount = ∑ i ∈ s.autoPay.tipsIn queryId previous timestamp, history.tipped (queryId, i) ↔
      ¬s.autoPay.FirstTwoIn queryId previous timestamp := by
  have hinv := h.exactTips
  have hreports := hinv.payments.reports
  obtain ⟨report, last, lastTip, hfound, hamount⟩ := getOnetimeTipAmount_eq_ok htip
  rw [hprevious.unique ((hreports.series queryId).previous timestamp report hfound.report_eq)]
  exact hfound.eq_sum_iff hamount (hreports.series queryId)
    (fun t other hother ↦ (hreports.time queryId t other hother).1)
    (hinv.payments.tips.series queryId) hinv.exact

end Steps

/-! ## The mock runtime -/

omit [DecidableEq AccountId] in
/-- The report that a stored report names as the previous one is the previous valid report. -/
theorem Oracle.ReportSeries.isLastBelow {o : Oracle AccountId} {queryId : QueryId} {timestamp : ℕ}
    {previous : Option ℕ} (h : o.ReportSeries queryId)
    (hprevious : (o.reports.lookup (queryId, timestamp)).map Report.previous = some previous) :
    IsLastBelow (o.valid queryId) timestamp previous := by
  obtain ⟨report, hreport, rfl⟩ := Option.map_eq_some_iff.mp hprevious
  exact h.previous timestamp report hreport

/-- The first two tips of the query are both made after the first report: the claim for the third one,
after the second was disputed, pays 200 of the 300 tipped in between. -/
theorem onetimeTip_ne_sum :
    let c := Mock.recorded (Mock.tipsBetween [])
    RecordedBy Mock.config (Unclaimed Mock.config Mock.queryId) c.1 c.2 ∧
      IsLastBelow (c.1.oracle.valid Mock.queryId) (Mock.start + 20) (some (Mock.start + 5)) ∧
      (∃ a', getOnetimeTipAmount Mock.config c.1.oracle c.1.now c.1.autoPay Mock.queryId
        (Mock.start + 20) 9 = .ok (200, a')) ∧
      ∑ i ∈ c.1.autoPay.tipsIn Mock.queryId (some (Mock.start + 5)) (Mock.start + 20),
        c.2.tipped (Mock.queryId, i) = 300 := by
  have hrecorded : RecordedBy Mock.config (Unclaimed Mock.config Mock.queryId) _ _ :=
    Mock.recordedBy_recorded (Mock.tipsBetween []) (by decide +kernel)
  have hpaid : (getOnetimeTipAmount Mock.config (Mock.recorded (Mock.tipsBetween [])).1.oracle
      (Mock.recorded (Mock.tipsBetween [])).1.now (Mock.recorded (Mock.tipsBetween [])).1.autoPay
      Mock.queryId (Mock.start + 20) 9).map Prod.fst = .ok 200 := by decide +kernel
  obtain ⟨⟨amount, a'⟩, hpaid, rfl⟩ := map_eq_ok.mp hpaid
  refine ⟨hrecorded, ?_, ⟨a', hpaid⟩, by decide +kernel⟩
  exact (hrecorded.exactTips.payments.reports.series Mock.queryId).isLastBelow (by decide +kernel)

/-- With another tip before the first report, the claim for the third report pays all 300. -/
theorem onetimeTip_eq_sum_iff_tipsBetween :
    300 = ∑ i ∈ (Mock.recorded (Mock.tipsBetween [Mock.block 4, Mock.tip 5 50])).1.autoPay.tipsIn
        Mock.queryId (some (Mock.start + 5)) (Mock.start + 20),
      (Mock.recorded (Mock.tipsBetween [Mock.block 4, Mock.tip 5 50])).2.tipped (Mock.queryId, i) := by
  obtain ⟨c, hc⟩ : ∃ c, c = Mock.recorded (Mock.tipsBetween [Mock.block 4, Mock.tip 5 50]) := ⟨_, rfl⟩
  have hrecorded : RecordedBy Mock.config (Unclaimed Mock.config Mock.queryId) c.1 c.2 := by
    rw [hc]
    exact Mock.recordedBy_recorded _ (by decide +kernel)
  have hprevious : (c.1.oracle.reports.lookup (Mock.queryId, Mock.start + 20)).map Report.previous =
      some (some (Mock.start + 5)) := by
    rw [hc]
    decide +kernel
  have hpaid : (getOnetimeTipAmount Mock.config c.1.oracle c.1.now c.1.autoPay Mock.queryId
      (Mock.start + 20) 9).map Prod.fst = .ok 300 := by
    rw [hc]
    decide +kernel
  have hapart : ¬c.1.autoPay.FirstTwoIn Mock.queryId (some (Mock.start + 5)) (Mock.start + 20) := by
    rw [hc]
    decide +kernel
  obtain ⟨⟨amount, a'⟩, hpaid, rfl⟩ := map_eq_ok.mp hpaid
  rw [← hc]
  exact (onetimeTip_eq_sum_iff hrecorded
    ((hrecorded.exactTips.payments.reports.series Mock.queryId).isLastBelow hprevious) hpaid).mpr hapart

end TellorPallet
