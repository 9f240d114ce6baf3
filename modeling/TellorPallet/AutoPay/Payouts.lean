import TellorPallet.AutoPay.TipClaims
import TellorPallet.Oracle.Finality

/-!
# No tip is paid out twice

A claim clears only the last of the entries it pays for. The entries paid to a report lie between the
valid report before it and the report itself; as a claimed report is final, so is that interval, and
the intervals of two claimed reports are disjoint. A second claim for the same report finds the last
entry cleared.
-/

namespace TellorPallet

open Outcome Predecessor
open scoped BigOperators

variable {AccountId : Type} {cfg : Config AccountId}

/-- What is known of an entry that was paid out to a report: it lies between the report and the valid
report before it, and the last entry at or before the report is cleared. -/
structure PaidOut (o : Oracle AccountId) (now : ℕ) (a : AutoPay AccountId) (queryId : QueryId)
    (index timestamp : ℕ) : Prop where
  settled : Settled o now queryId timestamp
  entry : ∃ entry, a.tips.lookup (queryId, index) = some entry ∧ entry.timestamp ≤ timestamp ∧
    ∀ p, IsLastBelow (o.valid queryId) timestamp (some p) → p < entry.timestamp
  cleared : ∃ j last, a.tips.lookup (queryId, j) = some last ∧ last.amount = 0 ∧
    last.timestamp ≤ timestamp ∧
    ∀ k later, a.tips.lookup (queryId, k) = some later → later.timestamp ≤ timestamp → k ≤ j

/-- The tips and their history: the entries are in order, no entry was paid out twice, and an entry
that was not paid out still holds what was tipped into it. -/
structure TipsInvariant (o : Oracle AccountId) (now : ℕ) (a : AutoPay AccountId) (history : History) :
    Prop where
  series : ∀ q, TipSeries o now a history.tipped q
  paidOut : ∀ q i t, ((q, i), t) ∈ history.payouts → PaidOut o now a q i t
  nodup : history.paid.Nodup
  unpaid : ∀ q i entry, a.tips.lookup (q, i) = some entry → (q, i) ∉ history.paid →
    entry.amount = history.tipped (q, i)

/-- The amounts of all tip entries not yet paid out. -/
def unpaidTips (a : AutoPay AccountId) (paid : List (QueryId × ℕ)) : ℕ :=
  FiniteMap.total a.tips fun entry tip ↦ if entry ∈ paid then 0 else tip.amount

theorem mem_payoutsBetween {queryId q : QueryId} {first last timestamp i t : ℕ} :
    ((q, i), t) ∈ payoutsBetween queryId first last timestamp ↔
      q = queryId ∧ first ≤ i ∧ i ≤ last ∧ t = timestamp := by
  simp only [payoutsBetween, List.mem_map, List.mem_range'_1, Prod.mk.injEq]
  constructor
  · rintro ⟨index, hindex, ⟨rfl, rfl⟩, rfl⟩
    exact ⟨rfl, by omega, by omega, rfl⟩
  · rintro ⟨rfl, hfirst, hlast, rfl⟩
    exact ⟨i, by omega, ⟨rfl, rfl⟩, rfl⟩

theorem mem_paid_payoutsBetween {queryId q : QueryId} {first last timestamp i : ℕ} :
    (q, i) ∈ (payoutsBetween queryId first last timestamp).map Prod.fst ↔
      q = queryId ∧ first ≤ i ∧ i ≤ last := by
  simp only [List.mem_map, Prod.exists, exists_and_right, exists_eq_right]
  constructor
  · rintro ⟨t, ht⟩
    obtain ⟨hq, hfirst, hlast, -⟩ := mem_payoutsBetween.mp ht
    exact ⟨hq, hfirst, hlast⟩
  · rintro ⟨hq, hfirst, hlast⟩
    exact ⟨timestamp, mem_payoutsBetween.mpr ⟨hq, hfirst, hlast, rfl⟩⟩

theorem nodup_payoutsBetween {queryId : QueryId} {first last timestamp : ℕ} :
    ((payoutsBetween queryId first last timestamp).map Prod.fst).Nodup := by
  rw [payoutsBetween, List.map_map]
  refine List.Nodup.map (fun i j heq ↦ ?_) List.nodup_range'
  exact (Prod.mk.inj heq).2

/-- The amounts tipped into the entries of a range, as a sum over its payouts. -/
theorem sum_payoutsBetween (tipped : QueryId × ℕ → ℕ) (queryId : QueryId) (first last timestamp : ℕ) :
    ((payoutsBetween queryId first last timestamp).map fun payout ↦ tipped payout.1).sum =
      ∑ i ∈ Finset.Icc first last, tipped (queryId, i) := by
  have hrange : (List.range' first (last + 1 - first)).toFinset = Finset.Icc first last := by
    ext i
    simp only [List.mem_toFinset, List.mem_range'_1, Finset.mem_Icc]
    omega
  rw [payoutsBetween, List.map_map, ← hrange, List.sum_toFinset _ List.nodup_range']
  rfl

theorem History.addPayouts_paid (history : History) (payouts : List ((QueryId × ℕ) × ℕ)) :
    (history.addPayouts payouts).paid = history.paid ++ payouts.map Prod.fst :=
  List.map_append

section OneTip

variable {o : Oracle AccountId} {now : ℕ} {a a' : AutoPay AccountId} {history : History}
  {queryId : QueryId} {timestamp : ℕ} {claimer : AccountId} {report : Report AccountId}
  {last amount : ℕ} {lastTip : Tip}

theorem OnetimeTip.settled (h : OnetimeTip o now a queryId timestamp claimer report last lastTip a') :
    Settled o now queryId timestamp := by
  have hbuffer : 12 * hours < now - timestamp := h.buffer_passed
  have hlock : reportingLock = 12 * hours := rfl
  exact ⟨by omega, report, h.report_eq, h.valid⟩

theorem OnetimeTip.payoutsAt_eq
    (h : OnetimeTip o now a queryId timestamp claimer report last lastTip a') :
    payoutsAt o a a' queryId timestamp =
      payoutsBetween queryId (paidFrom o a' queryId report last) last timestamp := by
  rw [payoutsAt, h.report_eq, h.last_eq]

/-- No entry that a tip is made of was paid out before. -/
theorem OnetimeTip.not_paid (h : OnetimeTip o now a queryId timestamp claimer report last lastTip a')
    (hamount : OnetimeTipAmount cfg o a' queryId report last lastTip amount)
    (hreports : o.ReportSeries queryId) (hinv : TipsInvariant o now a history) {i : ℕ}
    (hfirst : paidFrom o a' queryId report last ≤ i) (hlast : i ≤ last) :
    (queryId, i) ∉ history.paid := by
  have hseries := hinv.series queryId
  have hprevious := hreports.previous timestamp report h.report_eq
  have hvalid := h.settled.2
  intro hpaid
  obtain ⟨⟨⟨q, j⟩, t⟩, hmem, heq⟩ := List.mem_map.mp hpaid
  cases heq
  obtain ⟨⟨-, htvalid⟩, ⟨entry, hentry, hle, hafter⟩, ⟨j, cleared, hj, hzero, hjle, hmax⟩⟩ :=
    hinv.paidOut queryId i t hmem
  rcases lt_trichotomy t timestamp with hless | rfl | hgreater
  · -- the earlier report is at or before the valid report before this one
    cases hp : report.previous with
    | none =>
      rw [hp] at hprevious
      exact absurd hless (not_lt.mpr (isLastBelow_none.mp hprevious t htvalid))
    | some p =>
      have hnewer := h.previous_lt_of_paidFrom_le hamount hreports hseries hp hentry hfirst
      rw [hp] at hprevious
      have htp := (isLastBelow_some.mp hprevious).2.2 t htvalid hless
      omega
  · -- the last entry of this report was cleared
    have hlastj := hmax last lastTip h.lastTip_eq h.lastTip_le
    have hjlast := (h.timestamp_le_iff hseries hj).mp hjle
    rw [le_antisymm hjlast hlastj, h.lastTip_eq] at hj
    cases hj
    exact absurd hzero h.unclaimed.ne'
  · -- this report is at or before the valid report before the later one
    obtain ⟨p, hp⟩ := exists_isLastBelow (o.valid queryId) t
    cases p with
    | none => exact absurd hgreater (not_lt.mpr (isLastBelow_none.mp hp timestamp hvalid))
    | some p =>
      have hnewer := hafter p hp
      have htp := (isLastBelow_some.mp hp).2.2 timestamp hvalid hgreater
      have hentryLe := (h.timestamp_le_iff hseries hentry).mpr hlast
      omega

/-- Paying a tip out keeps the history in order. -/
theorem OnetimeTip.tipsInvariant
    (h : OnetimeTip o now a queryId timestamp claimer report last lastTip a')
    (hamount : OnetimeTipAmount cfg o a' queryId report last lastTip amount)
    (hreports : o.ReportSeries queryId) (hinv : TipsInvariant o now a history) :
    TipsInvariant o now a' (history.addPayouts (payoutsAt o a a' queryId timestamp)) := by
  have hseries := hinv.series queryId
  have hle := (h.amountOf hamount).1
  -- an entry is what it was, except that the last one may be cleared
  have hkept : ∀ q i entry, a.tips.lookup (q, i) = some entry → ∃ entry',
      a'.tips.lookup (q, i) = some entry' ∧ entry'.timestamp = entry.timestamp ∧
        (entry' = entry ∨ ((q, i) = (queryId, last) ∧ entry'.amount = 0)) := by
    intro q i entry hentry
    rw [h.autoPay_eq, AutoPay.clearTip, FiniteMap.lookup_insert_ite]
    split
    · next heq =>
      rw [heq, h.lastTip_eq] at hentry
      cases hentry
      exact ⟨_, rfl, rfl, Or.inr ⟨heq, rfl⟩⟩
    · exact ⟨entry, hentry, rfl, Or.inl rfl⟩
  have hsame : ∀ q i later, a'.tips.lookup (q, i) = some later → ∃ entry,
      a.tips.lookup (q, i) = some entry ∧ later.timestamp = entry.timestamp := by
    intro q i later hlater
    rw [h.autoPay_eq, AutoPay.clearTip, FiniteMap.lookup_insert_ite] at hlater
    split at hlater
    · next heq =>
      cases hlater
      rw [heq]
      exact ⟨lastTip, h.lastTip_eq, rfl⟩
    · exact ⟨later, hlater, rfl⟩
  have hpaid : (history.addPayouts (payoutsAt o a a' queryId timestamp)).paid =
      history.paid ++
        (payoutsBetween queryId (paidFrom o a' queryId report last) last timestamp).map Prod.fst := by
    rw [h.payoutsAt_eq, History.addPayouts_paid]
  refine ⟨fun q ↦ ?_, fun q i t hmem ↦ ?_, ?_, fun q i entry hentry hnot ↦ ?_⟩
  · rw [h.autoPay_eq]
    exact TipSeries.clearTip h.lastTip_eq (hinv.series q)
  · rw [h.payoutsAt_eq] at hmem
    rcases List.mem_append.mp hmem with hold | hnew
    · obtain ⟨hsettled, ⟨entry, hentry, hbefore, hafter⟩, j, cleared, hj, hzero, hjle, hmax⟩ :=
        hinv.paidOut q i t hold
      refine ⟨hsettled, ?_, ?_⟩
      · obtain ⟨entry', hentry', htime, -⟩ := hkept q i entry hentry
        exact ⟨entry', hentry', htime ▸ hbefore, htime ▸ hafter⟩
      · obtain ⟨cleared', hcleared', htime, hcases⟩ := hkept q j cleared hj
        refine ⟨j, cleared', hcleared', ?_, htime ▸ hjle, fun k later hk hkle ↦ ?_⟩
        · rcases hcases with rfl | ⟨-, hzero'⟩
          · exact hzero
          · exact hzero'
        · obtain ⟨later₀, hlater₀, htime'⟩ := hsame q k later hk
          exact hmax k later₀ hlater₀ (htime' ▸ hkle)
    · obtain ⟨rfl, hfirst, hlast, rfl⟩ := mem_payoutsBetween.mp hnew
      have hcount := (hseries.defined last).mp ⟨lastTip, h.lastTip_eq⟩
      obtain ⟨entry, hentry⟩ := (hseries.defined i).mpr (by omega)
      obtain ⟨entry', hentry', htime, -⟩ := hkept q i entry hentry
      refine ⟨h.settled, ⟨entry', hentry', ?_, fun p hp ↦ ?_⟩, ?_⟩
      · rw [htime]
        exact (h.timestamp_le_iff hseries hentry).mpr hlast
      · rw [htime]
        have hprevious := (hreports.previous t report h.report_eq).unique hp
        exact h.previous_lt_of_paidFrom_le hamount hreports hseries hprevious hentry hfirst
      · refine ⟨last, { lastTip with amount := 0 }, ?_, rfl, h.lastTip_le, fun k later hk hkle ↦ ?_⟩
        · rw [h.lookup, if_pos rfl]
        · obtain ⟨later₀, hlater₀, htime'⟩ := hsame q k later hk
          exact (h.timestamp_le_iff hseries hlater₀).mp (htime' ▸ hkle)
  · rw [hpaid]
    refine List.nodup_append.mpr ⟨hinv.nodup, nodup_payoutsBetween, ?_⟩
    rintro ⟨q, i⟩ hold ⟨q', i'⟩ hnew heq
    cases heq
    obtain ⟨rfl, hfirst, hlast⟩ := mem_paid_payoutsBetween.mp hnew
    exact h.not_paid hamount hreports hinv hfirst hlast hold
  · rw [hpaid, List.mem_append, not_or] at hnot
    rw [h.autoPay_eq, AutoPay.clearTip, FiniteMap.lookup_insert_ite] at hentry
    split at hentry
    · next heq =>
      obtain ⟨rfl, rfl⟩ := Prod.mk.inj heq
      exact absurd (mem_paid_payoutsBetween.mpr ⟨rfl, hle, le_rfl⟩) hnot.2
    · exact hinv.unpaid q i entry hentry hnot.1

/-- The amount comes out of the tips not paid out before. -/
theorem OnetimeTip.add_unpaidTips_le
    (h : OnetimeTip o now a queryId timestamp claimer report last lastTip a')
    (hamount : OnetimeTipAmount cfg o a' queryId report last lastTip amount)
    (hreports : o.ReportSeries queryId) (hinv : TipsInvariant o now a history) :
    amount + unpaidTips a' (history.addPayouts (payoutsAt o a a' queryId timestamp)).paid ≤
      unpaidTips a history.paid := by
  have hseries := hinv.series queryId
  obtain ⟨hle, hof⟩ := h.amountOf hamount
  have hsum := hof.le_sum hle hseries h.lastTip_eq
  have hcount := (hseries.defined last).mp ⟨lastTip, h.lastTip_eq⟩
  obtain ⟨S, hS⟩ : ∃ S : Finset (QueryId × ℕ),
      S = (Finset.Icc (paidFrom o a' queryId report last) last).image (queryId, ·) := ⟨_, rfl⟩
  have hmemS : ∀ q i, (q, i) ∈ S ↔
      q = queryId ∧ paidFrom o a' queryId report last ≤ i ∧ i ≤ last := by
    intro q i
    rw [hS]
    simp only [Finset.mem_image, Finset.mem_Icc, Prod.mk.injEq]
    constructor
    · rintro ⟨j, hj, rfl, rfl⟩
      exact ⟨rfl, hj⟩
    · rintro ⟨rfl, hi⟩
      exact ⟨i, hi, rfl, rfl⟩
  have hkeys : a'.tips.keys = a.tips.keys := by
    rw [h.autoPay_eq, AutoPay.clearTip, FiniteMap.keys_insert]
    exact Finset.insert_eq_of_mem (FiniteMap.mem_keys_of_lookup h.lastTip_eq)
  have hsub : S ⊆ a.tips.keys := by
    rintro ⟨q, i⟩ hmem
    obtain ⟨rfl, -, hi⟩ := (hmemS q i).mp hmem
    obtain ⟨entry, hentry⟩ := (hseries.defined i).mpr (by omega)
    exact FiniteMap.mem_keys_of_lookup hentry
  have htotal : unpaidTips a' (history.addPayouts (payoutsAt o a a' queryId timestamp)).paid +
      ∑ entry ∈ S, history.tipped entry = unpaidTips a history.paid := by
    refine FiniteMap.total_add_sum hkeys hsub fun ⟨q, i⟩ hmem ↦ ?_
    have hpaid : (q, i) ∈ (history.addPayouts (payoutsAt o a a' queryId timestamp)).paid ↔
        (q, i) ∈ history.paid ∨ (q, i) ∈ S := by
      rw [hmemS, h.payoutsAt_eq, History.addPayouts_paid, List.mem_append, mem_paid_payoutsBetween]
    by_cases hi : (q, i) ∈ S
    · obtain ⟨rfl, hfirst, hlast⟩ := (hmemS q i).mp hi
      obtain ⟨entry, hentry⟩ := (hseries.defined i).mpr (by omega)
      have hnot := h.not_paid hamount hreports hinv hfirst hlast
      have hzero : (a'.tips.lookup (q, i)).elim 0 (fun tip : Tip ↦
          if (q, i) ∈ (history.addPayouts (payoutsAt o a a' q timestamp)).paid then 0
          else tip.amount) = 0 := by
        cases a'.tips.lookup (q, i) with
        | none => rfl
        | some tip => exact if_pos (hpaid.mpr (Or.inr hi))
      rw [hzero, if_pos hi, hentry, Option.elim_some, if_neg hnot, hinv.unpaid q i entry hentry hnot,
        Nat.zero_add]
    · have hlookup : a'.tips.lookup (q, i) = a.tips.lookup (q, i) := by
        rw [h.autoPay_eq, AutoPay.clearTip, FiniteMap.lookup_insert_ite, if_neg]
        intro heq
        obtain ⟨rfl, rfl⟩ := Prod.mk.inj heq
        exact hi ((hmemS q i).mpr ⟨rfl, hle, le_rfl⟩)
      have hiff : (q, i) ∈ (history.addPayouts (payoutsAt o a a' queryId timestamp)).paid ↔
          (q, i) ∈ history.paid := hpaid.trans (or_iff_left hi)
      rw [hlookup, if_neg hi, Nat.add_zero]
      simp only [hiff]
  have himage : ∑ entry ∈ S, history.tipped entry =
      ∑ i ∈ Finset.Icc (paidFrom o a' queryId report last) last, history.tipped (queryId, i) := by
    rw [hS]
    exact Finset.sum_image fun i _ j _ heq ↦ (Prod.mk.inj heq).2
  omega

end OneTip

/-! ## Claims, tips and everything else -/

section Moves

variable {o : Oracle AccountId} {now : ℕ} {a a' : AutoPay AccountId} {history : History}
  {queryId : QueryId}

theorem History.addPayouts_append (history : History) (payouts later : List ((QueryId × ℕ) × ℕ)) :
    (history.addPayouts payouts).addPayouts later = history.addPayouts (payouts ++ later) := by
  simp only [History.addPayouts, List.append_assoc]

/-- A claim for several reports pays each of its tips out of the unpaid ones. -/
theorem claimTimestamps_tipsInvariant {reporter : AccountId} [DecidableEq AccountId]
    {timestamps : List ℕ} {reward reward' : ℕ} (hreports : o.ReportSeries queryId)
    (hinv : TipsInvariant o now a history)
    (h : claimTimestamps cfg o now queryId reporter timestamps (reward, a) = .ok (reward', a')) :
    TipsInvariant o now a'
        (history.addPayouts (claimPayouts cfg o now queryId reporter timestamps a)) ∧
      reward' + unpaidTips a'
          (history.addPayouts (claimPayouts cfg o now queryId reporter timestamps a)).paid ≤
        reward + unpaidTips a history.paid ∧
      reward' ≤ reward + ((claimPayouts cfg o now queryId reporter timestamps a).map
        fun payout ↦ history.tipped payout.1).sum := by
  induction timestamps generalizing reward a history with
  | nil =>
    have hnothing : history.addPayouts (claimPayouts cfg o now queryId reporter [] a) = history := by
      simp only [claimPayouts, History.addPayouts, List.append_nil]
    rw [hnothing]
    cases h
    exact ⟨hinv, le_rfl, Nat.le_add_right _ _⟩
  | cons timestamp rest ih =>
    simp only [claimTimestamps, bind_eq_ok] at h
    obtain ⟨⟨amount, a₁⟩, hcomputed, hrest⟩ := h
    obtain ⟨report, last, lastTip, htip, hamount⟩ := getOnetimeTipAmount_eq_ok hcomputed
    have hinv₁ := htip.tipsInvariant hamount hreports hinv
    have hpaid := htip.add_unpaidTips_le hamount hreports hinv
    obtain ⟨hinv', hle, hsum⟩ := ih hinv₁ hrest
    dsimp only at hle hsum
    have hpayouts : claimPayouts cfg o now queryId reporter (timestamp :: rest) a =
        payoutsAt o a a₁ queryId timestamp ++ claimPayouts cfg o now queryId reporter rest a₁ := by
      rw [claimPayouts, hcomputed]
    rw [hpayouts, ← History.addPayouts_append]
    have hadd := Saturating.add_le cfg.balanceMax reward amount
    obtain ⟨hfirst, hof⟩ := htip.amountOf hamount
    have htipped := hof.le_sum hfirst (hinv.series queryId) htip.lastTip_eq
    have hsame : ∀ payout : (QueryId × ℕ) × ℕ,
        (history.addPayouts (payoutsAt o a a₁ queryId timestamp)).tipped payout.1 =
          history.tipped payout.1 := fun _ ↦ rfl
    simp only [hsame] at hsum
    refine ⟨hinv', by omega, ?_⟩
    rw [htip.payoutsAt_eq, List.map_append, List.sum_append, sum_payoutsBetween]
    omega

/-- What a tip changes: one entry, either a new one or the last one while no report is at or after
it. -/
theorem TipAdded.change {lastReported : Option ℕ} {amount : ℕ}
    (h : TipAdded cfg a lastReported now queryId amount a')
    (hseries : TipSeries o now a history.tipped queryId) :
    ∃ entry, (∀ q i, a'.tips.lookup (q, i) =
        if (q, i) = (queryId, a'.countTips queryId - 1) then some entry else a.tips.lookup (q, i)) ∧
      a'.tips = a.tips.insert (queryId, a'.countTips queryId - 1) entry ∧
      entry.timestamp = now + 1 ∧
      ((a.tips.lookup (queryId, a'.countTips queryId - 1) = none ∧ entry.amount = amount ∧
          a.countTips queryId ≤ a'.countTips queryId - 1) ∨
        ∃ lastTip, a.tips.lookup (queryId, a'.countTips queryId - 1) = some lastTip ∧
          lastReported.getD 0 < lastTip.timestamp ∧
          entry.amount = Saturating.add cfg.balanceMax lastTip.amount amount) := by
  have hpushed : ∀ entry, (a.pushTip queryId entry).countTips queryId - 1 = a.countTips queryId := by
    intro entry
    rw [AutoPay.pushTip_count, if_pos rfl]
    rfl
  have hfresh : a.tips.lookup (queryId, a.countTips queryId) = none := by
    cases hlookup : a.tips.lookup (queryId, a.countTips queryId) with
    | none => rfl
    | some entry => exact absurd ((hseries.defined _).mp ⟨entry, hlookup⟩) (lt_irrefl _)
  cases h with
  | @merge lastTip hcount hlast hopen =>
    exact ⟨_, fun q i ↦ FiniteMap.lookup_insert_ite _ _ _ _, rfl, rfl,
      Or.inr ⟨lastTip, hlast, hopen, rfl⟩⟩
  | _ =>
    rw [hpushed]
    exact ⟨_, fun q i ↦ FiniteMap.lookup_insert_ite _ _ _ _, rfl, rfl,
      Or.inl ⟨hfresh, rfl, le_rfl⟩⟩

/-- An entry with a valid report at or after it is not the one a tip changes. -/
theorem TipAdded.lookup_of_le_valid {lastReported : Option ℕ} {amount : ℕ}
    (h : TipAdded cfg a lastReported now queryId amount a')
    (hseries : TipSeries o now a history.tipped queryId)
    (hlast : IsLast (o.valid queryId) lastReported) {q : QueryId} {i t : ℕ} {before : Tip}
    (hbefore : a.tips.lookup (q, i) = some before) (hle : before.timestamp ≤ t)
    (hvalid : t ∈ o.valid q) : a'.tips.lookup (q, i) = some before := by
  obtain ⟨entry, hlookup, -, -, hcases⟩ := h.change hseries
  rw [hlookup, if_neg]
  · exact hbefore
  · intro heq
    rw [heq] at hbefore
    obtain ⟨rfl, -⟩ := Prod.mk.inj heq
    rcases hcases with ⟨hnone, -⟩ | ⟨lastTip, hsome, hopen, -⟩
    · rw [hnone] at hbefore
      cases hbefore
    · rw [hsome] at hbefore
      cases hbefore
      cases hlrt : lastReported with
      | none =>
        rw [hlrt] at hlast
        have hempty : o.valid q = ∅ := hlast
        rw [hempty] at hvalid
        exact Set.notMem_empty t hvalid
      | some u =>
        rw [hlrt] at hlast
        rw [hlrt, Option.getD_some] at hopen
        have hle' := hlast.2 hvalid
        omega

/-- A tip goes into an entry that was not paid out. -/
theorem TipAdded.not_paid {lastReported : Option ℕ} {amount : ℕ}
    (h : TipAdded cfg a lastReported now queryId amount a')
    (hlast : IsLast (o.valid queryId) lastReported) (hinv : TipsInvariant o now a history) :
    (queryId, a'.countTips queryId - 1) ∉ history.paid := by
  have hseries := hinv.series queryId
  obtain ⟨entry, hlookup, -, htime, -⟩ := h.change hseries
  intro hpaid
  obtain ⟨⟨⟨q, i⟩, t⟩, hmem, heq⟩ := List.mem_map.mp hpaid
  have hkey : (q, i) = (queryId, a'.countTips queryId - 1) := heq
  have hout := hinv.paidOut q i t hmem
  obtain ⟨found, hfound, hle, -⟩ := hout.entry
  -- the entry would be changed to one newer than the settled report it was paid to
  have hsame := h.lookup_of_le_valid hseries hlast hfound hle hout.settled.2
  rw [hlookup, if_pos hkey] at hsame
  cases hsame
  have hlock := hout.settled.1
  omega

/-- A tip that the balance type can hold joins the unpaid ones. -/
theorem TipAdded.tipsInvariant [DecidableEq AccountId] {lastReported : Option ℕ} {amount : ℕ}
    (h : TipAdded cfg a lastReported now queryId amount a') (hpositive : 0 < amount)
    (hlast : IsLast (o.valid queryId) lastReported) (hnow : ∀ t ∈ o.valid queryId, t ≤ now)
    (hbound : unpaidTips a history.paid + amount ≤ cfg.balanceMax)
    (hinv : TipsInvariant o now a history) :
    TipsInvariant o now a' (history.addTip (queryId, a'.countTips queryId - 1) amount) ∧
      unpaidTips a' history.paid ≤ unpaidTips a history.paid + amount := by
  have hseries := hinv.series queryId
  obtain ⟨entry, hlookup, htips, htime, hcases⟩ := h.change hseries
  have hsettled : ∀ q i t, ((q, i), t) ∈ history.payouts → t < now + 1 := by
    intro q i t hmem
    have hlock := (hinv.paidOut q i t hmem).settled.1
    omega
  have hnotPaid := h.not_paid hlast hinv
  -- the amount of the entry, which no bound cuts short
  have hamount : entry.amount =
      ((a.tips.lookup (queryId, a'.countTips queryId - 1)).elim 0 Tip.amount) + amount := by
    rcases hcases with ⟨hnone, heq, -⟩ | ⟨lastTip, hsome, -, heq⟩
    · rw [hnone, heq, Option.elim_none, Nat.zero_add]
    · have hle := FiniteMap.le_total hsome fun (key : QueryId × ℕ) (tip : Tip) ↦
        if key ∈ history.paid then 0 else tip.amount
      rw [if_neg hnotPaid] at hle
      rw [hsome, heq, Option.elim_some]
      exact Saturating.add_eq ((Nat.add_le_add_right hle amount).trans hbound)
  refine ⟨⟨fun q ↦ ?_, fun q i t hmem ↦ ?_, hinv.nodup, fun q i later hlater hnot ↦ ?_⟩, ?_⟩
  · by_cases hq : q = queryId
    · rw [hq]
      refine h.tipSeries hpositive (fun t ht ↦ ?_) hseries
      rw [ht] at hlast
      obtain ⟨report, hreport, -⟩ := id hlast.1
      exact ⟨hnow t hlast.1, report, hreport⟩
    · exact h.tipSeries_other hq (hinv.series q)
  · have hlt := hsettled q i t hmem
    obtain ⟨hsettle, ⟨before, hbefore, hle, hafter⟩, j, cleared, hj, hzero, hjle, hmax⟩ :=
      hinv.paidOut q i t hmem
    refine ⟨hsettle,
      ⟨before, h.lookup_of_le_valid hseries hlast hbefore hle hsettle.2, hle, hafter⟩, j, cleared,
      h.lookup_of_le_valid hseries hlast hj hjle hsettle.2, hzero, hjle, fun k later hk hkle ↦ ?_⟩
    rw [hlookup] at hk
    split at hk
    · cases hk
      omega
    · exact hmax k later hk hkle
  · rw [hlookup] at hlater
    rw [History.addTip_tipped]
    split at hlater
    · next heq =>
      cases hlater
      rw [if_pos heq, hamount, heq]
      cases hold : a.tips.lookup (queryId, a'.countTips queryId - 1) with
      | none =>
        have hcount : a.countTips queryId ≤ a'.countTips queryId - 1 := by
          rcases hcases with ⟨-, -, hcount⟩ | ⟨lastTip, hsome, -⟩
          · exact hcount
          · rw [hold] at hsome
            cases hsome
        rw [Option.elim_none, hseries.untipped _ hcount]
      | some lastTip =>
        rw [Option.elim_some, hinv.unpaid queryId _ lastTip hold hnotPaid]
    · next hne =>
      rw [if_neg hne, Nat.add_zero]
      exact hinv.unpaid q i later hlater hnot
  · have htotal := FiniteMap.total_insert a.tips (queryId, a'.countTips queryId - 1) entry
      fun (key : QueryId × ℕ) (tip : Tip) ↦ if key ∈ history.paid then 0 else tip.amount
    rw [← htips, if_neg hnotPaid, hamount] at htotal
    have hsame : (a.tips.lookup (queryId, a'.countTips queryId - 1)).elim 0 (fun tip : Tip ↦
        if (queryId, a'.countTips queryId - 1) ∈ history.paid then 0 else tip.amount) =
          (a.tips.lookup (queryId, a'.countTips queryId - 1)).elim 0 Tip.amount := by
      cases a.tips.lookup (queryId, a'.countTips queryId - 1) with
      | none => rfl
      | some tip => exact if_neg hnotPaid
    rw [hsame] at htotal
    have hunfold : ∀ a : AutoPay AccountId, unpaidTips a history.paid =
        FiniteMap.total a.tips fun key tip ↦ if key ∈ history.paid then 0 else tip.amount :=
      fun _ ↦ rfl
    rw [hunfold, hunfold]
    omega

/-- Later, with the same tips, what was paid out is still settled. -/
theorem TipsInvariant.later {s s' : State AccountId} (hfinal : Finality s s')
    (hreports : ∀ q t report, s.oracle.reports.lookup (q, t) = some report →
      ∃ report', s'.oracle.reports.lookup (q, t) = some report')
    (htips : a'.tips = a.tips) (hcount : a'.tipCount = a.tipCount)
    (hinv : TipsInvariant s.oracle s.now a history) :
    TipsInvariant s'.oracle s'.now a' history := by
  refine ⟨fun q ↦ ?_, fun q i t hmem ↦ ?_, hinv.nodup, fun q i entry ↦ ?_⟩
  · refine (hinv.series q).congr hfinal.now_le (hreports q) (fun i ↦ by rw [htips]) ?_ fun _ ↦ rfl
    rw [AutoPay.countTips, hcount, AutoPay.countTips]
  · obtain ⟨⟨hlock, hvalid⟩, ⟨entry, hentry, hle, hafter⟩, hcleared⟩ := hinv.paidOut q i t hmem
    refine ⟨⟨hlock.trans hfinal.now_le, (hfinal.mem_valid hlock).mp hvalid⟩,
      ⟨entry, htips ▸ hentry, hle, fun p hp ↦ hafter p ?_⟩, htips ▸ hcleared⟩
    exact hp.congr fun x hx ↦ (hfinal.mem_valid (by omega)).symm
  · rw [htips]
    exact hinv.unpaid q i entry

end Moves

end TellorPallet
