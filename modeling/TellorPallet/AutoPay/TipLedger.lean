import TellorPallet.AutoPay.Payments

/-!
# The ledger of one-time tips

The entries of a query are a ledger of what was tipped for it: entry after entry in time order, each
with the total up to it. A claim takes the amount out of the last entry it pays for, all of it, and
leaves the totals alone; a later tip never goes into an entry that was paid out. So an entry holds
all that was tipped into it or nothing, and nothing only after it was paid out.
-/

namespace TellorPallet

open Outcome Transition Predecessor
open scoped BigOperators

variable {AccountId : Type} [DecidableEq AccountId] {cfg : Config AccountId}

/-- The cumulative total of the entry before an index, zero before the first one. -/
def AutoPay.totalBefore (a : AutoPay AccountId) (queryId : QueryId) : ℕ → ℕ
  | 0 => 0
  | i + 1 => (a.tips.lookup (queryId, i)).elim 0 Tip.cumulativeTips

/-- The entries of a query with their history: an entry holds what was tipped into it, or nothing once
it was paid out, and the cumulative totals add up what was tipped as long as the balance type holds
it. -/
structure TipLedger (cfg : Config AccountId) (queryId : QueryId) (s : State AccountId)
    (history : History) : Prop where
  payments : Payments cfg s history
  amount : ∀ i entry, s.autoPay.tips.lookup (queryId, i) = some entry →
    entry.amount = history.tipped (queryId, i) ∨ entry.amount = 0 ∧ (queryId, i) ∈ history.paid
  total : ∑ i ∈ Finset.range (s.autoPay.countTips queryId), history.tipped (queryId, i) ≤
      cfg.balanceMax →
    ∀ i entry, s.autoPay.tips.lookup (queryId, i) = some entry →
      entry.cumulativeTips = ∑ j ∈ Finset.range (i + 1), history.tipped (queryId, j)

/-! ## Claims -/

/-- A claim empties some of the entries it pays out, and changes nothing else of any entry. -/
theorem claimTimestamps_entries {o : Oracle AccountId} {now : ℕ} {a a' : AutoPay AccountId}
    {queryId : QueryId} {reporter : AccountId} {timestamps : List ℕ} {reward reward' : ℕ}
    (h : claimTimestamps cfg o now queryId reporter timestamps (reward, a) = .ok (reward', a'))
    (key : QueryId × ℕ) (entry' : Tip) (hentry' : a'.tips.lookup key = some entry') :
    ∃ entry, a.tips.lookup key = some entry ∧ entry'.cumulativeTips = entry.cumulativeTips ∧
      (entry'.amount = entry.amount ∨ entry'.amount = 0 ∧
        key ∈ (claimPayouts cfg o now queryId reporter timestamps a).map Prod.fst) := by
  induction timestamps generalizing reward a with
  | nil =>
    cases h
    exact ⟨entry', hentry', rfl, Or.inl rfl⟩
  | cons timestamp rest ih =>
    simp only [claimTimestamps, bind_eq_ok] at h
    obtain ⟨⟨amount, a₁⟩, hcomputed, hrest⟩ := h
    obtain ⟨report, last, lastTip, htip, hamount⟩ := getOnetimeTipAmount_eq_ok hcomputed
    obtain ⟨entry₁, hentry₁, htotal, hleft⟩ := ih hrest
    have hpayouts : (claimPayouts cfg o now queryId reporter (timestamp :: rest) a).map Prod.fst =
        (payoutsBetween queryId (paidFrom o a₁ queryId report last) last timestamp).map Prod.fst ++
          (claimPayouts cfg o now queryId reporter rest a₁).map Prod.fst := by
      rw [claimPayouts, hcomputed, List.map_append, htip.payoutsAt_eq]
    rw [hpayouts, List.mem_append]
    rw [htip.autoPay_eq, AutoPay.clearTip, FiniteMap.lookup_insert_ite] at hentry₁
    split at hentry₁
    · next heq =>
      -- the last entry of this tip, emptied here
      cases hentry₁
      have hpaid : (queryId, last) ∈ (payoutsBetween queryId (paidFrom o a₁ queryId report last) last
          timestamp).map Prod.fst :=
        mem_paid_payoutsBetween.mpr ⟨rfl, (htip.amountOf hamount).1, le_rfl⟩
      rw [heq]
      refine ⟨lastTip, htip.lastTip_eq, htotal, Or.inr ⟨?_, Or.inl hpaid⟩⟩
      rcases hleft with hsame | ⟨hzero, -⟩
      · exact hsame
      · exact hzero
    · exact ⟨entry₁, hentry₁, htotal, hleft.imp_right fun hzero ↦ ⟨hzero.1, Or.inr hzero.2⟩⟩

/-! ## Every step keeps the ledger -/

section Steps

variable {s s' : State AccountId} {history history' : History} {queryId : QueryId}

omit [DecidableEq AccountId] in
/-- Nothing of the ledger of the query changes. -/
theorem TipLedger.congr (hinv : TipLedger cfg queryId s history) (hpayments : Payments cfg s' history')
    (hlookup : ∀ i, s'.autoPay.tips.lookup (queryId, i) = s.autoPay.tips.lookup (queryId, i))
    (hcount : s'.autoPay.countTips queryId = s.autoPay.countTips queryId)
    (htipped : ∀ i, history'.tipped (queryId, i) = history.tipped (queryId, i))
    (hpaid : ∀ i, (queryId, i) ∈ history.paid → (queryId, i) ∈ history'.paid) :
    TipLedger cfg queryId s' history' where
  payments := hpayments
  amount i entry hentry := by
    rw [hlookup] at hentry
    rw [htipped]
    exact (hinv.amount i entry hentry).imp_right fun hzero ↦ ⟨hzero.1, hpaid i hzero.2⟩
  total := by
    intro hbound i entry hentry
    simp only [hcount, htipped] at hbound ⊢
    rw [hlookup] at hentry
    exact hinv.total hbound i entry hentry

/-- A tip for the query joins its ledger. -/
theorem TipLedger.tipped {tipper : AccountId} {amount : ℕ} {a : AutoPay AccountId}
    (hsigner : tipper ≠ cfg.tips) (h : Tipped cfg s tipper queryId amount a s')
    (hinv : TipLedger cfg queryId s history) :
    TipLedger cfg queryId s'
      (history.addTip (queryId, s'.autoPay.countTips queryId - 1) amount) := by
  have hpayments := hinv.payments.tipped hsigner h
  have hreports := hinv.payments.reports
  have hseries := hinv.payments.tips.series queryId
  have hlast := (hreports.series queryId).last
  have hlookup : ∀ i, s'.autoPay.tips.lookup (queryId, i) = a.tips.lookup (queryId, i) := by
    rw [(congrArg AutoPay.tips h.autoPay_eq :)]
    exact fun _ ↦ rfl
  have hcount : s'.autoPay.countTips queryId = a.countTips queryId := by
    rw [AutoPay.countTips, (congrArg AutoPay.tipCount h.autoPay_eq :), AutoPay.countTips]
  have hnotPaid := h.added.not_paid hlast hinv.payments.tips
  refine ⟨hpayments, fun i entry hentry ↦ ?_, fun hbound i entry hentry ↦ ?_⟩
  · by_cases hpaid : (queryId, i) ∈ history.paid
    · -- an entry paid out is not the one the tip went into
      have hi : (queryId, i) ≠ (queryId, a.countTips queryId - 1) :=
        fun heq ↦ hnotPaid (heq ▸ hpaid)
      obtain ⟨_, hchange, -⟩ := h.added.change hseries
      rw [hlookup, hchange, if_neg hi] at hentry
      rw [hcount, History.addTip_tipped, if_neg hi, Nat.add_zero]
      exact hinv.amount i entry hentry
    · exact Or.inl (hpayments.tips.unpaid queryId i entry hentry hpaid)
  · rw [hlookup] at hentry
    rw [hcount] at hbound ⊢
    have hsum := h.added.sum_tipped hseries
    exact h.added.cumulative_eq_sum hseries (hsum ▸ hbound) (hinv.total (by omega)) i entry hentry

theorem HistoryStep.tipLedger {input : Input AccountId}
    (h : HistoryStep cfg s history input s' history') (hinv : TipLedger cfg queryId s history) :
    TipLedger cfg queryId s' history' := by
  have hpayments := h.payments hinv.payments
  cases h with
  | kept hseries h =>
    refine hinv.congr hpayments (fun i ↦ by rw [h.tips_eq]) ?_ (fun _ ↦ rfl) fun _ hpaid ↦ hpaid
    rw [AutoPay.countTips, h.tipCount_eq, AutoPay.countTips]
  | @tipped _ _ q amount _ a _ hsigner h =>
    by_cases hq : queryId = q
    · subst hq
      exact hinv.tipped hsigner h
    · have hcount : a.countTips queryId = s.autoPay.countTips queryId := by
        cases h.added with
        | merge _ _ _ => rfl
        | _ => rw [AutoPay.pushTip_count, if_neg hq]
      refine hinv.congr hpayments (fun i ↦ ?_) ?_ (fun i ↦ ?_) fun _ hpaid ↦ hpaid
      · rw [(congrArg AutoPay.tips h.autoPay_eq :), ← h.added.lookup_other hq]
      · rw [← hcount, AutoPay.countTips, (congrArg AutoPay.tipCount h.autoPay_eq :), AutoPay.countTips]
      · rw [History.addTip_tipped, if_neg fun heq ↦ hq (Prod.mk.inj heq).1, Nat.add_zero]
  | @onetimeClaimed _ reporter q timestamps reward a s₁ _ h =>
    have ha := claimTimestamps_frame h.claimed
    have htips : s'.autoPay.tips = a.tips := by
      rw [h.state_eq, (congrArg State.autoPay (payReward_frame h.paid) :)]
    have hcount : s'.autoPay.countTips queryId = s.autoPay.countTips queryId := by
      rw [AutoPay.countTips, h.state_eq, (congrArg State.autoPay (payReward_frame h.paid) :), ha]
      rfl
    refine ⟨hpayments, fun i entry hentry ↦ ?_, fun hbound i entry hentry ↦ ?_⟩
    · rw [htips] at hentry
      obtain ⟨before, hbefore, -, hleft⟩ := claimTimestamps_entries h.claimed _ entry hentry
      rw [History.addPayouts_paid, List.mem_append]
      rcases hleft with hsame | ⟨hzero, hpaid⟩
      · rw [hsame]
        exact (hinv.amount i before hbefore).imp_right fun hzero ↦ ⟨hzero.1, Or.inl hzero.2⟩
      · exact Or.inr ⟨hzero, Or.inr hpaid⟩
    · rw [htips] at hentry
      obtain ⟨before, hbefore, htotal, -⟩ := claimTimestamps_entries h.claimed _ entry hentry
      rw [hcount] at hbound
      exact htotal.trans (hinv.total hbound i before hbefore)
  | @feedClaimed _ reporter feedId q timestamps feed reward a s₁ _ h =>
    have hautoPay : s'.autoPay.tips = s.autoPay.tips ∧ s'.autoPay.tipCount = s.autoPay.tipCount := by
      rw [h.state_eq, (congrArg State.autoPay (payReward_frame h.paid) :),
        (claimFeedTimestamps_eq_ok (Nat.zero_le _) h.claimed).2.1]
      exact ⟨rfl, rfl⟩
    refine hinv.congr hpayments (fun i ↦ by rw [hautoPay.1]) ?_ (fun _ ↦ rfl) fun _ hpaid ↦ hpaid
    rw [AutoPay.countTips, hautoPay.2, AutoPay.countTips]

theorem Recorded.tipLedger (h : Recorded cfg s history) (queryId : QueryId) :
    TipLedger cfg queryId s history :=
  h.invariant cfg (TipLedger cfg queryId)
    (fun _ hgenesis ↦ by
      have hpayments := payments_genesis hgenesis
      obtain ⟨ledger, blockNumber, now, -, rfl⟩ := hgenesis
      exact ⟨hpayments, nofun, fun _ ↦ nofun⟩)
    fun _ _ _ hinv hadmits ↦ (step_history hadmits).tipLedger hinv

omit [DecidableEq AccountId] in
/-- What was tipped into an entry, as the difference of the totals around it. -/
theorem TipLedger.tipped_eq (hinv : TipLedger cfg queryId s history)
    (hbound : ∑ i ∈ Finset.range (s.autoPay.countTips queryId), history.tipped (queryId, i) ≤
      cfg.balanceMax) {i : ℕ} {entry : Tip}
    (hentry : s.autoPay.tips.lookup (queryId, i) = some entry) :
    history.tipped (queryId, i) = entry.cumulativeTips - s.autoPay.totalBefore queryId i := by
  have hseries := hinv.payments.tips.series queryId
  have htotal := hinv.total hbound i entry hentry
  have hbefore : s.autoPay.totalBefore queryId i =
      ∑ j ∈ Finset.range i, history.tipped (queryId, j) := by
    cases i with
    | zero => rfl
    | succ i =>
      have hcount := (hseries.defined (i + 1)).mp ⟨entry, hentry⟩
      obtain ⟨before, hlookup⟩ := (hseries.defined i).mpr (by omega)
      rw [AutoPay.totalBefore, hlookup, Option.elim_some]
      exact hinv.total hbound i before hlookup
  calc
    history.tipped (queryId, i) =
        ∑ j ∈ Finset.range i, history.tipped (queryId, j) + history.tipped (queryId, i) -
          ∑ j ∈ Finset.range i, history.tipped (queryId, j) := (Nat.add_sub_cancel_left _ _).symm
    _ = entry.cumulativeTips - s.autoPay.totalBefore queryId i := by
      rw [hbefore, htotal, Finset.sum_range_succ]

/-- In every reachable state the tip entries of a query stand at the indices below its count, in the
order of their times. As long as the balance type holds the total, each cumulative total is the sum
of what was tipped up to the entry, and each entry holds all of what was tipped into it, or nothing
and was paid out. No tip goes into an entry that was paid out. -/
theorem tipLedger_of_recorded (h : Recorded cfg s history) (queryId : QueryId) :
    (∀ i, (∃ entry, s.autoPay.tips.lookup (queryId, i) = some entry) ↔
      i < s.autoPay.countTips queryId) ∧
    (∀ i j entry later, s.autoPay.tips.lookup (queryId, i) = some entry →
      s.autoPay.tips.lookup (queryId, j) = some later → i < j → entry.timestamp < later.timestamp) ∧
    (∑ i ∈ Finset.range (s.autoPay.countTips queryId), history.tipped (queryId, i) ≤ cfg.balanceMax →
      ∀ i entry, s.autoPay.tips.lookup (queryId, i) = some entry →
        entry.cumulativeTips = ∑ j ∈ Finset.range (i + 1), history.tipped (queryId, j) ∧
        (entry.amount = entry.cumulativeTips - s.autoPay.totalBefore queryId i ∨
          entry.amount = 0 ∧ (queryId, i) ∈ history.paid)) ∧
    ∀ tipper amount queryData s', tip cfg s tipper queryId amount queryData = .ok s' →
      (queryId, s'.autoPay.countTips queryId - 1) ∉ history.paid := by
  have hinv := h.tipLedger queryId
  have hseries := hinv.payments.tips.series queryId
  refine ⟨hseries.defined, hseries.increasing, fun hbound i entry hentry ↦ ?_,
    fun tipper amount queryData s' htip ↦ ?_⟩
  · rw [← hinv.tipped_eq hbound hentry]
    exact ⟨hinv.total hbound i entry hentry, hinv.amount i entry hentry⟩
  · obtain ⟨a, htipped⟩ := tip_tipped htip
    have hcount : s'.autoPay.countTips queryId = a.countTips queryId := by
      rw [AutoPay.countTips, (congrArg AutoPay.tipCount htipped.autoPay_eq :), AutoPay.countTips]
    rw [hcount]
    exact htipped.added.not_paid (hinv.payments.reports.series queryId).last hinv.payments.tips

end Steps

/-- Of the two tips of the mock runtime, both claimed, the second entry is empty and its total 300. -/
theorem tipLedger_of_recorded_payments :
    (Mock.recorded Mock.payments).1.autoPay.tips.lookup (Mock.queryId, 1) =
        some ⟨0, Mock.start + 16, 300⟩ ∧
      300 = ∑ j ∈ Finset.range 2, (Mock.recorded Mock.payments).2.tipped (Mock.queryId, j) := by
  have hentry : (Mock.recorded Mock.payments).1.autoPay.tips.lookup (Mock.queryId, 1) =
      some ⟨0, Mock.start + 16, 300⟩ := by decide +kernel
  have hledger := tipLedger_of_recorded (Mock.recordedBy_recorded Mock.payments (by decide +kernel))
    Mock.queryId
  exact ⟨hentry, (hledger.2.2.1 (by decide +kernel) 1 _ hentry).1⟩

end TellorPallet
