import TellorPallet.Oracle.Runs
import TellorPallet.Oracle.Search

/-!
# Finality after the dispute window

A dispute can only be opened within the reporting lock after a report, and relinks later reports
only. A report that is older therefore never changes again, and neither does any read that depends
on such reports alone.
-/

namespace TellorPallet

open Outcome Transition Predecessor

variable {AccountId : Type} [DecidableEq AccountId] {cfg : Config AccountId}

/-- From one state to a later one, what is stored of reports older than the reporting lock is
unchanged. -/
structure Finality (s s' : State AccountId) : Prop where
  now_le : s.now ≤ s'.now
  report_eq : ∀ queryId t, t + reportingLock ≤ s.now →
    s'.oracle.reports.lookup (queryId, t) = s.oracle.reports.lookup (queryId, t)
  value_eq : ∀ queryId t, t + reportingLock ≤ s.now →
    s'.oracle.reportedValuesByTimestamp.lookup (queryId, t) =
      s.oracle.reportedValuesByTimestamp.lookup (queryId, t)

omit [DecidableEq AccountId] in
theorem Finality.refl (s : State AccountId) : Finality s s :=
  ⟨le_rfl, fun _ _ _ ↦ rfl, fun _ _ _ ↦ rfl⟩

omit [DecidableEq AccountId] in
theorem Finality.trans (s s' s'' : State AccountId) (h : Finality s s') (h' : Finality s' s'') :
    Finality s s'' where
  now_le := h.now_le.trans h'.now_le
  report_eq queryId t ht :=
    (h'.report_eq queryId t (ht.trans h.now_le)).trans (h.report_eq queryId t ht)
  value_eq queryId t ht :=
    (h'.value_eq queryId t (ht.trans h.now_le)).trans (h.value_eq queryId t ht)

theorem reportingLock_pos : 0 < reportingLock := by decide

omit [DecidableEq AccountId] in
theorem SeriesStep.finality {s s' : State AccountId} (h : SeriesStep cfg s s')
    (hinv : SeriesInvariant s) : Finality s s' := by
  have hlockPos := reportingLock_pos
  cases h with
  | unchanged horacle hnow =>
    exact ⟨hnow, fun _ _ _ ↦ by rw [horacle], fun _ _ _ ↦ by rw [horacle]⟩
  | submitted hnow hpositive hfresh hvalue horacle =>
    refine ⟨hnow.ge, fun q t ht ↦ ?_, fun q t ht ↦ ?_⟩
    · rw [horacle, Oracle.submit_reports, if_neg fun hq ↦ by omega]
    · rw [horacle, Oracle.submit_values, if_neg fun hq ↦ by omega]
  | @removed queryId timestamp iterations hnow hreported hlock hremoved =>
    obtain ⟨report, hremoval⟩ := Oracle.removeValue_removed (hinv.series queryId).toIndexed hremoved
    refine ⟨hnow.ge, fun q t ht ↦ ?_, fun q t ht ↦ ?_⟩
    · rw [hremoval.reports_eq, if_neg fun hq ↦ by omega]
      cases hother : s.oracle.reports.lookup (q, t) with
      | none => rfl
      | some other =>
        rw [Option.map_some, Oracle.relinked, if_neg]
        intro hq
        have hlookup : s.oracle.reports.lookup (queryId, t) = some other := hq.1 ▸ hother
        -- the relinking only reaches reports after the disputed one, which is younger than the lock
        have hlater : timestamp < t :=
          ((hinv.series queryId).index_lt_iff hremoval.report_eq hlookup).mp hq.2.1
        omega
    · rw [hremoval.values_eq, FiniteMap.lookup_erase_ite, if_neg]
      intro heq
      have htime : t = timestamp := (Prod.mk.inj heq).2
      omega

theorem finality_of_reaches {s s' : State AccountId} (hinv : SeriesInvariant s)
    (h : Reaches (step cfg) (Admissible cfg) s s') : Finality s s' :=
  h.related Finality.refl Finality.trans
    (fun _ _ hinv hadmits ↦ (step_effect hadmits).seriesStep.preserves hinv)
    (fun _ _ hinv hadmits ↦ (step_effect hadmits).seriesStep.finality hinv) hinv

/-! ## Reads of the past -/

omit [DecidableEq AccountId] in
/-- The valid reports that are older than the lock stay the same. -/
theorem Finality.mem_valid {s s' : State AccountId} (h : Finality s s') {queryId : QueryId} {t : ℕ}
    (ht : t + reportingLock ≤ s.now) :
    t ∈ s.oracle.valid queryId ↔ t ∈ s'.oracle.valid queryId := by
  simp only [Oracle.valid, Set.mem_ofPred_eq, h.report_eq queryId t ht]

omit [DecidableEq AccountId] in
theorem Finality.getDataBefore_eq {s s' : State AccountId} (h : Finality s s')
    (hinv : SeriesInvariant s) (hinv' : SeriesInvariant s') {queryId : QueryId} {t : ℕ}
    (ht : t + reportingLock ≤ s.now + 1) :
    s'.oracle.getDataBefore queryId t = s.oracle.getDataBefore queryId t := by
  obtain ⟨p, hp⟩ := exists_isLastBelow (s.oracle.valid queryId) t
  have hp' : IsLastBelow (s'.oracle.valid queryId) t p :=
    hp.congr fun x hx ↦ h.mem_valid (by omega)
  rw [Oracle.getDataBefore_eq (hinv.series queryId) hp,
    Oracle.getDataBefore_eq (hinv'.series queryId) hp']
  cases p with
  | none => rfl
  | some u =>
    have hu : u < t := (isLastBelow_some.mp hp).2.1
    have hvalue : s'.oracle.retrieveData queryId u = s.oracle.retrieveData queryId u :=
      h.value_eq queryId u (by omega)
    rw [Option.bind_some, Option.bind_some, hvalue]

/-! ## Claimed reports -/

/-- A call claims a reward for the report of a query at a time. -/
def Call.Claims (queryId : QueryId) (timestamp : ℕ) : Call AccountId → Prop
  | .claimOnetimeTip q timestamps => q = queryId ∧ timestamp ∈ timestamps
  | .claimTip _ q timestamps => q = queryId ∧ timestamp ∈ timestamps
  | _ => False

/-- A report that is past the claim buffer and not disputed. -/
def Settled (o : Oracle AccountId) (now : ℕ) (queryId : QueryId) (timestamp : ℕ) : Prop :=
  timestamp + reportingLock ≤ now ∧ timestamp ∈ o.valid queryId

theorem settled_of_claimTimestamps {o : Oracle AccountId} {now : ℕ} {queryId : QueryId}
    {reporter : AccountId} {timestamps : List ℕ} {claimed claimed' : ℕ × AutoPay AccountId}
    (h : claimTimestamps cfg o now queryId reporter timestamps claimed = .ok claimed') :
    ∀ t ∈ timestamps, Settled o now queryId t := by
  induction timestamps generalizing claimed with
  | nil => exact fun t ht ↦ absurd ht List.not_mem_nil
  | cons timestamp rest ih =>
    obtain ⟨cumulativeReward, a⟩ := claimed
    simp only [claimTimestamps, bind_eq_ok] at h
    obtain ⟨⟨amount, a₁⟩, hamount, hrest⟩ := h
    obtain ⟨report, last, lastTip, htip, -⟩ := getOnetimeTipAmount_eq_ok hamount
    intro t ht
    rcases List.mem_cons.mp ht with rfl | hmem
    · have hbuffer : 12 * hours < now - t := htip.buffer_passed
      have hlock : reportingLock = 12 * hours := rfl
      exact ⟨by omega, report, htip.report_eq, htip.valid⟩
    · exact ih hrest t hmem

theorem settled_of_claimFeedTimestamps {o : Oracle AccountId} {now : ℕ} {feedId : FeedId}
    {queryId : QueryId} {reporter : AccountId} {balance : ℕ} {last : Option ℕ} {timestamps : List ℕ}
    {claimed claimed' : ℕ × AutoPay AccountId}
    (h : claimFeedTimestamps cfg o now feedId queryId reporter balance last timestamps claimed =
      .ok claimed') : ∀ t ∈ timestamps, Settled o now queryId t := by
  induction timestamps generalizing claimed with
  | nil => exact fun t ht ↦ absurd ht List.not_mem_nil
  | cons timestamp rest ih =>
    obtain ⟨cumulativeReward, a⟩ := claimed
    simp only [claimFeedTimestamps, bind_eq_ok] at h
    obtain ⟨⟨amount, a₁⟩, hamount, hrest⟩ := h
    obtain ⟨report, hclaimed⟩ := claimFeedTimestamp_claimed hamount
    intro t ht
    rcases List.mem_cons.mp ht with rfl | hmem
    · have hbuffer : 12 * hours < now - t := hclaimed.buffer_passed
      have hlock : reportingLock = 12 * hours := rfl
      exact ⟨by omega, report, hclaimed.report_eq, hclaimed.valid⟩
    · exact ih hrest t hmem

/-- A successful claim leaves the series and the clock alone, and its reports are settled. -/
theorem settled_of_claim {s s' : State AccountId} {send : Sender} {origin : Origin AccountId}
    {call : Call AccountId} {queryId : QueryId} {timestamp : ℕ}
    (hclaims : call.Claims queryId timestamp) (h : dispatch cfg send s origin call = .ok s') :
    s'.oracle = s.oracle ∧ s'.now = s.now ∧ Settled s.oracle s.now queryId timestamp := by
  cases call with
  | claimOnetimeTip q timestamps =>
    obtain ⟨reporter, -, h⟩ := bind_eq_ok.mp h
    obtain ⟨reward, a, s₁, hclaimed⟩ := claimOnetimeTip_claimed h
    rw [← hclaims.1, hclaimed.frame]
    exact ⟨rfl, rfl, settled_of_claimTimestamps hclaimed.claimed timestamp hclaims.2⟩
  | claimTip feedId q timestamps =>
    obtain ⟨reporter, -, h⟩ := bind_eq_ok.mp h
    obtain ⟨feed, reward, a, s₁, hclaimed⟩ := claimTip_claimed h
    rw [← hclaims.1, hclaimed.frame]
    exact ⟨rfl, rfl, settled_of_claimFeedTimestamps hclaimed.claimed timestamp hclaims.2⟩
  | _ => exact absurd hclaims id

/-- From a reachable state on, reports older than the reporting lock keep everything stored of them,
reads before a time that old keep their result, and a report that a reward was claimed for is never
disputed. -/
theorem final_after_lock {s s' : State AccountId} (hs : Reachable cfg s)
    (h : Reaches (step cfg) (Admissible cfg) s s') :
    (∀ queryId t, t + reportingLock ≤ s.now →
      s'.oracle.reports.lookup (queryId, t) = s.oracle.reports.lookup (queryId, t) ∧
      s'.oracle.retrieveData queryId t = s.oracle.retrieveData queryId t) ∧
    (∀ queryId t, t + reportingLock ≤ s.now + 1 →
      s'.oracle.getDataBefore queryId t = s.oracle.getDataBefore queryId t) ∧
    (∀ send origin call s₀ queryId t, dispatch cfg send s₀ origin call = .ok s →
      call.Claims queryId t → ∃ report, s'.oracle.reports.lookup (queryId, t) = some report ∧
        report.isDisputed = false) := by
  have hinv := hs.seriesInvariant
  have hfinal := finality_of_reaches hinv h
  have hinv' : SeriesInvariant s' :=
    h.invariant (fun _ _ hinv hadmits ↦ (step_effect hadmits).seriesStep.preserves hinv) hinv
  refine ⟨fun queryId t ht ↦ ⟨hfinal.report_eq queryId t ht, hfinal.value_eq queryId t ht⟩,
    fun queryId t ht ↦ hfinal.getDataBefore_eq hinv hinv' ht, ?_⟩
  intro send origin call s₀ queryId t hclaim hclaims
  obtain ⟨horacle, hnow, hlock, hvalid⟩ := settled_of_claim hclaims hclaim
  rw [← horacle] at hvalid
  rw [← hnow] at hlock
  exact (hfinal.mem_valid hlock).mp hvalid

/-- Twelve hours after the first of three reports, a dispute of the last one leaves reads up to a
second after the first as they were. -/
theorem final_after_lock_reports :
    let s := run (step Mock.config) (Mock.reports ++ [Mock.block (12 * hours + 10)]) Mock.genesis
    let s' := run (step Mock.config) [Mock.dispute 9 30] s
    s'.oracle.getDataBefore Mock.queryId (Mock.start + 11) =
      s.oracle.getDataBefore Mock.queryId (Mock.start + 11) :=
  (final_after_lock (Mock.reachableBy_run (Mock.reports ++ [Mock.block (12 * hours + 10)])
    (by decide +kernel)) (reaches_run [Mock.dispute 9 30] _ (by decide +kernel))).2.1
    Mock.queryId (Mock.start + 11) (by decide +kernel)

end TellorPallet
