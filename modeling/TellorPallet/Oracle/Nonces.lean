import TellorPallet.Oracle.Log

/-!
# Nonces of submissions

A submission may name the number of values reported before it. The number of a value is its index for
good, whatever is disputed later, and a number that was passed is not taken again: a signed submission
that names one cannot be replayed.
-/

namespace TellorPallet

open Outcome Transition

variable {AccountId : Type} [DecidableEq AccountId] {cfg : Config AccountId}
  {s s' : State AccountId} {queryId : QueryId} {index timestamp : ℕ}

omit [DecidableEq AccountId] in
/-- What was reported under an index stays there. -/
theorem SeriesStep.index_kept (h : SeriesStep cfg s s') (hinv : SeriesInvariant s)
    (hindex : s.oracle.reportedTimestampsByIndex.lookup (queryId, index) = some timestamp) :
    s'.oracle.reportedTimestampsByIndex.lookup (queryId, index) = some timestamp := by
  cases h with
  | unchanged horacle hnow => rw [horacle, hindex]
  | submitted hnow hpositive hfresh hvalue horacle =>
    rw [horacle, Oracle.submit_index, if_neg]
    · exact hindex
    · rintro ⟨rfl, rfl⟩
      exact absurd (((hinv.series queryId).defined _).mp ⟨timestamp, hindex⟩) (lt_irrefl _)
  | removed hnow hreported hlock hremoved =>
    obtain ⟨report, hremoval⟩ := Oracle.removeValue_removed (hinv.series _).toIndexed hremoved
    rw [hremoval.index_eq, hindex]

theorem index_kept_of_reaches (h : Reaches (step cfg) (Admissible cfg) s s') (hinv : SeriesInvariant s)
    (hindex : s.oracle.reportedTimestampsByIndex.lookup (queryId, index) = some timestamp) :
    SeriesInvariant s' ∧
      s'.oracle.reportedTimestampsByIndex.lookup (queryId, index) = some timestamp := by
  have hstep : ∀ (s : State AccountId) (input : Input AccountId),
      SeriesInvariant s ∧
        s.oracle.reportedTimestampsByIndex.lookup (queryId, index) = some timestamp →
      Admissible cfg s input →
      SeriesInvariant (step cfg input s) ∧
        (step cfg input s).oracle.reportedTimestampsByIndex.lookup (queryId, index) =
          some timestamp := by
    intro s input hs hadmits
    have hseries := (step_effect hadmits).seriesStep
    exact ⟨hseries.preserves hs.1, hseries.index_kept hs.1 hs.2⟩
  exact h.invariant hstep ⟨hinv, hindex⟩

theorem submitValue_nonce {reporter : AccountId} {value : Value} {nonce : ℕ} {queryData : QueryData}
    (h : submitValue cfg s reporter queryId value nonce queryData = .ok s') :
    nonce = s.oracle.count queryId ∨ nonce = 0 := by
  simp only [submitValue, bind_eq_ok, guard_eq_ok, exists_const] at h
  exact h.2.1

/-- A number that was passed is refused, whoever names it. -/
theorem dispatch_invalidNonce {send : Sender} {reporter : AccountId} {value : Value} {nonce : ℕ}
    {queryData : QueryData} (hvalue : value ≠ []) (hpositive : 0 < nonce)
    (hnonce : nonce < s.oracle.count queryId) :
    dispatch cfg send s (.signed reporter) (.submitValue queryId value nonce queryData) =
      .error (.module .invalidNonce) := by
  have hneither : ¬ (nonce = s.oracle.count queryId ∨ nonce = 0) := by omega
  simp only [dispatch, ensureSigned, submitValue, ensure, Outcome.guard, if_pos hvalue, if_neg hneither]
  rfl

/-- A submission gets the number of values reported before it, which is the one it names if it names
any. Through every later run it keeps that number, and no submission is accepted that names this or an
earlier one. -/
theorem numbered_of_reaches {send : Sender} {s₁ : State AccountId} {reporter : AccountId}
    {value : Value} {nonce : ℕ} {queryData : QueryData} (h : Reachable cfg s)
    (hsubmit : dispatch cfg send s (.signed reporter) (.submitValue queryId value nonce queryData) =
      .ok s₁)
    (hreaches : Reaches (step cfg) (Admissible cfg) s₁ s') :
    (nonce = 0 ∨ nonce = s.oracle.count queryId) ∧
      s'.oracle.getTimestampByQueryIdAndIndex queryId (s.oracle.count queryId) = some s.now ∧
      s'.oracle.getTimestampIndexByTimestamp queryId s.now = some (s.oracle.count queryId) ∧
      ∀ send' reporter' value' nonce' queryData', value' ≠ [] → 0 < nonce' →
        nonce' ≤ s.oracle.count queryId →
          dispatch cfg send' s' (.signed reporter') (.submitValue queryId value' nonce' queryData') =
            .error (.module .invalidNonce) := by
  obtain ⟨account, horigin, hsubmitted⟩ := bind_eq_ok.mp hsubmit
  cases ensureSigned_eq_ok.mp horigin
  obtain ⟨staker, hsubmission⟩ := submitValue_submission hsubmitted
  have heffect : Effect cfg s (.extrinsic send (.signed reporter)
      (.submitValue queryId value nonce queryData)) s₁ := .submitted rfl hsubmission
  have hfirst : s₁.oracle.reportedTimestampsByIndex.lookup (queryId, s.oracle.count queryId) =
      some s.now := by
    rw [(congrArg State.oracle hsubmission.state_eq :), Oracle.submit_index, if_pos ⟨rfl, rfl⟩]
  obtain ⟨hseries, hindex⟩ :=
    index_kept_of_reaches hreaches (heffect.seriesStep.preserves h.seriesInvariant) hfirst
  have hcount : s.oracle.count queryId < s'.oracle.count queryId :=
    ((hseries.series queryId).defined _).mp ⟨s.now, hindex⟩
  refine ⟨(submitValue_nonce hsubmitted).symm, hindex, ?_, ?_⟩
  · obtain ⟨report, hreport, hnumber⟩ := (hseries.series queryId).report_at _ _ hindex
    rw [Oracle.getTimestampIndexByTimestamp, hreport, Option.map_some, hnumber]
  · intro send' reporter' value' nonce' queryData' hvalue hpositive hle
    exact dispatch_invalidNonce hvalue hpositive (hle.trans_lt hcount)

/-- The second report is disputed, and a third comes after it. -/
theorem numbered_of_reaches_disputed :
    let s := run (step Mock.config)
      [Mock.deposit 7, Mock.deposit 8, Mock.deposit 9, Mock.block 10, Mock.submit 7, Mock.block 20]
      Mock.genesis
    let s' := run (step Mock.config) [Mock.block 30, Mock.dispute 9 20, Mock.submit 9]
      (step Mock.config (Mock.submit 8) s)
    s'.oracle.getTimestampByQueryIdAndIndex Mock.queryId 1 = some (Mock.start + 20) ∧
      dispatch Mock.config Mock.send s' (.signed 7) (.submitValue Mock.queryId [2] 1 []) =
        .error (.module .invalidNonce) := by
  intro s s'
  have haccepted : (dispatch Mock.config Mock.send s (.signed 8)
      (.submitValue Mock.queryId [1] 0 [])).isOk = true := by decide +kernel
  obtain ⟨later, hlater⟩ := isOk_iff_exists.mp haccepted
  have hstep : step Mock.config (Mock.submit 8) s = later := by
    change applyCall Mock.config Mock.send s (.signed 8) (.submitValue Mock.queryId [1] 0 []) = later
    rw [applyCall, hlater]
  have hcount : s.oracle.count Mock.queryId = 1 := by decide +kernel
  have hnow : s.now = Mock.start + 20 := by decide +kernel
  have hnumbered := numbered_of_reaches (Mock.reachableBy_run _ (by decide +kernel)) (hstep ▸ hlater)
    (reaches_run _ _ (by decide +kernel) : Reaches (step Mock.config) (Admissible Mock.config)
      (step Mock.config (Mock.submit 8) s) s')
  rw [hcount, hnow] at hnumbered
  exact ⟨hnumbered.2.1, hnumbered.2.2.2 Mock.send 7 [2] 1 [] (by decide) (by decide) (by decide)⟩

end TellorPallet
