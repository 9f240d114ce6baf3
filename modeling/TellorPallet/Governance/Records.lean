import TellorPallet.Governance.Counters
import TellorPallet.Oracle.Log

/-!
# The records of disputes

The oracle marks a disputed report and drops its value, the governance part records the dispute under an
identifier and lists it under the reporter. In every reachable state these agree: the disputed reports
are those of the recorded disputes. So a submitted value is always found in one of the two places.
-/

namespace TellorPallet

open Outcome Transition

variable {AccountId : Type} [DecidableEq AccountId]

namespace Governance

/-- `get_dispute_info`. -/
def getDisputeInfo (g : Governance AccountId) (disputeId : DisputeId) :
    Option (QueryId × ℕ × Value × AccountId) :=
  (g.disputeInfo.lookup disputeId).map fun dispute ↦
    (dispute.queryId, dispute.timestamp, dispute.value, dispute.disputedReporter)

/-- `get_disputes_by_reporter`. -/
def getDisputesByReporter (g : Governance AccountId) (reporter : AccountId) : List DisputeId :=
  ((g.disputeIdsByReporter.keys.filter fun key ↦ key.1 = reporter).image Prod.snd).sort (· ≤ ·)

variable {g : Governance AccountId} {reporter : AccountId} {disputeId : DisputeId}

theorem mem_getDisputesByReporter :
    disputeId ∈ g.getDisputesByReporter reporter ↔
      g.disputeIdsByReporter.lookup (reporter, disputeId) = some () := by
  have hkeys : (reporter, disputeId) ∈ g.disputeIdsByReporter.keys ↔
      g.disputeIdsByReporter.lookup (reporter, disputeId) = some () := by
    rw [Finmap.mem_keys, ← Finmap.lookup_isSome, Option.isSome_iff_exists]
    exact ⟨fun ⟨_, h⟩ ↦ h, fun h ↦ ⟨(), h⟩⟩
  rw [← hkeys, getDisputesByReporter, Finset.mem_sort, Finset.mem_image]
  constructor
  · rintro ⟨⟨account, d⟩, hmem, rfl⟩
    obtain ⟨hkey, haccount⟩ := Finset.mem_filter.mp hmem
    have hreporter : account = reporter := haccount
    rwa [← hreporter]
  · intro hkey
    exact ⟨(reporter, disputeId), Finset.mem_filter.mpr ⟨hkey, rfl⟩, rfl⟩

end Governance

/-! ## Moves -/

section Moves

variable {cfg : Config AccountId} {s s' : State AccountId}

/-- Two states agree on the records of disputes. -/
structure SameRecords (s s' : State AccountId) : Prop where
  info : s'.governance.disputeInfo = s.governance.disputeInfo
  listed : s'.governance.disputeIdsByReporter = s.governance.disputeIdsByReporter

/-- What an input does to the reports and to the records of their disputes. -/
inductive RecordsMove (cfg : Config AccountId) (s s' : State AccountId) : Prop where
  | kept (horacle : s'.oracle = s.oracle) (hrecords : SameRecords s s')
  | submitted {queryId : QueryId} {reporter : AccountId} {value : Value}
      (hfresh : s.oracle.reports.lookup (queryId, s.now) = none)
      (horacle : s'.oracle = s.oracle.submit queryId s.now s.blockNumber reporter value)
      (hrecords : SameRecords s s')
  | disputed {dispute : Dispute AccountId} {iterations : ℕ}
      (hfirst : s.governance.rounds (disputeIdOf cfg dispute.queryId dispute.timestamp) = 0)
      (hremoved : s.oracle.removeValue cfg.maxDisputedTimeSeries dispute.queryId dispute.timestamp =
        .ok (iterations, s'.oracle))
      (hvalue : s.oracle.retrieveData dispute.queryId dispute.timestamp = some dispute.value)
      (hreporter : s.oracle.getReporterByTimestamp dispute.queryId dispute.timestamp =
        some dispute.disputedReporter)
      (hinfo : s'.governance.disputeInfo = s.governance.disputeInfo.insert
        (disputeIdOf cfg dispute.queryId dispute.timestamp) dispute)
      (hlisted : s'.governance.disputeIdsByReporter = s.governance.disputeIdsByReporter.insert
        (dispute.disputedReporter, disputeIdOf cfg dispute.queryId dispute.timestamp) ())

theorem RecordsMove.of_eq (horacle : s'.oracle = s.oracle) (hgovernance : s'.governance = s.governance) :
    RecordsMove cfg s s' :=
  .kept horacle ⟨by rw [hgovernance], by rw [hgovernance]⟩

theorem Minor.sameRecords (h : Minor cfg s s') : SameRecords s s' := by
  cases h with
  | funded haccount h => exact ⟨rfl, rfl⟩
  | registered hevent h =>
    obtain ⟨-, rfl⟩ := State.sendXcm_eq_ok.mp h
    exact ⟨rfl, rfl⟩
  | priced h hquiet => exact ⟨by rw [h], by rw [h]⟩
  | voted h =>
    rw [h.state_eq]
    exact ⟨rfl, rfl⟩
  | sent hpending h =>
    rw [h.state_eq]
    exact ⟨rfl, rfl⟩

theorem minor_sameRecords (h : Relation.ReflTransGen (Minor cfg) s s') : SameRecords s s' := by
  induction h with
  | refl => exact ⟨rfl, rfl⟩
  | tail _ hlast ih =>
    have hsame := hlast.sameRecords
    exact ⟨hsame.info.trans ih.info, hsame.listed.trans ih.listed⟩

theorem Submission.recordsMove {reporter : AccountId} {queryId : QueryId} {value : Value}
    {staker : StakeInfo} {event : Event AccountId}
    (h : Submission s reporter queryId value s' staker event) : RecordsMove cfg s s' := by
  rw [h.state_eq]
  exact .submitted h.fresh rfl ⟨rfl, rfl⟩

theorem Effect.recordsMove {input : Input AccountId} (h : Effect cfg s input s') :
    RecordsMove cfg s s' := by
  cases h with
  | refused => exact .of_eq rfl rfl
  | minor hinput h => exact .kept (minor_oracle_eq h).1 (minor_sameRecords h)
  | newBlock h => exact .of_eq rfl rfl
  | external hbound hpallet => exact .of_eq rfl rfl
  | tipped hsigner h =>
    rw [h.frame]
    exact .of_eq rfl rfl
  | feedSetUp hbalance h =>
    rw [h.frame]
    exact .of_eq rfl rfl
  | feedSetUpFunded hsigner hbalance h hfunded =>
    rw [hfunded.frame, h.frame]
    exact .of_eq rfl rfl
  | feedFunded hsigner h =>
    rw [h.frame]
    exact .of_eq rfl rfl
  | onetimeClaimed hsigner h =>
    rw [h.frame]
    exact .of_eq rfl rfl
  | feedClaimed hsigner h =>
    rw [h.frame]
    exact .of_eq rfl rfl
  | rewardsAdded hsigner h hevents hquiet =>
    rw [hevents, doAddStakingRewards_frame h]
    exact .of_eq rfl rfl
  | submitted hevent h => exact h.recordsMove
  | disputed hsigner hround hmax hprepared hopened =>
    rw [hopened.state_eq]
    rcases hprepared with ⟨hfirst, iterations, h⟩ | ⟨-, rfl, -⟩
    · have hquery := h.queryId_eq
      have htime := h.timestamp_eq
      subst hquery htime
      rw [h.state_eq]
      exact .disputed (by omega) h.removed h.value_eq h.reporter_eq rfl rfl
    · exact .kept rfl ⟨rfl, rfl⟩
  | tallied h =>
    rw [h.state_eq]
    exact .kept rfl ⟨rfl, rfl⟩
  | executed h =>
    rw [h.state_eq]
    exact .kept rfl ⟨rfl, rfl⟩
  | reported hevent haccepted hcall h =>
    rw [h.frame]
    exact .of_eq rfl rfl
  | withdrawn h =>
    rw [h.state_eq]
    exact .of_eq rfl rfl

end Moves

/-! ## Reports and their disputes -/

/-- The disputed reports are those of the recorded disputes, and each is listed under its reporter. -/
structure DisputesRecorded (cfg : Config AccountId) (s : State AccountId) : Prop where
  report : ∀ d dispute, s.governance.disputeInfo.lookup d = some dispute →
    d = disputeIdOf cfg dispute.queryId dispute.timestamp ∧
      s.oracle.getReportDetails dispute.queryId dispute.timestamp = some (dispute.disputedReporter, true)
  dispute : ∀ q t reporter, s.oracle.getReportDetails q t = some (reporter, true) →
    ∃ dispute, s.governance.disputeInfo.lookup (disputeIdOf cfg q t) = some dispute ∧
      dispute.queryId = q ∧ dispute.timestamp = t
  listed : ∀ reporter d, s.governance.disputeIdsByReporter.lookup (reporter, d) = some () ↔
    ∃ dispute, s.governance.disputeInfo.lookup d = some dispute ∧ dispute.disputedReporter = reporter

section Invariant

variable {cfg : Config AccountId} {s s' : State AccountId}

omit [DecidableEq AccountId] in
/-- A removal marks one report and leaves the details of all others. -/
theorem Oracle.Removed.getReportDetails_eq {o o' : Oracle AccountId} {queryId : QueryId}
    {timestamp : ℕ} {report : Report AccountId} (h : Oracle.Removed o queryId timestamp report o')
    (q : QueryId) (t : ℕ) :
    o'.getReportDetails q t =
      if q = queryId ∧ t = timestamp then some (report.reporter, true) else o.getReportDetails q t := by
  rw [Oracle.getReportDetails, h.reports_eq]
  split
  · rfl
  · rw [Option.map_map, Oracle.getReportDetails]
    refine Option.map_congr fun other _ ↦ ?_
    rw [Function.comp_apply, Oracle.relinked_reporter, Oracle.relinked_isDisputed]

omit [DecidableEq AccountId] in
theorem getReportDetails_submit {o : Oracle AccountId} {queryId : QueryId} {now blockNumber : ℕ}
    {reporter : AccountId} {value : Value} (q : QueryId) (t : ℕ) :
    (o.submit queryId now blockNumber reporter value).getReportDetails q t =
      if q = queryId ∧ t = now then some (reporter, false) else o.getReportDetails q t := by
  rw [Oracle.getReportDetails, Oracle.submit_reports]
  split <;> rfl

omit [DecidableEq AccountId] in
/-- A removed report is that of the reporter who is read before. -/
theorem Oracle.Removed.reporter_eq {o o' : Oracle AccountId} {queryId : QueryId} {timestamp : ℕ}
    {report : Report AccountId} (h : Oracle.Removed o queryId timestamp report o') {reporter : AccountId}
    (hreporter : o.getReporterByTimestamp queryId timestamp = some reporter) :
    report.reporter = reporter := by
  rw [Oracle.getReporterByTimestamp, h.report_eq] at hreporter
  exact Option.some.inj hreporter

theorem RecordsMove.disputesRecorded (h : RecordsMove cfg s s') (hseries : SeriesInvariant s)
    (hcounted : DisputesCounted s.governance) (hinv : DisputesRecorded cfg s) :
    DisputesRecorded cfg s' := by
  cases h with
  | kept horacle hrecords =>
    constructor
    · simpa only [horacle, hrecords.info] using hinv.report
    · simpa only [horacle, hrecords.info] using hinv.dispute
    · simpa only [hrecords.info, hrecords.listed] using hinv.listed
  | @submitted queryId reporter value hfresh horacle hrecords =>
    have hdisputed : ∀ q t account, s'.oracle.getReportDetails q t = some (account, true) ↔
        s.oracle.getReportDetails q t = some (account, true) := by
      intro q t account
      rw [horacle, getReportDetails_submit]
      split
      · next heq =>
        rw [heq.1, heq.2, Oracle.getReportDetails, hfresh]
        simp
      · rfl
    constructor
    · simpa only [hdisputed, hrecords.info] using hinv.report
    · simpa only [hdisputed, hrecords.info] using hinv.dispute
    · simpa only [hrecords.info, hrecords.listed] using hinv.listed
  | @disputed dispute iterations hfirst hremoved hvalue hreporter hinfo hlisted =>
    obtain ⟨report, hremoval⟩ :=
      Oracle.removeValue_removed (hseries.series dispute.queryId).toIndexed hremoved
    have hmarked := hremoval.reporter_eq hreporter
    have hdetails := hremoval.getReportDetails_eq
    have hnew : s.governance.disputeInfo.lookup
        (disputeIdOf cfg dispute.queryId dispute.timestamp) = none := by
      cases hbefore : s.governance.disputeInfo.lookup
          (disputeIdOf cfg dispute.queryId dispute.timestamp) with
      | none => rfl
      | some before =>
        have hopened := hcounted.opened _ before hbefore
        omega
    refine ⟨fun d other hother ↦ ?_, fun q t reporter hreport ↦ ?_, fun reporter d ↦ ?_⟩
    · rw [hinfo, FiniteMap.lookup_insert_ite] at hother
      rw [hdetails]
      split at hother
      · next hd =>
        cases hother
        rw [if_pos ⟨rfl, rfl⟩, hmarked]
        exact ⟨hd, rfl⟩
      · obtain ⟨hd, hreport⟩ := hinv.report d other hother
        refine ⟨hd, ?_⟩
        split
        · next heq =>
          rw [hd, heq.1, heq.2, hnew] at hother
          cases hother
        · exact hreport
    · rw [hdetails] at hreport
      rw [hinfo, FiniteMap.lookup_insert_ite]
      split at hreport
      · next heq =>
        rw [heq.1, heq.2, if_pos rfl]
        exact ⟨dispute, rfl, rfl, rfl⟩
      · obtain ⟨other, hother, hquery, htime⟩ := hinv.dispute q t reporter hreport
        rw [if_neg fun heq ↦ by rw [heq, hnew] at hother; cases hother]
        exact ⟨other, hother, hquery, htime⟩
    · rw [hlisted, hinfo, FiniteMap.lookup_insert_ite, FiniteMap.lookup_insert_ite]
      by_cases hd : d = disputeIdOf cfg dispute.queryId dispute.timestamp
      · rw [if_pos hd]
        have hbefore := hinv.listed reporter d
        rw [hd, hnew] at hbefore
        split
        · next heq => simp [(Prod.mk.inj heq).1]
        · next hne =>
          have hother : dispute.disputedReporter ≠ reporter := fun heq ↦ hne (by rw [heq, hd])
          rw [hd, hbefore]
          simp [hother]
      · rw [if_neg hd, if_neg fun heq ↦ hd (Prod.mk.inj heq).2]
        exact hinv.listed reporter d

/-- Where the value of a submission is found: in the oracle, or in the record of the dispute that struck
it. -/
def SubmissionFound (cfg : Config AccountId) (queryId : QueryId) (timestamp : ℕ) (reporter : AccountId)
    (value : Value) (s : State AccountId) : Prop :=
  (s.oracle.getReportDetails queryId timestamp = some (reporter, false) ∧
    s.oracle.retrieveData queryId timestamp = some value) ∨
  (s.oracle.getReportDetails queryId timestamp = some (reporter, true) ∧
    s.oracle.retrieveData queryId timestamp = none ∧
    s.governance.getDisputeInfo (disputeIdOf cfg queryId timestamp) =
      some (queryId, timestamp, value, reporter))

variable {queryId : QueryId} {timestamp : ℕ} {reporter : AccountId} {value : Value}

omit [DecidableEq AccountId] in
theorem SubmissionFound.exists_details (h : SubmissionFound cfg queryId timestamp reporter value s) :
    ∃ disputed, s.oracle.getReportDetails queryId timestamp = some (reporter, disputed) := by
  rcases h with ⟨hreport, -⟩ | ⟨hreport, -, -⟩
  · exact ⟨false, hreport⟩
  · exact ⟨true, hreport⟩

theorem RecordsMove.submissionFound (h : RecordsMove cfg s s') (hseries : SeriesInvariant s)
    (hcounted : DisputesCounted s.governance)
    (hfound : SubmissionFound cfg queryId timestamp reporter value s) :
    SubmissionFound cfg queryId timestamp reporter value s' := by
  obtain ⟨disputed, hdetails⟩ := hfound.exists_details
  cases h with
  | kept horacle hrecords =>
    unfold SubmissionFound Governance.getDisputeInfo
    rw [horacle, hrecords.info]
    exact hfound
  | @submitted q account other hfresh horacle hrecords =>
    have hne : ¬(queryId = q ∧ timestamp = s.now) := by
      rintro ⟨rfl, rfl⟩
      rw [Oracle.getReportDetails, hfresh] at hdetails
      cases hdetails
    have hreport : s'.oracle.getReportDetails queryId timestamp =
        s.oracle.getReportDetails queryId timestamp := by
      rw [horacle, getReportDetails_submit, if_neg hne]
    have hdata : s'.oracle.retrieveData queryId timestamp = s.oracle.retrieveData queryId timestamp := by
      rw [horacle, Oracle.retrieveData, Oracle.submit_values, if_neg hne, Oracle.retrieveData]
    unfold SubmissionFound Governance.getDisputeInfo
    rw [hreport, hdata, hrecords.info]
    exact hfound
  | @disputed dispute iterations hfirst hremoved hvalue hreporter hinfo hlisted =>
    obtain ⟨report, hremoval⟩ :=
      Oracle.removeValue_removed (hseries.series dispute.queryId).toIndexed hremoved
    have hdata : s'.oracle.retrieveData queryId timestamp =
        if queryId = dispute.queryId ∧ timestamp = dispute.timestamp then none
        else s.oracle.retrieveData queryId timestamp := by
      rw [Oracle.retrieveData, hremoval.values_eq, FiniteMap.lookup_erase_ite]
      simp only [Prod.mk.injEq]
      rfl
    by_cases heq : queryId = dispute.queryId ∧ timestamp = dispute.timestamp
    · -- the submission itself is disputed: its value is still there, and goes into the record
      obtain ⟨rfl, rfl⟩ := heq
      have hmarked : report.reporter = reporter := by
        rw [Oracle.getReportDetails, hremoval.report_eq] at hdetails
        exact (Prod.mk.inj (Option.some.inj hdetails)).1
      have hstored : s.oracle.retrieveData dispute.queryId dispute.timestamp = some value := by
        rcases hfound with ⟨-, hstored⟩ | ⟨-, hnone, -⟩
        · exact hstored
        · rw [hnone] at hvalue
          cases hvalue
      have hsame : dispute.value = value := Option.some.inj (hvalue.symm.trans hstored)
      have hdisputed : dispute.disputedReporter = reporter :=
        (hremoval.reporter_eq hreporter).symm.trans hmarked
      refine Or.inr ⟨?_, ?_, ?_⟩
      · rw [hremoval.getReportDetails_eq, if_pos ⟨rfl, rfl⟩, hmarked]
      · rw [hdata, if_pos ⟨rfl, rfl⟩]
      · rw [Governance.getDisputeInfo, hinfo, FiniteMap.lookup_insert_ite, if_pos rfl, Option.map_some,
          hsame, hdisputed]
    · rw [if_neg heq] at hdata
      have hreport : s'.oracle.getReportDetails queryId timestamp =
          s.oracle.getReportDetails queryId timestamp := by
        rw [hremoval.getReportDetails_eq, if_neg heq]
      rcases hfound with ⟨hvalid, hstored⟩ | ⟨hmarked, hnone, hrecord⟩
      · exact Or.inl ⟨hreport.trans hvalid, hdata.trans hstored⟩
      · refine Or.inr ⟨hreport.trans hmarked, hdata.trans hnone, ?_⟩
        -- a first round opens no dispute that is recorded already
        have hother : disputeIdOf cfg queryId timestamp ≠
            disputeIdOf cfg dispute.queryId dispute.timestamp := by
          intro hid
          obtain ⟨before, hbefore, -⟩ := Option.map_eq_some_iff.mp hrecord
          have hopened := hcounted.opened _ before hbefore
          rw [hid] at hopened
          omega
        rw [Governance.getDisputeInfo, hinfo, FiniteMap.lookup_insert_ite, if_neg hother]
        exact hrecord

end Invariant

/-! ## Runs -/

section Runs

variable {cfg : Config AccountId} {s s₁ s' : State AccountId} {queryId : QueryId} {reporter : AccountId}
  {value : Value}

theorem Reachable.disputesRecorded (h : Reachable cfg s) : DisputesRecorded cfg s := by
  have hinv : SeriesInvariant s ∧ Counted s.governance ∧ DisputesRecorded cfg s := by
    refine h.invariant
      (fun s : State AccountId ↦ SeriesInvariant s ∧ Counted s.governance ∧ DisputesRecorded cfg s)
      (fun s₀ hgenesis ↦ ?_) fun s₀ input s₁ hbefore heffect ↦ ?_
    · have hreachable : Reachable cfg s₀ := ⟨s₀, hgenesis, Reaches.refl s₀⟩
      refine ⟨hreachable.seriesInvariant, hreachable.counted, ?_⟩
      obtain ⟨ledger, blockNumber, now, -, rfl⟩ := hgenesis
      constructor <;> simp [State.genesis, Oracle.getReportDetails]
    · obtain ⟨hseries, hcounted, hrecorded⟩ := hbefore
      exact ⟨heffect.seriesStep.preserves hseries, heffect.counted hcounted,
        heffect.recordsMove.disputesRecorded hseries hcounted.disputes hrecorded⟩
  exact hinv.2.2

/-- In every reachable state the disputed reports are exactly those of the recorded disputes, under the
identifier of their query and time, and a reporter's list of disputes holds each of these once. -/
theorem disputes_of_reachable (h : Reachable cfg s) :
    (∀ queryId timestamp reporter,
      s.oracle.getReportDetails queryId timestamp = some (reporter, true) ↔
        ∃ value, s.governance.getDisputeInfo (disputeIdOf cfg queryId timestamp) =
          some (queryId, timestamp, value, reporter)) ∧
    (∀ disputeId queryId timestamp value reporter,
      s.governance.getDisputeInfo disputeId = some (queryId, timestamp, value, reporter) →
        disputeId = disputeIdOf cfg queryId timestamp) ∧
    ∀ reporter, (s.governance.getDisputesByReporter reporter).Nodup ∧
      ∀ disputeId, disputeId ∈ s.governance.getDisputesByReporter reporter ↔
        ∃ queryId timestamp, disputeId = disputeIdOf cfg queryId timestamp ∧
          s.oracle.getReportDetails queryId timestamp = some (reporter, true) := by
  have hrecorded := h.disputesRecorded
  have hinfo : ∀ disputeId queryId timestamp value reporter,
      s.governance.getDisputeInfo disputeId = some (queryId, timestamp, value, reporter) →
        disputeId = disputeIdOf cfg queryId timestamp ∧
          s.oracle.getReportDetails queryId timestamp = some (reporter, true) := by
    intro disputeId queryId timestamp value reporter hsome
    obtain ⟨dispute, hdispute, heq⟩ := Option.map_eq_some_iff.mp hsome
    cases heq
    exact hrecorded.report disputeId dispute hdispute
  have hdisputed : ∀ queryId timestamp reporter,
      s.oracle.getReportDetails queryId timestamp = some (reporter, true) →
        ∃ dispute, s.governance.disputeInfo.lookup (disputeIdOf cfg queryId timestamp) = some dispute ∧
          dispute.queryId = queryId ∧ dispute.timestamp = timestamp ∧
          dispute.disputedReporter = reporter := by
    intro queryId timestamp reporter hdetails
    obtain ⟨dispute, hdispute, rfl, rfl⟩ := hrecorded.dispute queryId timestamp reporter hdetails
    have hreport := (hrecorded.report _ dispute hdispute).2
    rw [hdetails] at hreport
    exact ⟨dispute, hdispute, rfl, rfl, (Prod.mk.inj (Option.some.inj hreport)).1.symm⟩
  refine ⟨fun q t account ↦ ⟨fun hdetails ↦ ?_, fun ⟨value, hsome⟩ ↦ (hinfo _ q t value account hsome).2⟩,
    fun d q t value account hsome ↦ (hinfo d q t value account hsome).1,
    fun account ↦ ⟨Finset.sort_nodup _ _, fun d ↦ ?_⟩⟩
  · obtain ⟨dispute, hdispute, rfl, rfl, rfl⟩ := hdisputed q t account hdetails
    exact ⟨dispute.value, by rw [Governance.getDisputeInfo, hdispute, Option.map_some]⟩
  · rw [Governance.mem_getDisputesByReporter, hrecorded.listed]
    constructor
    · rintro ⟨dispute, hdispute, rfl⟩
      exact ⟨dispute.queryId, dispute.timestamp, hrecorded.report d dispute hdispute⟩
    · rintro ⟨q, t, rfl, hdetails⟩
      obtain ⟨dispute, hdispute, -, -, hreporter⟩ := hdisputed q t account hdetails
      exact ⟨dispute, hdispute, hreporter⟩

/-- With three reports, the second of them disputed. -/
theorem disputes_of_reachable_reports :
    let s := run (step Mock.config) Mock.reports Mock.genesis
    ∀ queryId timestamp reporter,
      s.oracle.getReportDetails queryId timestamp = some (reporter, true) ↔
        ∃ value, s.governance.getDisputeInfo (disputeIdOf Mock.config queryId timestamp) =
          some (queryId, timestamp, value, reporter) :=
  (disputes_of_reachable (Mock.reachableBy_run Mock.reports (by decide +kernel))).1

theorem SubmissionFound.of_reaches {timestamp : ℕ} (hreaches : Reaches (step cfg) (Admissible cfg) s s')
    (hseries : SeriesInvariant s) (hcounted : Counted s.governance)
    (hfound : SubmissionFound cfg queryId timestamp reporter value s) :
    SubmissionFound cfg queryId timestamp reporter value s' := by
  have hstep : ∀ (s : State AccountId) (input : Input AccountId),
      SeriesInvariant s ∧ Counted s.governance ∧
        SubmissionFound cfg queryId timestamp reporter value s → Admissible cfg s input →
      SeriesInvariant (step cfg input s) ∧ Counted (step cfg input s).governance ∧
        SubmissionFound cfg queryId timestamp reporter value (step cfg input s) := by
    intro s input hinv hadmits
    obtain ⟨hseries, hcounted, hfound⟩ := hinv
    have heffect := step_effect hadmits
    exact ⟨heffect.seriesStep.preserves hseries, heffect.counted hcounted,
      heffect.recordsMove.submissionFound hseries hcounted.disputes hfound⟩
  exact (hreaches.invariant hstep ⟨hseries, hcounted, hfound⟩).2.2

/-- No submitted value is ever lost: whatever happens after a submission, its value is stored under its
query and time, or, once that report is disputed, in the record of the dispute. -/
theorem submissionFound_of_reaches {send : Sender} {nonce : ℕ} {queryData : QueryData}
    (h : Reachable cfg s)
    (hsubmit : dispatch cfg send s (.signed reporter) (.submitValue queryId value nonce queryData) =
      .ok s₁)
    (hreaches : Reaches (step cfg) (Admissible cfg) s₁ s') :
    SubmissionFound cfg queryId s.now reporter value s' := by
  obtain ⟨account, horigin, hsubmitted⟩ := bind_eq_ok.mp hsubmit
  cases ensureSigned_eq_ok.mp horigin
  obtain ⟨staker, hsubmission⟩ := submitValue_submission hsubmitted
  have heffect : Effect cfg s (.extrinsic send (.signed reporter)
      (.submitValue queryId value nonce queryData)) s₁ := .submitted rfl hsubmission
  have horacle : s₁.oracle = s.oracle.submit queryId s.now s.blockNumber reporter value :=
    (congrArg State.oracle hsubmission.state_eq :)
  refine SubmissionFound.of_reaches hreaches (heffect.seriesStep.preserves h.seriesInvariant)
    (heffect.counted h.counted) (Or.inl ⟨?_, ?_⟩)
  · rw [horacle, getReportDetails_submit, if_pos ⟨rfl, rfl⟩]
  · rw [horacle, Oracle.retrieveData, Oracle.submit_values, if_pos ⟨rfl, rfl⟩]

/-- The second of three reports, disputed after the third. -/
theorem submissionFound_of_reaches_disputed :
    let s := run (step Mock.config)
      [Mock.deposit 7, Mock.deposit 8, Mock.deposit 9, Mock.block 20] Mock.genesis
    let s' := run (step Mock.config) [Mock.block 30, Mock.submit 9, Mock.dispute 9 20]
      (step Mock.config (Mock.submit 8) s)
    s'.oracle.isInDispute Mock.queryId s.now = true ∧
      SubmissionFound Mock.config Mock.queryId s.now 8 [1] s' := by
  intro s s'
  have haccepted : (dispatch Mock.config Mock.send s (.signed 8)
      (.submitValue Mock.queryId [1] 0 [])).isOk = true := by decide +kernel
  obtain ⟨later, hlater⟩ := isOk_iff_exists.mp haccepted
  have hstep : step Mock.config (Mock.submit 8) s = later := by
    change applyCall Mock.config Mock.send s (.signed 8) (.submitValue Mock.queryId [1] 0 []) = later
    rw [applyCall, hlater]
  exact ⟨by decide +kernel, submissionFound_of_reaches
    (Mock.reachableBy_run _ (by decide +kernel)) (hstep ▸ hlater)
    (reaches_run _ _ (by decide +kernel))⟩

end Runs

end TellorPallet
