import TellorPallet.Governance.Runs
import TellorPallet.Oracle.Log
import TellorPallet.Staking.Runs

/-!
# The counters of reports

The pallet counts reports three times: for each query, for each reporter, whose votes in disputes they
weigh, and for each of both. In every reachable state all three are the numbers of stored reports,
disputed ones included, whatever became of the reporters' stakes.
-/

namespace TellorPallet

open Outcome Transition

variable {AccountId : Type} [DecidableEq AccountId]

/-- `get_reports_submitted_by_address`. -/
def Staking.getReportsSubmittedByAddress (st : Staking AccountId) (reporter : AccountId) : ℕ :=
  (st.stakerDetails.lookup reporter).elim 0 StakeInfo.reportsSubmitted

/-- `get_reports_submitted_by_address_and_query_id`. -/
def Staking.getReportsSubmittedByAddressAndQueryId (st : Staking AccountId) (reporter : AccountId)
    (queryId : QueryId) : ℕ :=
  FiniteMap.read st.stakerReportsSubmittedByQueryId 0 (reporter, queryId)

namespace Oracle

/-- Who reported for a query at which time. -/
def submissions (o : Oracle AccountId) : Finset (QueryId × ℕ × AccountId) :=
  o.reports.keys.biUnion fun key ↦
    (o.reports.lookup key).elim ∅ fun report ↦ {(key.1, key.2, report.reporter)}

variable {o o' : Oracle AccountId} {queryId : QueryId} {timestamp : ℕ} {reporter : AccountId}

theorem mem_submissions : (queryId, timestamp, reporter) ∈ o.submissions ↔
    o.getReporterByTimestamp queryId timestamp = some reporter := by
  rw [submissions, getReporterByTimestamp, Finset.mem_biUnion, Option.map_eq_some_iff]
  constructor
  · rintro ⟨⟨q, t⟩, -, hmem⟩
    cases hreport : o.reports.lookup (q, t) with
    | none =>
      rw [hreport] at hmem
      exact absurd hmem (Finset.notMem_empty _)
    | some report =>
      rw [hreport] at hmem
      obtain ⟨rfl, rfl, rfl⟩ : queryId = q ∧ timestamp = t ∧ reporter = report.reporter := by
        simpa using hmem
      exact ⟨report, hreport, rfl⟩
  · rintro ⟨report, hreport, rfl⟩
    refine ⟨(queryId, timestamp), FiniteMap.mem_keys_of_lookup hreport, ?_⟩
    rw [hreport]
    exact Finset.mem_singleton_self _

/-- A submission is a new one. -/
theorem submissions_submit {now blockNumber : ℕ} {value : Value}
    (hfresh : o.reports.lookup (queryId, now) = none) :
    (queryId, now, reporter) ∉ o.submissions ∧
      (o.submit queryId now blockNumber reporter value).submissions =
        insert (queryId, now, reporter) o.submissions := by
  constructor
  · rw [mem_submissions, getReporterByTimestamp, hfresh]
    exact Option.some_ne_none reporter ∘ Eq.symm
  · ext ⟨q, t, account⟩
    rw [Finset.mem_insert, mem_submissions, mem_submissions, getReporterByTimestamp, submit_reports]
    split
    · next heq =>
      obtain ⟨rfl, rfl⟩ := heq
      simp [submitted, getReporterByTimestamp, hfresh, eq_comm]
    · next hne =>
      have hother : (q, t, account) ≠ (queryId, now, reporter) := by
        intro heq
        obtain ⟨hq, hrest⟩ := Prod.mk.inj heq
        exact hne ⟨hq, (Prod.mk.inj hrest).1⟩
      simp only [hother, false_or, getReporterByTimestamp]

/-- A removal keeps the report. -/
theorem Removed.submissions_eq {report : Report AccountId}
    (h : Removed o queryId timestamp report o') : o'.submissions = o.submissions := by
  ext ⟨q, t, account⟩
  have hreporter : o'.getReporterByTimestamp q t = o.getReporterByTimestamp q t := by
    rw [getReporterByTimestamp, getReporterByTimestamp, h.reports_eq]
    split
    · next heq =>
      rw [heq.1, heq.2, h.report_eq]
      rfl
    · rw [Option.map_map]
      exact Option.map_congr fun other _ ↦ relinked_reporter q other
  rw [mem_submissions, mem_submissions, hreporter]

end Oracle

/-! ## Moves -/

/-- Two states of the staking items agree on the counters of reports. -/
structure SameCounters (st st' : Staking AccountId) : Prop where
  byAddress : ∀ reporter,
    st'.getReportsSubmittedByAddress reporter = st.getReportsSubmittedByAddress reporter
  byQuery : st'.stakerReportsSubmittedByQueryId = st.stakerReportsSubmittedByQueryId

/-- What an input does to the reports and to their counters. -/
inductive CountsMove (s s' : State AccountId) : Prop where
  | kept (hsubmissions : s'.oracle.submissions = s.oracle.submissions)
      (hcount : s'.oracle.reportedTimestampCount = s.oracle.reportedTimestampCount)
      (hcounters : SameCounters s.staking s'.staking)
  | submitted {queryId : QueryId} {reporter : AccountId} {value : Value} {staker : StakeInfo}
      (hfresh : s.oracle.reports.lookup (queryId, s.now) = none)
      (hstaker : s.staking.stakerDetails.lookup reporter = some staker)
      (horacle : s'.oracle = s.oracle.submit queryId s.now s.blockNumber reporter value)
      (hstaking : s'.staking = s.staking.countReport reporter queryId (staker.reported s.now))

section Moves

variable {cfg : Config AccountId} {s s₁ s' : State AccountId} {st st' st'' : Staking AccountId}

theorem SameCounters.refl (st : Staking AccountId) : SameCounters st st := ⟨fun _ ↦ rfl, rfl⟩

theorem SameCounters.trans (h : SameCounters st st') (h' : SameCounters st' st'') :
    SameCounters st st'' :=
  ⟨fun reporter ↦ (h'.byAddress reporter).trans (h.byAddress reporter), h'.byQuery.trans h.byQuery⟩

theorem SameCounters.of_details (hdetails : st'.stakerDetails = st.stakerDetails)
    (hquery : st'.stakerReportsSubmittedByQueryId = st.stakerReportsSubmittedByQueryId) :
    SameCounters st st' :=
  ⟨fun reporter ↦ by rw [Staking.getReportsSubmittedByAddress, hdetails,
    Staking.getReportsSubmittedByAddress], hquery⟩

/-- A stored record with as many reports as another record counts. -/
theorem getReportsSubmittedByAddress_insert {reporter : AccountId} {info : StakeInfo}
    (hdetails : st'.stakerDetails = st.stakerDetails.insert reporter info)
    (hinfo : info.reportsSubmitted = st.getReportsSubmittedByAddress reporter) (account : AccountId) :
    st'.getReportsSubmittedByAddress account = st.getReportsSubmittedByAddress account := by
  rw [Staking.getReportsSubmittedByAddress, hdetails, FiniteMap.lookup_insert_ite]
  split
  · next heq => rw [Option.elim_some, hinfo, heq]
  · rfl

theorem doAddStakingRewards_sameCounters {source : AccountId} {amount : ℕ}
    (h : doAddStakingRewards cfg s source amount = .ok s') : SameCounters s.staking s'.staking := by
  obtain ⟨st, rate, -, hrewards, hstate⟩ := doAddStakingRewards_eq_ok h
  rw [hstate, Staking.updateRewards_frame hrewards]
  exact .of_details rfl rfl

theorem payReward_sameCounters {reporter : AccountId} {reward : ℕ}
    (h : payReward cfg s reporter reward = .ok s') : SameCounters s.staking s'.staking := by
  obtain ⟨fee, ledger, -, -, -, hadd⟩ := payReward_eq_ok h
  have hadded := doAddStakingRewards_sameCounters hadd
  exact hadded

theorem Reported.sameCounters {reporter : AccountId} {settled : Option ℕ} {info info' : StakeInfo}
    {event : Event AccountId} (h : Reported cfg s reporter settled info s₁ info' event s') :
    SameCounters s.staking s'.staking := by
  have hmoves := h.invariant
    (fun after ↦ after.1.staking.stakerDetails = s.staking.stakerDetails ∧
      after.1.staking.stakerReportsSubmittedByQueryId = s.staking.stakerReportsSubmittedByQueryId ∧
      after.2.reportsSubmitted = info.reportsSubmitted)
    (by
      rintro before after ⟨hdetails, hquery, hreports⟩ hmove
      cases hmove with
      | settle hsettled h =>
        obtain ⟨u, st, st₁, stake', -, hrewards, hpaid, hrestaked, -⟩ :=
          updateStakeAndPayRewards_eq_ok h
        have hst := Staking.updateRewards_frame hrewards
        have hleft : st₁.stakerDetails = st.stakerDetails ∧
            st₁.stakerReportsSubmittedByQueryId = st.stakerReportsSubmittedByQueryId := by
          rcases hpaid with ⟨-, stake, pending, hpaid⟩ | ⟨-, -, rfl⟩
          · rw [hpaid.state_eq]
            exact ⟨rfl, rfl⟩
          · exact ⟨rfl, rfl⟩
        rw [hrestaked.state_eq, hrestaked.info_eq]
        dsimp only
        rw [hleft.1, hleft.2, hst]
        exact ⟨hdetails, hquery, hreports⟩
      | release hlocked htotal => exact ⟨hdetails, hquery, hreports⟩
      | lock amount => exact ⟨hdetails, hquery, hreports⟩
      | note startDate startVoteCount startVoteTally => exact ⟨hdetails, hquery, hreports⟩)
    ⟨rfl, rfl, rfl⟩
  obtain ⟨hdetails, hquery, hreports⟩ := hmoves
  have hbefore : info.reportsSubmitted = s.staking.getReportsSubmittedByAddress reporter := by
    rw [Staking.getReportsSubmittedByAddress]
    rcases h.record_eq with hrecord | ⟨hnone, address, rfl⟩
    · rw [hrecord, Option.elim_some]
    · rw [hnone, Option.elim_none]
      rfl
  have hafter : s'.staking.stakerDetails = s.staking.stakerDetails.insert reporter info' := by
    rw [h.state_eq, ← hdetails]
    rfl
  refine ⟨getReportsSubmittedByAddress_insert hafter (hreports.trans hbefore), ?_⟩
  rw [h.state_eq, ← hquery]
  rfl

theorem Withdrawn.sameCounters {reporter : AccountId} {amount : ℕ} {info : StakeInfo}
    (h : Withdrawn s reporter amount info s') : SameCounters s.staking s'.staking := by
  have hinfo : info.reportsSubmitted = s.staking.getReportsSubmittedByAddress reporter := by
    rw [Staking.getReportsSubmittedByAddress, h.record_eq, Option.elim_some]
  rw [h.state_eq]
  exact ⟨getReportsSubmittedByAddress_insert rfl hinfo, rfl⟩

theorem CountsMove.of_eq (horacle : s'.oracle = s.oracle)
    (hcounters : SameCounters s.staking s'.staking) : CountsMove s s' :=
  .kept (by rw [horacle]) (by rw [horacle]) hcounters

theorem CountsMove.unchanged (horacle : s'.oracle = s.oracle) (hstaking : s'.staking = s.staking) :
    CountsMove s s' :=
  .of_eq horacle (by rw [hstaking]; exact .refl _)

theorem Effect.countsMove {input : Input AccountId} (h : Effect cfg s input s')
    (hseries : SeriesInvariant s) : CountsMove s s' := by
  cases h with
  | refused => exact .unchanged rfl rfl
  | minor hinput h => exact .unchanged (minor_oracle_eq h).1 (minor_staking_eq h)
  | newBlock h => exact .unchanged rfl rfl
  | external hbound hpallet => exact .unchanged rfl rfl
  | tipped hsigner h =>
    rw [h.frame]
    exact .unchanged rfl rfl
  | feedSetUp hbalance h =>
    rw [h.frame]
    exact .unchanged rfl rfl
  | feedSetUpFunded hsigner hbalance h hfunded =>
    rw [hfunded.frame, h.frame]
    exact .unchanged rfl rfl
  | feedFunded hsigner h =>
    rw [h.frame]
    exact .unchanged rfl rfl
  | onetimeClaimed hsigner h =>
    have hpaid := payReward_sameCounters h.paid
    refine .of_eq (congrArg State.oracle h.frame :) ?_
    rw [h.state_eq]
    exact hpaid
  | feedClaimed hsigner h =>
    have hpaid := payReward_sameCounters h.paid
    refine .of_eq (congrArg State.oracle h.frame :) ?_
    rw [h.state_eq]
    exact hpaid
  | rewardsAdded hsigner h hevents hquiet =>
    have hadded := doAddStakingRewards_sameCounters h
    refine .of_eq ?_ ?_
    · rw [hevents, doAddStakingRewards_frame h]
    · rw [hevents]
      exact hadded
  | submitted hevent h => exact .submitted h.fresh h.staker_eq (by rw [h.state_eq]) (by rw [h.state_eq])
  | disputed hsigner hround hmax hprepared hopened =>
    rw [hopened.state_eq]
    rcases hprepared with ⟨-, iterations, hfirst⟩ | ⟨-, rfl, -⟩
    · obtain ⟨report, hremoved⟩ :=
        Oracle.removeValue_removed (hseries.series _).toIndexed hfirst.removed
      rw [hfirst.state_eq]
      exact .kept hremoved.submissions_eq hremoved.count_eq (.refl _)
    · exact .unchanged rfl rfl
  | tallied h =>
    rw [h.state_eq]
    exact .unchanged rfl rfl
  | executed h =>
    rw [h.state_eq]
    exact .unchanged rfl rfl
  | reported hevent haccepted hcall h => exact .of_eq (congrArg State.oracle h.frame :) h.sameCounters
  | withdrawn h => exact .of_eq (congrArg State.oracle h.state_eq :) h.sameCounters

end Moves

/-! ## The invariant -/

/-- All counters are the numbers of the reports they count. -/
structure ReportsCounted (s : State AccountId) : Prop where
  byQuery : ∀ queryId, s.oracle.getNewValueCountByQueryId queryId =
    (s.oracle.submissions.filter fun submission ↦ submission.1 = queryId).card
  byAddress : ∀ reporter, s.staking.getReportsSubmittedByAddress reporter =
    (s.oracle.submissions.filter fun submission ↦ submission.2.2 = reporter).card
  byBoth : ∀ reporter queryId, s.staking.getReportsSubmittedByAddressAndQueryId reporter queryId =
    (s.oracle.submissions.filter fun submission ↦
      submission.1 = queryId ∧ submission.2.2 = reporter).card

section Invariant

variable {cfg : Config AccountId} {s s' : State AccountId}

/-- A new element is counted where it satisfies the predicate. -/
theorem card_filter_insert {α : Type} [DecidableEq α] {items : Finset α} {a : α} (h : a ∉ items)
    (p : α → Prop) [DecidablePred p] :
    ((insert a items).filter p).card = (items.filter p).card + if p a then 1 else 0 := by
  rw [Finset.filter_insert]
  split
  · exact Finset.card_insert_of_notMem fun hmem ↦ h (Finset.mem_of_mem_filter a hmem)
  · rfl

theorem CountsMove.reportsCounted (h : CountsMove s s') (hinv : ReportsCounted s) :
    ReportsCounted s' := by
  cases h with
  | kept hsubmissions hcount hcounters =>
    refine ⟨fun q ↦ ?_, fun r ↦ ?_, fun r q ↦ ?_⟩
    · rw [hsubmissions, ← hinv.byQuery, Oracle.getNewValueCountByQueryId, Oracle.count, hcount]
      rfl
    · rw [hsubmissions, ← hinv.byAddress, hcounters.byAddress]
    · rw [hsubmissions, ← hinv.byBoth, Staking.getReportsSubmittedByAddressAndQueryId,
        hcounters.byQuery, Staking.getReportsSubmittedByAddressAndQueryId]
  | @submitted queryId reporter value staker hfresh hstaker horacle hstaking =>
    have hsubmissions : (queryId, s.now, reporter) ∉ s.oracle.submissions ∧
        s'.oracle.submissions = insert (queryId, s.now, reporter) s.oracle.submissions := by
      rw [horacle]
      exact Oracle.submissions_submit hfresh
    obtain ⟨hnew, hinsert⟩ := hsubmissions
    refine ⟨fun q ↦ ?_, fun r ↦ ?_, fun r q ↦ ?_⟩
    · rw [hinsert, card_filter_insert hnew, ← hinv.byQuery, horacle, Oracle.getNewValueCountByQueryId,
        Oracle.submit_count, Oracle.getNewValueCountByQueryId]
      by_cases hq : q = queryId
      · rw [if_pos hq, if_pos hq.symm, hq]
      · rw [if_neg hq, if_neg (Ne.symm hq), Nat.add_zero]
    · have hdetails : s'.staking.stakerDetails =
          s.staking.stakerDetails.insert reporter (staker.reported s.now) := by
        rw [hstaking]
        rfl
      rw [hinsert, card_filter_insert hnew, ← hinv.byAddress, Staking.getReportsSubmittedByAddress,
        hdetails, FiniteMap.lookup_insert_ite, Staking.getReportsSubmittedByAddress]
      by_cases hr : r = reporter
      · rw [if_pos hr, if_pos hr.symm, hr, hstaker]
        rfl
      · rw [if_neg hr, if_neg (Ne.symm hr), Nat.add_zero]
    · have hquery : s'.staking.getReportsSubmittedByAddressAndQueryId r q =
          if (r, q) = (reporter, queryId) then
            s.staking.getReportsSubmittedByAddressAndQueryId reporter queryId + 1
          else s.staking.getReportsSubmittedByAddressAndQueryId r q := by
        rw [hstaking]
        exact FiniteMap.read_insert ..
      rw [hinsert, card_filter_insert hnew, ← hinv.byBoth, hquery]
      by_cases hboth : q = queryId ∧ r = reporter
      · obtain ⟨rfl, rfl⟩ := hboth
        rw [if_pos rfl, if_pos ⟨rfl, rfl⟩]
      · rw [if_neg fun heq ↦ hboth ⟨(Prod.mk.inj heq).2, (Prod.mk.inj heq).1⟩,
          if_neg fun heq ↦ hboth ⟨heq.1.symm, heq.2.symm⟩, Nat.add_zero]

/-- In every reachable state the counters of reports are the numbers of stored reports: for each query,
for each reporter and for each of both. -/
theorem reportsCounted_of_reachable (h : Reachable cfg s) : ReportsCounted s := by
  have hinv : SeriesInvariant s ∧ ReportsCounted s := by
    refine h.invariant (fun s : State AccountId ↦ SeriesInvariant s ∧ ReportsCounted s)
      (fun s₀ hgenesis ↦ ?_) fun s₀ input s₁ hbefore heffect ↦ ?_
    · refine ⟨seriesInvariant_genesis hgenesis, ?_⟩
      obtain ⟨ledger, blockNumber, now, -, rfl⟩ := hgenesis
      exact ⟨fun _ ↦ rfl, fun _ ↦ rfl, fun _ _ ↦ rfl⟩
    · exact ⟨heffect.seriesStep.preserves hbefore.1,
        (heffect.countsMove hbefore.1).reportsCounted hbefore.2⟩
  exact hinv.2

/-- With three reports, the second of them disputed. -/
theorem reportsCounted_of_reports :
    ReportsCounted (run (step Mock.config) Mock.reports Mock.genesis) :=
  reportsCounted_of_reachable (Mock.reachableBy_run Mock.reports (by decide +kernel))

end Invariant

end TellorPallet
