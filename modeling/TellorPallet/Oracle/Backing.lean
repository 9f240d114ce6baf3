import TellorPallet.Oracle.Runs
import TellorPallet.Staking.Runs

/-!
# Reports against stakes

The reporting lock of a reporter with `n` stake amounts staked is the `n`-th part of the full lock, in
thousandths of a second and rounded down. As it is compared strictly, a reporter that never had more
than `k` stakes never made more than `k` submissions within the full lock, whatever the queries and
whatever the stake amount did in between.
-/

namespace TellorPallet

open Outcome Transition

variable {AccountId : Type} [DecidableEq AccountId] (cfg : Config AccountId)

/-- A submission, with the number of stake amounts its reporter had staked. -/
structure Submitted (AccountId : Type) where
  reporter : AccountId
  timestamp : ℕ
  stakes : ℕ
deriving DecidableEq

/-- `staked_balance / StakeAmount` of a reporter. -/
def State.stakes (s : State AccountId) (reporter : AccountId) : ℕ :=
  (s.staking.stakerDetails.lookup reporter).elim 0 StakeInfo.stakedBalance / s.prices.stakeAmount

/-- Every successful `submit_value` is recorded. -/
def recordSubmission (s : State AccountId) (input : Input AccountId)
    (submissions : List (Submitted AccountId)) : List (Submitted AccountId) :=
  match input with
  | .extrinsic send (.signed reporter) (.submitValue queryId value nonce queryData) =>
    match dispatch cfg send s (.signed reporter) (.submitValue queryId value nonce queryData) with
    | .ok _ => submissions ++ [⟨reporter, s.now, s.stakes reporter⟩]
    | .error _ => submissions
  | _ => submissions

/-- The submissions of a reporter from `start` to `finish`. -/
def submissionsIn (submissions : List (Submitted AccountId)) (reporter : AccountId)
    (start finish : ℕ) : List (Submitted AccountId) :=
  submissions.filter fun submission ↦
    submission.reporter = reporter ∧ start ≤ submission.timestamp ∧ submission.timestamp ≤ finish

/-! ## Spaced points -/

section Spaced

variable {gap start finish : ℕ}

/-- Points at least a gap apart take up a gap each, but the last. -/
theorem length_mul_le_of_spaced {points : List ℕ} (hspaced : points.Pairwise fun a b ↦ a + gap ≤ b)
    (hfrom : ∀ p ∈ points, start ≤ p) (hto : ∀ p ∈ points, p ≤ finish) :
    (points.length - 1) * gap ≤ finish - start := by
  induction points generalizing start with
  | nil => simp
  | cons a rest ih =>
    obtain ⟨hafter, hrest⟩ := List.pairwise_cons.mp hspaced
    have htail := ih hrest hafter fun p hp ↦ hto p (List.mem_cons_of_mem a hp)
    have hstart : start ≤ a := hfrom a List.mem_cons_self
    have hfinish : a ≤ finish := hto a List.mem_cons_self
    cases rest with
    | nil => simp
    | cons b rest =>
      have hb : a + gap ≤ finish :=
        (hafter b List.mem_cons_self).trans (hto b (List.mem_cons_of_mem a List.mem_cons_self))
      simp only [List.length_cons, Nat.add_sub_cancel] at htail ⊢
      calc (rest.length + 1) * gap = rest.length * gap + gap := by ring
        _ ≤ (finish - (a + gap)) + gap := Nat.add_le_add_right htail gap
        _ ≤ finish - start := by omega

/-- Fewer points than parts fit into a length when consecutive ones are more than a part of it apart. -/
theorem length_le_of_spaced {points : List ℕ} {length k : ℕ} (hk : 1 ≤ k)
    (hspaced : points.Pairwise fun a b ↦ a + (length / k + 1) ≤ b)
    (hfrom : ∀ p ∈ points, start ≤ p) (hto : ∀ p ∈ points, p ≤ start + length) :
    points.length ≤ k := by
  have hfits := length_mul_le_of_spaced hspaced hfrom hto
  rw [Nat.add_sub_cancel_left] at hfits
  have hpart : length < (length / k + 1) * k := Nat.lt_div_mul_add hk |>.trans_eq (by ring)
  by_contra hmore
  have hlast : k ≤ points.length - 1 := by omega
  have hfill : k * (length / k + 1) ≤ length := (Nat.mul_le_mul_right _ hlast).trans hfits
  rw [Nat.mul_comm] at hfill
  exact absurd hpart (not_lt.mpr hfill)

end Spaced

/-! ## The lock -/

section Lock

variable {cfg} {s s' : State AccountId} {reporter : AccountId}

/-- The timestamp of the last submission of a reporter. -/
def Staking.lastReport (st : Staking AccountId) (reporter : AccountId) : ℕ :=
  (st.stakerDetails.lookup reporter).elim 0 StakeInfo.reporterLastTimestamp

omit [DecidableEq AccountId] in
theorem ensureLockPassed_lock_lt {now stakeAmount : ℕ} {staker : StakeInfo}
    (h : ensureLockPassed now stakeAmount staker = .ok ()) :
    0 < staker.stakedBalance / stakeAmount ∧
      reportingLock * 1000 / (staker.stakedBalance / stakeAmount) <
        (now - staker.reporterLastTimestamp) * 1000 := by
  simp only [ensureLockPassed, bind_eq_ok, okOr_eq_ok, guard_eq_ok, Checked.sub_eq_some,
    Checked.mul_eq_some, Checked.div_eq_some] at h
  obtain ⟨_, ⟨-, rfl⟩, _, ⟨-, rfl⟩, _, ⟨-, rfl⟩, _, ⟨-, rfl⟩, _, ⟨hstakes, rfl⟩, hlock⟩ := h
  exact ⟨Nat.pos_of_ne_zero hstakes, hlock⟩

/-- A submission comes later than the lock after the last one, and is the last one from then on. -/
theorem lock_lt_of_submitValue {queryId : QueryId} {value : Value} {nonce : ℕ} {queryData : QueryData}
    (h : submitValue cfg s reporter queryId value nonce queryData = .ok s') :
    (0 < s.stakes reporter ∧ reportingLock * 1000 / s.stakes reporter <
        (s.now - s.staking.lastReport reporter) * 1000) ∧
      s'.staking.lastReport reporter = s.now ∧ s'.now = s.now := by
  have hstate : ∃ staker, s.staking.stakerDetails.lookup reporter = some staker ∧
      s'.staking = s.staking.countReport reporter queryId (staker.reported s.now) ∧
      s'.now = s.now := by
    obtain ⟨staker, hsubmission⟩ := submitValue_submission h
    rw [hsubmission.state_eq]
    exact ⟨staker, hsubmission.staker_eq, rfl, rfl⟩
  obtain ⟨staker, hstaker, hstaking, hnow⟩ := hstate
  simp only [submitValue, bind_eq_ok, okOr_eq_ok, guard_eq_ok, exists_const] at h
  obtain ⟨-, -, staker', hstaker', -, u, hlock, -⟩ := h
  rw [hstaker] at hstaker'
  cases hstaker'
  refine ⟨?_, ?_, hnow⟩
  · rw [State.stakes, Staking.lastReport, hstaker, Option.elim_some, Option.elim_some]
    exact ensureLockPassed_lock_lt hlock
  · rw [hstaking, Staking.lastReport, Staking.countReport, Finmap.lookup_insert, Option.elim_some]
    rfl

end Lock

section Clock

variable {cfg} {s s' : State AccountId} {input : Input AccountId}

/-- A stored record with another record's last report in place of it. -/
theorem lastReport_insert {st : Staking AccountId} {staker : AccountId} {info : StakeInfo}
    (h : info.reporterLastTimestamp = st.lastReport staker) (reporter : AccountId) :
    ((st.stakerDetails.insert staker info).lookup reporter).elim 0 StakeInfo.reporterLastTimestamp =
      st.lastReport reporter := by
  rw [FiniteMap.lookup_insert_ite]
  split
  · next hreporter => rw [Option.elim_some, h, hreporter]
  · rfl

/-- A report of the staking contract leaves the last reports alone. -/
theorem Reported.lastReport_eq {staker : AccountId} {settled : Option ℕ} {info info' : StakeInfo}
    {s₁ : State AccountId} {event : Event AccountId}
    (h : Reported cfg s staker settled info s₁ info' event s') (reporter : AccountId) :
    s'.staking.lastReport reporter = s.staking.lastReport reporter := by
  have hmoves := h.invariant
    (fun after ↦ after.1.staking.stakerDetails = s.staking.stakerDetails ∧
      after.2.reporterLastTimestamp = info.reporterLastTimestamp)
    (by
      rintro before after ⟨hdetails, hlast⟩ hmove
      cases hmove with
      | settle hsettled h =>
        obtain ⟨u, st, st₁, stake', -, hrewards, hpaid, hrestaked, -⟩ :=
          updateStakeAndPayRewards_eq_ok h
        have hst := Staking.updateRewards_frame hrewards
        have hleft : st₁.stakerDetails = st.stakerDetails := by
          rcases hpaid with ⟨-, stake, pending, hpaid⟩ | ⟨-, -, rfl⟩
          · rw [hpaid.state_eq]
          · rfl
        rw [hrestaked.state_eq, hrestaked.info_eq]
        dsimp only
        rw [hleft, hst]
        exact ⟨hdetails, hlast⟩
      | release hlocked htotal => exact ⟨hdetails, hlast⟩
      | lock amount => exact ⟨hdetails, hlast⟩
      | note startDate startVoteCount startVoteTally => exact ⟨hdetails, hlast⟩)
    ⟨rfl, rfl⟩
  have hbefore : info.reporterLastTimestamp = s.staking.lastReport staker := by
    unfold Staking.lastReport
    rcases h.record_eq with hrecord | ⟨hnone, address, rfl⟩
    · rw [hrecord, Option.elim_some]
    · rw [hnone, Option.elim_none]
      rfl
  have hafter : s'.staking.stakerDetails = s.staking.stakerDetails.insert staker info' := by
    rw [h.state_eq, ← hmoves.1]
    rfl
  rw [Staking.lastReport, hafter]
  exact lastReport_insert (hmoves.2.trans hbefore) reporter

/-- A last report stays as it is, or becomes the current time. -/
theorem StakingStep.lastReport (h : StakingStep cfg s input s') (reporter : AccountId) :
    s'.staking.lastReport reporter = s.staking.lastReport reporter ∨
      s'.staking.lastReport reporter = s.now := by
  cases h with
  | unchanged hstaking hbalance => exact Or.inl (by rw [hstaking])
  | rewarded hbalance hrewards hstaking =>
    apply Or.inl
    rw [hstaking, Staking.updateRewards_frame hrewards]
    rfl
  | @submitted _ _ submitter queryId staker hstaker hledger hstaking =>
    have hlookup : s'.staking.stakerDetails.lookup reporter =
        if reporter = submitter then some (staker.reported s.now)
        else s.staking.stakerDetails.lookup reporter := by
      rw [hstaking]
      exact FiniteMap.lookup_insert_ite _ _ _ _
    unfold Staking.lastReport
    rw [hlookup]
    split
    · exact Or.inr rfl
    · exact Or.inl rfl
  | reported haccepted hcall h => exact Or.inl (h.lastReport_eq reporter)
  | @withdrawn _ staker amount info _ h =>
    apply Or.inl
    rw [h.state_eq]
    apply lastReport_insert
    change _ = (s.staking.stakerDetails.lookup staker).elim 0 StakeInfo.reporterLastTimestamp
    rw [h.record_eq, Option.elim_some]

end Clock

/-! ## The invariant -/

/-- Two submissions of one reporter are further apart than the lock at the second of them. -/
def Locked (earlier later : Submitted AccountId) : Prop :=
  earlier.reporter = later.reporter → 0 < later.stakes ∧
    reportingLock * 1000 / later.stakes < (later.timestamp - earlier.timestamp) * 1000

/-- The submissions of each reporter are locked against each other, and end with its last report. -/
structure Backed (s : State AccountId) (submissions : List (Submitted AccountId)) : Prop where
  locked : submissions.Pairwise Locked
  le_last : ∀ submission ∈ submissions,
    submission.timestamp ≤ s.staking.lastReport submission.reporter
  last_le : ∀ reporter, s.staking.lastReport reporter ≤ s.now

section Runs

variable {cfg} {s s' : State AccountId} {submissions : List (Submitted AccountId)}

omit [DecidableEq AccountId] in
theorem SeriesStep.now_le (h : SeriesStep cfg s s') : s.now ≤ s'.now := by
  cases h with
  | unchanged horacle hnow => exact hnow
  | submitted hnow hpositive hfresh hvalue horacle => exact hnow.ge
  | removed hnow hreported hlock hremoved => exact hnow.ge

/-- An input that is not recorded keeps the invariant. -/
theorem Effect.backed {input : Input AccountId} (h : Effect cfg s input s')
    (hinv : Backed s submissions) : Backed s' submissions := by
  have hnow := h.seriesStep.now_le
  have hlast := h.stakingStep.lastReport
  refine ⟨hinv.locked, ?_, ?_⟩
  · intro submission hmem
    have hle := hinv.le_last submission hmem
    have hbound := hinv.last_le submission.reporter
    rcases hlast submission.reporter with hsame | hupdated
    · rw [hsame]
      exact hle
    · rw [hupdated]
      exact hle.trans hbound
  · intro reporter
    rcases hlast reporter with hsame | hupdated
    · rw [hsame]
      exact (hinv.last_le reporter).trans hnow
    · rw [hupdated]
      exact hnow

/-- A submission is locked against all earlier ones of its reporter. -/
theorem Backed.submitted {reporter : AccountId} {queryId : QueryId} {value : Value} {nonce : ℕ}
    {queryData : QueryData} {input : Input AccountId} (hinv : Backed s submissions)
    (heffect : Effect cfg s input s')
    (h : submitValue cfg s reporter queryId value nonce queryData = .ok s') :
    Backed s' (submissions ++ [⟨reporter, s.now, s.stakes reporter⟩]) := by
  obtain ⟨⟨hpositive, hlock⟩, hlast, hnow⟩ := lock_lt_of_submitValue h
  have hkept := heffect.backed hinv
  refine ⟨?_, ?_, hkept.last_le⟩
  · apply List.pairwise_append.mpr
    refine ⟨hinv.locked, List.pairwise_singleton _ _, ?_⟩
    intro earlier hearlier later hlater hreporter
    rw [List.mem_singleton] at hlater
    rw [hlater] at hreporter ⊢
    have hle := hinv.le_last earlier hearlier
    rw [hreporter] at hle
    refine ⟨hpositive, ?_⟩
    calc reportingLock * 1000 / s.stakes reporter
        < (s.now - s.staking.lastReport reporter) * 1000 := hlock
      _ ≤ (s.now - earlier.timestamp) * 1000 := by
        apply Nat.mul_le_mul_right
        exact Nat.sub_le_sub_left hle _
  · intro submission hmem
    rcases List.mem_append.mp hmem with hold | hnew
    · exact hkept.le_last submission hold
    · rw [List.mem_singleton] at hnew
      rw [hnew, hlast]

theorem ReachedWith.backed
    (h : ReachedWith cfg (recordSubmission cfg) [] (Admissible cfg) s submissions) :
    Backed s submissions := by
  apply h.invariant Backed
  · intro s₀ hgenesis
    obtain ⟨ledger, blockNumber, now, -, rfl⟩ := hgenesis
    refine ⟨List.Pairwise.nil, ?_, ?_⟩
    · intro submission hmem
      cases hmem
    · intro reporter
      exact Nat.zero_le _
  · intro s₀ submissions₀ input hinv hadmitted
    have heffect := step_effect hadmitted
    unfold recordSubmission
    split
    · next send reporter queryId value nonce queryData =>
      split
      · next s₁ haccepted =>
        have hstep : step cfg (.extrinsic send (.signed reporter)
            (.submitValue queryId value nonce queryData)) s₀ = s₁ := by
          simp only [step, applyCall, haccepted]
        rw [hstep] at heffect ⊢
        exact hinv.submitted heffect haccepted
      · exact heffect.backed hinv
    · exact heffect.backed hinv

/-- In every run, a reporter whose stake was worth at most `k` stake amounts at each of its
submissions in a span of at most the reporting lock made at most `k` submissions in that span. -/
theorem length_submissionsIn_le
    (h : ReachedWith cfg (recordSubmission cfg) [] (Admissible cfg) s submissions)
    (reporter : AccountId) {k start finish : ℕ} (hk : 1 ≤ k)
    (hspan : finish ≤ start + reportingLock)
    (hstakes : ∀ submission ∈ submissionsIn submissions reporter start finish,
      submission.stakes ≤ k) :
    (submissionsIn submissions reporter start finish).length ≤ k := by
  have hmem : ∀ submission ∈ submissionsIn submissions reporter start finish,
      submission.reporter = reporter ∧ start ≤ submission.timestamp ∧
        submission.timestamp ≤ finish := by
    intro submission hsubmission
    simpa [submissionsIn] using (List.mem_filter.mp hsubmission).2
  -- in thousandths of a second, as the code compares
  let points := (submissionsIn submissions reporter start finish).map
    fun submission ↦ submission.timestamp * 1000
  have hspaced : points.Pairwise fun a b ↦ a + (reportingLock * 1000 / k + 1) ≤ b := by
    apply List.pairwise_map.mpr
    have hlocked : (submissionsIn submissions reporter start finish).Pairwise Locked :=
      h.backed.locked.filter _
    apply hlocked.imp_of_mem
    intro earlier later hearlier hlater hlock
    obtain ⟨hpositive, hgap⟩ :=
      hlock ((hmem earlier hearlier).1.trans (hmem later hlater).1.symm)
    have hpart : reportingLock * 1000 / k ≤ reportingLock * 1000 / later.stakes :=
      Nat.div_le_div_left (hstakes later hlater) hpositive
    have hbefore : (later.timestamp - earlier.timestamp) * 1000 =
        later.timestamp * 1000 - earlier.timestamp * 1000 := Nat.sub_mul _ _ _
    generalize reportingLock * 1000 / k = part at hpart ⊢
    omega
  have hfrom : ∀ p ∈ points, start * 1000 ≤ p := by
    intro p hp
    obtain ⟨submission, hsubmission, rfl⟩ := List.mem_map.mp hp
    exact Nat.mul_le_mul_right _ (hmem submission hsubmission).2.1
  have hto : ∀ p ∈ points, p ≤ start * 1000 + reportingLock * 1000 := by
    intro p hp
    obtain ⟨submission, hsubmission, rfl⟩ := List.mem_map.mp hp
    have hlast := (hmem submission hsubmission).2.2
    omega
  have hlength : points.length ≤ k := length_le_of_spaced hk hspaced hfrom hto
  rwa [List.length_map] at hlength

end Runs

namespace Mock

/-- A staker with two stake amounts submits three times, each as soon as it may. -/
def twoStakes : List (Input ℕ) :=
  [deposit 7, deposit 7, block 10, submit 7, block (6 * hours + 11), submit 7,
    block (12 * hours + 12), submit 7]

/-- The state after a list of inputs, with the submissions made. -/
def submitted (inputs : List (Input ℕ)) : State ℕ × List (Submitted ℕ) :=
  run (recording (step config) (recordSubmission config)) inputs (genesis, [])

end Mock

theorem length_submissionsIn_le_twoStakes :
    let submissions := (Mock.submitted Mock.twoStakes).2
    submissions.length = 3 ∧
      (submissionsIn submissions 7 (Mock.start + 10) (Mock.start + 10 + reportingLock)).length ≤ 2 :=
  have hreached : ReachedWith Mock.config (recordSubmission Mock.config) [] (Admissible Mock.config)
      (Mock.submitted Mock.twoStakes).1 (Mock.submitted Mock.twoStakes).2 :=
    Mock.reachedWith_run Mock.twoStakes (by decide +kernel)
  ⟨by decide +kernel, length_submissionsIn_le hreached 7 (by decide) le_rfl (by decide +kernel)⟩

end TellorPallet
