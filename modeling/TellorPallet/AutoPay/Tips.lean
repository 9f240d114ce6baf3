import TellorPallet.Staking.Rewards

/-!
# One-time tips

The calls `tip` and `claim_onetime_tip`. A query's tips form a list of entries with cumulative
totals; a claim locates the last entry at or before a report by bisection and, when intermediate
reports were disputed, the first entry after the previous valid report by a second bisection.
-/

namespace TellorPallet

open Outcome

variable {AccountId : Type} [DecidableEq AccountId] (cfg : Config AccountId)

/-- `get_current_tip`. -/
def getCurrentTip (s : State AccountId) (queryId : QueryId) : ℕ :=
  match s.autoPay.countTips queryId with
  | 0 => 0
  | count + 1 =>
    match s.autoPay.tips.lookup (queryId, count) with
    | none => 0
    | some lastTip =>
      if (s.oracle.lastReportedTimestamp.lookup queryId).getD 0 < lastTip.timestamp then
        lastTip.amount
      else 0

/-- `store_data`. -/
def storeData (s : State AccountId) (queryId : QueryId) (queryData : QueryData) : State AccountId :=
  { s with queryData := s.queryData.insert queryId queryData }.depositEvent (.queryDataStored queryId)

namespace AutoPay

/-- Append a tip entry. -/
def pushTip (a : AutoPay AccountId) (queryId : QueryId) (entry : Tip) : AutoPay AccountId :=
  { a with
    tips := a.tips.insert (queryId, a.countTips queryId) entry
    tipCount := a.tipCount.insert queryId (a.countTips queryId + 1) }

/-- Merge an amount into the last tip entry. -/
def mergeTip (a : AutoPay AccountId) (queryId : QueryId) (lastTip : Tip) (amount : ℕ)
    (timestamp : ℕ) : AutoPay AccountId :=
  { a with
    tips := a.tips.insert (queryId, a.countTips queryId - 1)
      { timestamp := timestamp
        amount := Saturating.add cfg.balanceMax lastTip.amount amount
        cumulativeTips := Saturating.add cfg.balanceMax lastTip.cumulativeTips amount } }

/-- The tip entries after `tip`: a first entry, a merge into the last entry while nothing has been
reported for it, or a new entry. -/
def addTip (a : AutoPay AccountId) (lastReported : Option ℕ) (now : ℕ)
    (queryId : QueryId) (amount : ℕ) : Except DispatchError (AutoPay AccountId) := do
  let timestamp ← okOr (Checked.add u64Max now 1) overflow
  if a.countTips queryId = 0 then
    .ok (a.pushTip queryId { amount := amount, timestamp := timestamp, cumulativeTips := amount })
  else
    match a.tips.lookup (queryId, a.countTips queryId - 1) with
    | some lastTip =>
      if lastReported.getD 0 < lastTip.timestamp then
        .ok (a.mergeTip cfg queryId lastTip amount timestamp)
      else do
        let cumulativeTips ← okOr (Checked.add cfg.balanceMax lastTip.cumulativeTips amount) overflow
        .ok (a.pushTip queryId
          { amount := amount, timestamp := timestamp, cumulativeTips := cumulativeTips })
    | none =>
      .ok (a.pushTip queryId { amount := amount, timestamp := timestamp, cumulativeTips := amount })

/-- Add to a user's tip total. -/
def addUserTips (a : AutoPay AccountId) (user : AccountId) (amount : ℕ) : AutoPay AccountId :=
  { a with
    userTipsTotal := a.userTipsTotal.insert user
      (Saturating.add cfg.balanceMax (a.tipsByAddress user) amount) }

/-- List a query as funded when it has a current tip. -/
def listFunded (a : AutoPay AccountId) (queryId : QueryId) (currentTip : ℕ) :
    AutoPay AccountId :=
  if 0 < currentTip then { a with queryIdsWithFunding := a.queryIdsWithFunding.insert queryId () }
  else a

end AutoPay

/-- `tip`. -/
def tip (s : State AccountId) (tipper : AccountId) (queryId : QueryId) (amount : ℕ)
    (queryData : QueryData) : Except DispatchError (State AccountId) := do
  ensure (queryId = cfg.keccak256 queryData) .invalidQueryId
  ensure (0 < amount) .invalidAmount
  let autoPay ← s.autoPay.addTip cfg (s.oracle.lastReportedTimestamp.lookup queryId) s.now queryId
    amount
  let first := s.autoPay.countTips queryId = 0
  let s := { s with autoPay := autoPay }
  let s := if first then storeData s queryId queryData else s
  let s := { s with autoPay := s.autoPay.listFunded queryId (getCurrentTip s queryId) }
  let ledger ← transfer cfg s.ledger tipper cfg.tips amount .expendable
  .ok ({ s with ledger := ledger, autoPay := s.autoPay.addUserTips cfg tipper amount }.depositEvent
    (.tipAdded queryId amount queryData tipper))

/-! ## Claims -/

/-- The bisection of `get_onetime_tip_amount`: narrow `lower..upper` to a single index, keeping
`after` false at the lower end and true at the upper end. `fuel` bounds the number of iterations. -/
def bisect (after : ℕ → Except DispatchError Bool) :
    (fuel lower upper : ℕ) → Except DispatchError ℕ
  | 0, lower, _ => .ok lower
  | fuel + 1, lower, upper => do
    let span ← okOr (Checked.sub upper lower) underflow
    if 1 < span then do
      let middle := (upper + lower) / 2
      if ← after middle then bisect after fuel lower middle else bisect after fuel middle upper
    else .ok lower

namespace AutoPay

/-- The index of the last tip entry at or before `timestamp`, zero when there is none. -/
def lastTipAt (a : AutoPay AccountId) (queryId : QueryId) (timestamp : ℕ) :
    Except DispatchError ℕ :=
  bisect (fun index ↦
      .ok (decide (timestamp < (a.tips.lookup (queryId, index)).elim 0 Tip.timestamp)))
    (a.countTips queryId) 0 (a.countTips queryId)

/-- The index the second bisection yields between zero and `last`, plus one: the entry after the
last one at or before `timestampBefore`. -/
def firstTipAfter (a : AutoPay AccountId) (queryId : QueryId) (timestampBefore : ℕ)
    (last : ℕ) : Except DispatchError ℕ := do
  let lower ← bisect (fun index ↦ do
      let entry ← okOr (a.tips.lookup (queryId, index)) (.module .invalidIndex)
      .ok (decide (timestampBefore < entry.timestamp)))
    last 0 last
  .ok (lower + 1)

/-- Zero the amount of a tip entry that a claim was made through. -/
def clearTip (a : AutoPay AccountId) (queryId : QueryId) (index : ℕ) (entry : Tip) :
    AutoPay AccountId :=
  { a with tips := a.tips.insert (queryId, index) { entry with amount := 0 } }

/-- The amount of a claim that reaches back to the entry `first`. -/
def tipsBetween (a : AutoPay AccountId) (queryId : QueryId) (first last : ℕ) :
    Except DispatchError ℕ := do
  let lastTip ← okOr (a.tips.lookup (queryId, last)) (.module .invalidIndex)
  let firstTip ← okOr (a.tips.lookup (queryId, first)) (.module .invalidIndex)
  let between ← okOr (Checked.sub lastTip.cumulativeTips firstTip.cumulativeTips) underflow
  okOr (Checked.add cfg.balanceMax between firstTip.amount) overflow

end AutoPay

/-- `get_onetime_tip_amount`, with the tips it leaves. -/
def getOnetimeTipAmount (o : Oracle AccountId) (now : ℕ) (a : AutoPay AccountId)
    (queryId : QueryId) (timestamp : ℕ) (claimer : AccountId) :
    Except DispatchError (ℕ × AutoPay AccountId) := do
  let elapsed ← okOr (Checked.sub now timestamp) underflow
  ensure (12 * hours < elapsed) .claimBufferNotPassed
  let report ← okOr (o.reports.lookup (queryId, timestamp)) (.module .invalidTimestamp)
  ensure (report.isDisputed = false) .valueDisputed
  ensure (claimer = report.reporter) .invalidClaimer
  ensure (a.countTips queryId ≠ 0) .noTipsSubmitted
  let last ← a.lastTipAt queryId timestamp
  let timestampBefore := report.previous.getD 0
  let lastTip ← okOr (a.tips.lookup (queryId, last)) (.module .invalidIndex)
  ensure (timestampBefore < lastTip.timestamp) .tipAlreadyEarned
  ensure (lastTip.timestamp ≤ timestamp) .timestampIneligibleForTip
  ensure (0 < lastTip.amount) .tipAlreadyClaimed
  let a := a.clearTip queryId last lastTip
  -- check whether eligible for previous tips in array due to disputes
  match (o.reports.lookup (queryId, timestampBefore)).map Report.index with
  | none => .ok (lastTip.cumulativeTips, a)
  | some indexBefore => do
    let gap ← okOr (Checked.sub report.index indexBefore) underflow
    if 1 < gap then do
      let first ← a.firstTipAfter queryId timestampBefore last
      if first < last then do
        let amount ← a.tipsBetween cfg queryId first last
        .ok (amount, a)
      else .ok (lastTip.amount, a)
    else .ok (lastTip.amount, a)

/-- The loop of `claim_onetime_tip` over the claimed timestamps. -/
def claimTimestamps (o : Oracle AccountId) (now : ℕ) (queryId : QueryId)
    (reporter : AccountId) :
    List ℕ → ℕ × AutoPay AccountId → Except DispatchError (ℕ × AutoPay AccountId)
  | [], claimed => .ok claimed
  | timestamp :: rest, (cumulativeReward, a) => do
    let (amount, a) ← getOnetimeTipAmount cfg o now a queryId timestamp reporter
    claimTimestamps o now queryId reporter rest
      (Saturating.add cfg.balanceMax cumulativeReward amount, a)

/-- Pay a claimed reward out of the tips account: the fee to the staking rewards, the rest to the
reporter. Common to `claim_onetime_tip` and `claim_tip`. -/
def payReward (s : State AccountId) (reporter : AccountId) (reward : ℕ) :
    Except DispatchError (State AccountId) := do
  let product ← okOr (Checked.mul cfg.balanceMax reward cfg.fee) overflow
  let fee := product / 1000
  let net ← okOr (Checked.sub reward fee) underflow
  let ledger ← transfer cfg s.ledger cfg.tips reporter net .protect
  doAddStakingRewards cfg { s with ledger := ledger } cfg.tips fee

/-- `claim_onetime_tip`. -/
def claimOnetimeTip (s : State AccountId) (reporter : AccountId) (queryId : QueryId)
    (timestamps : List ℕ) : Except DispatchError (State AccountId) := do
  ensure (0 < s.autoPay.countTips queryId) .noTipsSubmitted
  let (cumulativeReward, autoPay) ←
    claimTimestamps cfg s.oracle s.now queryId reporter timestamps (0, s.autoPay)
  let s ← payReward cfg { s with autoPay := autoPay } reporter cumulativeReward
  let s := if getCurrentTip s queryId = 0 then
      { s with autoPay := { s.autoPay with
        queryIdsWithFunding := s.autoPay.queryIdsWithFunding.erase queryId } }
    else s
  .ok (s.depositEvent (.oneTimeTipClaimed queryId cumulativeReward reporter))

/-! ## What a successful call did -/

section Effects

variable {cfg} {s s' : State AccountId} {a a' : AutoPay AccountId} {queryId : QueryId}
  {amount : ℕ}

/-- What adding a tip did to the entries: a new entry, whose cumulative total goes on from
`cumulative`, or a merge into the last one. -/
inductive TipAdded (cfg : Config AccountId) (a : AutoPay AccountId) (lastReported : Option ℕ)
    (now : ℕ) (queryId : QueryId) (amount : ℕ) : AutoPay AccountId → Prop where
  | first (hcount : a.countTips queryId = 0) : TipAdded cfg a lastReported now queryId amount
      (a.pushTip queryId { amount := amount, timestamp := now + 1, cumulativeTips := amount })
  | missing (hcount : 0 < a.countTips queryId)
      (hlast : a.tips.lookup (queryId, a.countTips queryId - 1) = none) :
      TipAdded cfg a lastReported now queryId amount
        (a.pushTip queryId { amount := amount, timestamp := now + 1, cumulativeTips := amount })
  | merge {lastTip : Tip} (hcount : 0 < a.countTips queryId)
      (hlast : a.tips.lookup (queryId, a.countTips queryId - 1) = some lastTip)
      (hopen : lastReported.getD 0 < lastTip.timestamp) :
      TipAdded cfg a lastReported now queryId amount
        (a.mergeTip cfg queryId lastTip amount (now + 1))
  | next {lastTip : Tip} (hcount : 0 < a.countTips queryId)
      (hlast : a.tips.lookup (queryId, a.countTips queryId - 1) = some lastTip)
      (hclosed : lastTip.timestamp ≤ lastReported.getD 0)
      (hbound : lastTip.cumulativeTips + amount ≤ cfg.balanceMax) :
      TipAdded cfg a lastReported now queryId amount
        (a.pushTip queryId
          { amount := amount
            timestamp := now + 1
            cumulativeTips := lastTip.cumulativeTips + amount })

omit [DecidableEq AccountId] in
theorem addTip_added {lastReported : Option ℕ} {now : ℕ}
    (h : a.addTip cfg lastReported now queryId amount = .ok a') :
    TipAdded cfg a lastReported now queryId amount a' := by
  simp only [AutoPay.addTip, bind_eq_ok, okOr_eq_ok, Checked.add_eq_some] at h
  obtain ⟨_, ⟨-, rfl⟩, h⟩ := h
  split at h
  · next hcount =>
    cases h
    exact .first hcount
  · next hcount =>
    have hpositive := Nat.pos_of_ne_zero hcount
    split at h
    · next lastTip hlast =>
      split at h
      · next hopen =>
        cases h
        exact .merge hpositive hlast hopen
      · next hclosed =>
        simp only [bind_eq_ok, okOr_eq_ok, Checked.add_eq_some] at h
        obtain ⟨_, ⟨hbound, rfl⟩, h⟩ := h
        cases h
        exact .next hpositive hlast (not_lt.mp hclosed) hbound
    · next hlast =>
      cases h
      exact .missing hpositive hlast

/-- What a tip did. -/
structure Tipped (cfg : Config AccountId) (s : State AccountId) (tipper : AccountId)
    (queryId : QueryId) (amount : ℕ) (a : AutoPay AccountId) (s' : State AccountId) : Prop where
  amount_pos : 0 < amount
  added : TipAdded cfg s.autoPay (s.oracle.lastReportedTimestamp.lookup queryId) s.now queryId amount a
  transferred : transfer cfg s.ledger tipper cfg.tips amount .expendable = .ok s'.ledger
  autoPay_eq : s'.autoPay = { a with
    queryIdsWithFunding := s'.autoPay.queryIdsWithFunding
    userTipsTotal := s'.autoPay.userTipsTotal }
  frame : s' = { s with
    ledger := s'.ledger
    autoPay := s'.autoPay
    queryData := s'.queryData
    events := s'.events }
  quiet : s'.voteEvents = s.voteEvents

omit [DecidableEq AccountId] in
theorem storeData_frame (queryData : QueryData) : storeData s queryId queryData = { s with
    queryData := (storeData s queryId queryData).queryData
    events := (storeData s queryId queryData).events } := rfl

omit [DecidableEq AccountId] in
theorem listFunded_frame (currentTip : ℕ) : a.listFunded queryId currentTip = { a with
    queryIdsWithFunding := (a.listFunded queryId currentTip).queryIdsWithFunding } := by
  unfold AutoPay.listFunded
  split <;> rfl

theorem tip_tipped {tipper : AccountId} {queryData : QueryData}
    (h : tip cfg s tipper queryId amount queryData = .ok s') :
    ∃ a, Tipped cfg s tipper queryId amount a s' := by
  simp only [tip, bind_eq_ok, guard_eq_ok, exists_const] at h
  obtain ⟨-, hpositive, a, hadd, ledger, htransfer, h⟩ := h
  refine ⟨a, hpositive, addTip_added hadd, ?_, ?_, ?_, ?_⟩
  · cases h
    revert htransfer
    split <;> exact id
  · cases h
    dsimp only [State.depositEvent, AutoPay.addUserTips]
    split
    · rw [storeData_frame, listFunded_frame]
    · rw [listFunded_frame]
  · cases h
    dsimp only [State.depositEvent, AutoPay.addUserTips]
    split
    · rfl
    · rfl
  · cases h
    dsimp only [State.voteEvents, State.depositEvent]
    rw [List.filter_append]
    split
    · simp [storeData, State.depositEvent, Event.isVoteEvent]
    · simp [Event.isVoteEvent]

/-- What paying a claimed reward did. -/
theorem payReward_eq_ok {reporter : AccountId} {reward : ℕ}
    (h : payReward cfg s reporter reward = .ok s') :
    ∃ fee ledger, fee = reward * cfg.fee / 1000 ∧ fee ≤ reward ∧
      transfer cfg s.ledger cfg.tips reporter (reward - fee) .protect = .ok ledger ∧
      doAddStakingRewards cfg { s with ledger := ledger } cfg.tips fee = .ok s' := by
  simp only [payReward, bind_eq_ok, okOr_eq_ok, Checked.mul_eq_some, Checked.sub_eq_some] at h
  obtain ⟨_, ⟨-, rfl⟩, _, ⟨hle, rfl⟩, ledger, htransfer, h⟩ := h
  exact ⟨_, ledger, rfl, hle, htransfer, h⟩

theorem payReward_frame {reporter : AccountId} {reward : ℕ}
    (h : payReward cfg s reporter reward = .ok s') :
    s' = { s with ledger := s'.ledger, staking := s'.staking } := by
  obtain ⟨fee, ledger, -, -, -, hadd⟩ := payReward_eq_ok h
  rw [doAddStakingRewards_frame hadd]

/-- What the eligibility checks of a one-time tip found, and the entry they settled on. -/
structure OnetimeTip (o : Oracle AccountId) (now : ℕ) (a : AutoPay AccountId)
    (queryId : QueryId) (timestamp : ℕ) (claimer : AccountId) (report : Report AccountId)
    (last : ℕ) (lastTip : Tip) (a' : AutoPay AccountId) : Prop where
  reported : timestamp ≤ now
  buffer_passed : 12 * hours < now - timestamp
  report_eq : o.reports.lookup (queryId, timestamp) = some report
  valid : report.isDisputed = false
  claimer_eq : claimer = report.reporter
  tips_pos : 0 < a.countTips queryId
  last_eq : a.lastTipAt queryId timestamp = .ok last
  lastTip_eq : a.tips.lookup (queryId, last) = some lastTip
  previous_lt : report.previous.getD 0 < lastTip.timestamp
  lastTip_le : lastTip.timestamp ≤ timestamp
  unclaimed : 0 < lastTip.amount
  autoPay_eq : a' = a.clearTip queryId last lastTip

/-- How the amount of a one-time tip is computed from the entry the checks settled on. -/
inductive OnetimeTipAmount (cfg : Config AccountId) (o : Oracle AccountId) (a : AutoPay AccountId)
    (queryId : QueryId) (report : Report AccountId) (last : ℕ) (lastTip : Tip) : ℕ → Prop where
  | all (hbefore : o.reports.lookup (queryId, report.previous.getD 0) = none) :
      OnetimeTipAmount cfg o a queryId report last lastTip lastTip.cumulativeTips
  | adjacent {before : Report AccountId}
      (hbefore : o.reports.lookup (queryId, report.previous.getD 0) = some before)
      (horder : before.index ≤ report.index) (hgap : report.index - before.index ≤ 1) :
      OnetimeTipAmount cfg o a queryId report last lastTip lastTip.amount
  | single {before : Report AccountId} {first : ℕ}
      (hbefore : o.reports.lookup (queryId, report.previous.getD 0) = some before)
      (horder : before.index ≤ report.index) (hgap : 1 < report.index - before.index)
      (hfirst : a.firstTipAfter queryId (report.previous.getD 0) last = .ok first)
      (hlast : last ≤ first) : OnetimeTipAmount cfg o a queryId report last lastTip lastTip.amount
  | between {before : Report AccountId} {first : ℕ} {amount : ℕ}
      (hbefore : o.reports.lookup (queryId, report.previous.getD 0) = some before)
      (horder : before.index ≤ report.index) (hgap : 1 < report.index - before.index)
      (hfirst : a.firstTipAfter queryId (report.previous.getD 0) last = .ok first)
      (hlast : first < last) (hamount : a.tipsBetween cfg queryId first last = .ok amount) :
      OnetimeTipAmount cfg o a queryId report last lastTip amount

omit [DecidableEq AccountId] in
theorem getOnetimeTipAmount_eq_ok [DecidableEq AccountId] {o : Oracle AccountId}
    {now timestamp : ℕ} {claimer : AccountId}
    (h : getOnetimeTipAmount cfg o now a queryId timestamp claimer = .ok (amount, a')) :
    ∃ report last lastTip, OnetimeTip o now a queryId timestamp claimer report last lastTip a' ∧
      OnetimeTipAmount cfg o a' queryId report last lastTip amount := by
  simp only [getOnetimeTipAmount, bind_eq_ok, okOr_eq_ok, guard_eq_ok, exists_const,
    Checked.sub_eq_some] at h
  obtain ⟨_, ⟨hreported, rfl⟩, hbuffer, report, hreport, hvalid, hclaimer, hcount, last, hlast, lastTip,
    hlastTip, hprevious, hle, hunclaimed, h⟩ := h
  have htip : OnetimeTip o now a queryId timestamp claimer report last lastTip
      (a.clearTip queryId last lastTip) :=
    ⟨hreported, hbuffer, hreport, hvalid, hclaimer, Nat.pos_of_ne_zero hcount, hlast, hlastTip,
      hprevious, hle, hunclaimed, rfl⟩
  split at h
  · next hbefore =>
    cases h
    exact ⟨report, last, lastTip, htip, .all (Option.map_eq_none_iff.mp hbefore)⟩
  · next indexBefore hbefore =>
    obtain ⟨before, hlookup, rfl⟩ := Option.map_eq_some_iff.mp hbefore
    simp only [bind_eq_ok, okOr_eq_ok, Checked.sub_eq_some] at h
    obtain ⟨_, ⟨horder, rfl⟩, h⟩ := h
    split at h
    · next hgap =>
      obtain ⟨first, hfirst, h⟩ := bind_eq_ok.mp h
      split at h
      · next hbetween =>
        obtain ⟨amount, hamount, h⟩ := bind_eq_ok.mp h
        cases h
        exact ⟨report, last, lastTip, htip,
          .between hlookup horder hgap hfirst hbetween hamount⟩
      · next hsingle =>
        cases h
        exact ⟨report, last, lastTip, htip,
          .single hlookup horder hgap hfirst (not_lt.mp hsingle)⟩
    · next hgap =>
      cases h
      exact ⟨report, last, lastTip, htip, .adjacent hlookup horder (not_lt.mp hgap)⟩

/-- The loop of `claim_onetime_tip` touches the tip entries only. -/
theorem claimTimestamps_frame {o : Oracle AccountId} {now reward reward' : ℕ} {reporter : AccountId}
    {timestamps : List ℕ}
    (h : claimTimestamps cfg o now queryId reporter timestamps (reward, a) = .ok (reward', a')) :
    a' = { a with tips := a'.tips } := by
  induction timestamps generalizing reward a with
  | nil =>
    cases h
    rfl
  | cons timestamp rest ih =>
    simp only [claimTimestamps, bind_eq_ok] at h
    obtain ⟨⟨amount, a₁⟩, hcomputed, hrest⟩ := h
    obtain ⟨report, last, lastTip, htip, -⟩ := getOnetimeTipAmount_eq_ok hcomputed
    rw [ih hrest, htip.autoPay_eq]
    rfl

/-- What a claim of one-time tips did. -/
structure OnetimeClaimed (cfg : Config AccountId) (s : State AccountId) (reporter : AccountId)
    (queryId : QueryId) (timestamps : List ℕ) (reward : ℕ) (a : AutoPay AccountId)
    (s₁ s' : State AccountId) : Prop where
  claimed : claimTimestamps cfg s.oracle s.now queryId reporter timestamps (0, s.autoPay) =
    .ok (reward, a)
  paid : payReward cfg { s with autoPay := a } reporter reward = .ok s₁
  state_eq : s' = { s₁ with
    autoPay := { s₁.autoPay with queryIdsWithFunding := s'.autoPay.queryIdsWithFunding }
    events := s₁.events ++ [.oneTimeTipClaimed queryId reward reporter] }

theorem OnetimeClaimed.frame {reporter : AccountId} {timestamps : List ℕ} {reward : ℕ}
    {s₁ : State AccountId}
    (h : OnetimeClaimed cfg s reporter queryId timestamps reward a s₁ s') :
    s' = { s with
      ledger := s'.ledger
      autoPay := s'.autoPay
      staking := s'.staking
      events := s.events ++ [.oneTimeTipClaimed queryId reward reporter] } := by
  rw [h.state_eq, payReward_frame h.paid]

theorem claimOnetimeTip_claimed {reporter : AccountId} {timestamps : List ℕ}
    (h : claimOnetimeTip cfg s reporter queryId timestamps = .ok s') :
    ∃ reward a s₁, OnetimeClaimed cfg s reporter queryId timestamps reward a s₁ s' := by
  simp only [claimOnetimeTip, bind_eq_ok, guard_eq_ok, exists_const] at h
  obtain ⟨-, ⟨reward, a⟩, hclaimed, s₁, hpaid, h⟩ := h
  cases h
  refine ⟨reward, a, s₁, hclaimed, hpaid, ?_⟩
  split <;> rfl

end Effects

end TellorPallet
