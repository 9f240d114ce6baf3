import TellorPallet.AutoPay.Tips
import TellorPallet.Oracle.Reports

/-!
# Data feeds

The calls `setup_data_feed`, `fund_feed` and `claim_tip`, and the reward of one submission as
`do_get_reward_amount` computes it.
-/

namespace TellorPallet

open Outcome

variable {AccountId : Type} [DecidableEq AccountId] (cfg : Config AccountId)

/-- `do_fund_feed`. -/
def doFundFeed (s : State AccountId) (feedFunder : AccountId) (feedId : FeedId) (queryId : QueryId)
    (amount : ℕ) : Except DispatchError (State AccountId) := do
  let feed ← okOr (s.autoPay.dataFeeds.lookup (queryId, feedId)) (.module .invalidFeed)
  ensure (0 < amount) .invalidAmount
  let feed := { feed with balance := Saturating.add cfg.balanceMax feed.balance amount }
  let ledger ← transfer cfg s.ledger feedFunder cfg.tips amount .expendable
  let autoPay := { s.autoPay with
    feedsWithFunding := s.autoPay.feedsWithFunding.insert feedId ()
    dataFeeds := s.autoPay.dataFeeds.insert (queryId, feedId) feed }
  .ok ({ s with ledger := ledger, autoPay := autoPay.addUserTips cfg feedFunder amount }.depositEvent
    (.dataFeedFunded queryId feedId amount feedFunder feed))

/-- The arguments of `setup_data_feed` that make up a feed, with its balance still empty. -/
def newFeed (reward : ℕ) (startTime interval window : ℕ) (priceThreshold : ℕ)
    (rewardIncreasePerSecond : ℕ) : Feed where
  reward := reward
  balance := 0
  startTime := startTime
  interval := interval
  window := window
  priceThreshold := priceThreshold
  rewardIncreasePerSecond := rewardIncreasePerSecond

/-- The identifier of a feed: the hash of its encoded parameters. -/
def feedIdOf (queryId : QueryId) (feed : Feed) : FeedId :=
  cfg.keccak256 (cfg.abiEncode [.fixedBytes (hashBytes queryId), .uint feed.reward,
    .uint feed.startTime, .uint feed.interval, .uint feed.window, .uint feed.priceThreshold,
    .uint feed.rewardIncreasePerSecond])

/-- The writes of `setup_data_feed`, before any initial funding. -/
def storeFeed (s : State AccountId) (feedCreator : AccountId) (queryId : QueryId) (feedId : FeedId)
    (feed : Feed) (queryData : QueryData) : State AccountId :=
  let s := { s with autoPay := { s.autoPay with
    queryIdFromDataFeedId := s.autoPay.queryIdFromDataFeedId.insert feedId queryId } }
  let s := storeData s queryId queryData
  let s := { s with autoPay := { s.autoPay with
    dataFeeds := s.autoPay.dataFeeds.insert (queryId, feedId) feed } }
  s.depositEvent (.newDataFeed queryId feedId queryData feedCreator)

/-- `setup_data_feed`, on the feed its arguments describe. -/
def setupDataFeed (s : State AccountId) (feedCreator : AccountId) (queryId : QueryId) (feed : Feed)
    (queryData : QueryData) (amount : ℕ) : Except DispatchError (State AccountId) := do
  ensure (queryId = cfg.keccak256 queryData) .invalidQueryId
  let feedId := feedIdOf cfg queryId feed
  ensure (s.autoPay.dataFeeds.lookup (queryId, feedId) = none) .feedAlreadyExists
  ensure (0 < feed.reward) .invalidReward
  ensure (0 < feed.interval) .invalidInterval
  ensure (feed.window < feed.interval) .invalidWindow
  let s := storeFeed s feedCreator queryId feedId feed queryData
  if 0 < amount then doFundFeed cfg s feedCreator feedId queryId amount else .ok s

/-- The change from the value before to the value at a report, in hundredths of a percent. -/
def priceChange (o : Oracle AccountId) (queryId : QueryId) (timestamp timestampBefore : ℕ) :
    Except DispatchError ℕ := do
  let value ← okOr (o.retrieveData queryId timestamp) (.module .invalidValue)
  ensure (value.length ≠ 0) .invalidValue
  let v1 ← okOr (bytesToU256 value) (.module .valueConversionError)
  let valueBefore := (o.retrieveData queryId timestampBefore).getD []
  let v2 ← okOr (bytesToU256 valueBefore) (.module .valueConversionError)
  if v2 = 0 then .ok 10000
  else do
    let difference ← okOr (if v2 ≤ v1 then Checked.sub v1 v2 else Checked.sub v2 v1) underflow
    let scaled ← okOr (Checked.mul u256Max 10000 difference) overflow
    .ok (min (scaled / v2) u16Max)

/-- The reward of a report `timeDiff` after the start of its interval: either it is the first within
a valid window, or the price change threshold is met. -/
def eligibleReward (feed : Feed) (timeDiff : ℕ) (priceChange : ℕ) (first : Prop)
    [Decidable first] : Except DispatchError ℕ :=
  if timeDiff < feed.window ∧ first then do
    -- add time based rewards if applicable
    let increase ← okOr (Checked.mul cfg.balanceMax feed.rewardIncreasePerSecond timeDiff) overflow
    .ok (Saturating.add cfg.balanceMax feed.reward increase)
  else do
    ensure (feed.priceThreshold < priceChange) .priceThresholdNotMet
    .ok feed.reward

/-- `do_get_reward_amount`. -/
def doGetRewardAmount (o : Oracle AccountId) (now : ℕ) (a : AutoPay AccountId)
    (feedId : FeedId) (queryId : QueryId) (timestamp : ℕ) :
    Except DispatchError ℕ := do
  let elapsed ← okOr (Checked.sub now timestamp) underflow
  ensure (elapsed < 4 * weeks) .claimPeriodExpired
  let feed ← okOr (a.dataFeeds.lookup (queryId, feedId)) (.module .invalidFeed)
  ensure (a.dataFeedRewardClaimed.lookup (queryId, feedId, timestamp) = none) .tipAlreadyClaimed
  -- finds closest interval n to timestamp
  let sinceStart ← okOr (Checked.sub timestamp feed.startTime) underflow
  let n ← okOr (Checked.div sinceStart feed.interval) divisionByZero
  -- finds start timestamp c of interval n
  let offset ← okOr (Checked.mul u64Max feed.interval n) overflow
  let c ← okOr (Checked.add u64Max feed.startTime offset) overflow
  let report ← okOr (o.reports.lookup (queryId, timestamp)) (.module .invalidTimestamp)
  ensure (report.isDisputed = false) .valueDisputed
  let timestampBefore := report.previous.getD 0
  let priceChange ← (if feed.priceThreshold ≠ 0 then
      priceChange o queryId timestamp timestampBefore
    else .ok 0)
  let timeDiff ← okOr (Checked.sub timestamp c) underflow
  let rewardAmount ← eligibleReward cfg feed timeDiff priceChange (timestampBefore < c)
  .ok (if feed.balance < rewardAmount then feed.balance else rewardAmount)

/-- The cap of a cumulative reward at the feed balance, which only the last timestamp may reach. -/
def capReward (feedId : FeedId) (balance : ℕ) (isLast : Prop) [Decidable isLast]
    (cumulativeReward : ℕ) (a : AutoPay AccountId) :
    Except DispatchError (ℕ × AutoPay AccountId) :=
  if balance ≤ cumulativeReward then do
    ensure isLast .insufficientFeedBalance
    -- adjust currently funded feeds
    .ok (balance, { a with feedsWithFunding := a.feedsWithFunding.erase feedId })
  else .ok (cumulativeReward, a)

/-- The body of the loop of `claim_tip`, on the feed balance read before the loop. -/
def claimFeedTimestamp (o : Oracle AccountId) (now : ℕ) (feedId : FeedId) (queryId : QueryId)
    (reporter : AccountId) (balance : ℕ) (last : Option ℕ) (timestamp : ℕ)
    (cumulativeReward : ℕ) (a : AutoPay AccountId) :
    Except DispatchError (ℕ × AutoPay AccountId) := do
  let elapsed ← okOr (Checked.sub now timestamp) underflow
  ensure (12 * hours < elapsed) .claimBufferNotPassed
  ensure (some reporter = o.getReporterByTimestamp queryId timestamp) .invalidClaimer
  let amount ← doGetRewardAmount cfg o now a feedId queryId timestamp
  let cumulativeReward := Saturating.add cfg.balanceMax cumulativeReward amount
  let (cumulativeReward, a) ← capReward feedId balance (some timestamp = last) cumulativeReward a
  .ok (cumulativeReward, { a with
    dataFeedRewardClaimed := a.dataFeedRewardClaimed.insert (queryId, feedId, timestamp) () })

/-- The loop of `claim_tip`. -/
def claimFeedTimestamps (o : Oracle AccountId) (now : ℕ) (feedId : FeedId)
    (queryId : QueryId) (reporter : AccountId) (balance : ℕ) (last : Option ℕ) :
    List ℕ → ℕ × AutoPay AccountId → Except DispatchError (ℕ × AutoPay AccountId)
  | [], claimed => .ok claimed
  | timestamp :: rest, (cumulativeReward, a) => do
    let claimed ← claimFeedTimestamp cfg o now feedId queryId reporter balance last timestamp
      cumulativeReward a
    claimFeedTimestamps o now feedId queryId reporter balance last rest claimed

/-- `claim_tip`. -/
def claimTip (s : State AccountId) (reporter : AccountId) (feedId : FeedId) (queryId : QueryId)
    (timestamps : List ℕ) : Except DispatchError (State AccountId) := do
  let feed ← okOr (s.autoPay.dataFeeds.lookup (queryId, feedId)) (.module .invalidFeed)
  ensure (0 < feed.balance) .insufficientFeedBalance
  let (cumulativeReward, autoPay) ← claimFeedTimestamps cfg s.oracle s.now feedId queryId reporter
    feed.balance timestamps.getLast? timestamps (0, s.autoPay)
  let autoPay := { autoPay with
    dataFeeds := autoPay.dataFeeds.insert (queryId, feedId)
      { feed with balance := feed.balance - cumulativeReward } }
  let s ← payReward cfg { s with autoPay := autoPay } reporter cumulativeReward
  .ok (s.depositEvent (.tipClaimed feedId queryId cumulativeReward reporter))

/-! ## What a successful call did -/

section Effects

variable {cfg} {s s' : State AccountId} {feedId : FeedId} {queryId : QueryId} {amount : ℕ}

/-- What funding a feed did. -/
structure FeedFunded (cfg : Config AccountId) (s : State AccountId) (feedFunder : AccountId)
    (feedId : FeedId) (queryId : QueryId) (amount : ℕ) (feed : Feed) (s' : State AccountId) :
    Prop where
  feed_eq : s.autoPay.dataFeeds.lookup (queryId, feedId) = some feed
  amount_pos : 0 < amount
  transferred : transfer cfg s.ledger feedFunder cfg.tips amount .expendable = .ok s'.ledger
  autoPay_eq : s'.autoPay = { s.autoPay with
    feedsWithFunding := s.autoPay.feedsWithFunding.insert feedId ()
    dataFeeds := s.autoPay.dataFeeds.insert (queryId, feedId)
      { feed with balance := Saturating.add cfg.balanceMax feed.balance amount }
    userTipsTotal := s'.autoPay.userTipsTotal }
  frame : s' = { s with
    ledger := s'.ledger
    autoPay := s'.autoPay
    events := s'.events }
  quiet : s'.voteEvents = s.voteEvents

theorem doFundFeed_funded {feedFunder : AccountId}
    (h : doFundFeed cfg s feedFunder feedId queryId amount = .ok s') :
    ∃ feed, FeedFunded cfg s feedFunder feedId queryId amount feed s' := by
  simp only [doFundFeed, bind_eq_ok, okOr_eq_ok, guard_eq_ok, exists_const] at h
  obtain ⟨feed, hfeed, hpositive, ledger, htransfer, h⟩ := h
  cases h
  refine ⟨feed, hfeed, hpositive, htransfer, rfl, rfl, ?_⟩
  simp [State.voteEvents, State.depositEvent, Event.isVoteEvent]

/-- What setting up a feed did, before any initial funding. -/
structure FeedSetUp (cfg : Config AccountId) (s : State AccountId) (queryId : QueryId)
    (feed : Feed) (s' : State AccountId) : Prop where
  absent : s.autoPay.dataFeeds.lookup (queryId, feedIdOf cfg queryId feed) = none
  interval_pos : 0 < feed.interval
  autoPay_eq : s'.autoPay = { s.autoPay with
    queryIdFromDataFeedId :=
      s.autoPay.queryIdFromDataFeedId.insert (feedIdOf cfg queryId feed) queryId
    dataFeeds := s.autoPay.dataFeeds.insert (queryId, feedIdOf cfg queryId feed) feed }
  frame : s' = { s with
    autoPay := s'.autoPay
    queryData := s'.queryData
    events := s'.events }
  quiet : s'.voteEvents = s.voteEvents

theorem setupDataFeed_eq_ok {feedCreator : AccountId} {feed : Feed} {queryData : QueryData}
    (h : setupDataFeed cfg s feedCreator queryId feed queryData amount = .ok s') :
    ∃ s₁, s₁ = storeFeed s feedCreator queryId (feedIdOf cfg queryId feed) feed queryData ∧
      FeedSetUp cfg s queryId feed s₁ ∧
      (amount = 0 ∧ s' = s₁ ∨
        doFundFeed cfg s₁ feedCreator (feedIdOf cfg queryId feed) queryId amount = .ok s') := by
  simp only [setupDataFeed, bind_eq_ok, guard_eq_ok, exists_const] at h
  obtain ⟨-, habsent, -, hinterval, -, h⟩ := h
  refine ⟨_, rfl, ⟨habsent, hinterval, rfl, rfl, ?_⟩, ?_⟩
  · simp [State.voteEvents, storeFeed, storeData, State.depositEvent, Event.isVoteEvent]
  split at h
  · exact Or.inr h
  · next hzero =>
    cases h
    exact Or.inl ⟨Nat.eq_zero_of_not_pos hzero, rfl⟩

/-- What a computed reward says of the report and the feed. -/
structure Rewarded (o : Oracle AccountId) (a : AutoPay AccountId) (feedId : FeedId)
    (queryId : QueryId) (timestamp : ℕ) (feed : Feed) (report : Report AccountId)
    (amount : ℕ) : Prop where
  feed_eq : a.dataFeeds.lookup (queryId, feedId) = some feed
  unclaimed : a.dataFeedRewardClaimed.lookup (queryId, feedId, timestamp) = none
  report_eq : o.reports.lookup (queryId, timestamp) = some report
  valid : report.isDisputed = false
  amount_le : amount ≤ feed.balance

omit [DecidableEq AccountId] in
theorem doGetRewardAmount_rewarded {o : Oracle AccountId} {now timestamp : ℕ}
    {a : AutoPay AccountId} (h : doGetRewardAmount cfg o now a feedId queryId timestamp = .ok amount) :
    ∃ feed report, Rewarded o a feedId queryId timestamp feed report amount := by
  simp only [doGetRewardAmount, bind_eq_ok, okOr_eq_ok, guard_eq_ok, exists_const] at h
  obtain ⟨_, -, -, feed, hfeed, hunclaimed, _, -, _, -, _, -, _, -, report, hreport, hvalid, _, -, _, -,
    reward, -, h⟩ := h
  cases h
  refine ⟨feed, report, hfeed, hunclaimed, hreport, hvalid, ?_⟩
  split
  · exact le_rfl
  · next hle => exact not_lt.mp hle

/-- What one timestamp of a feed claim did to the cumulative reward and the storage. -/
structure TimestampClaimed (o : Oracle AccountId) (now : ℕ) (a : AutoPay AccountId)
    (feedId : FeedId) (queryId : QueryId) (reporter : AccountId) (balance : ℕ)
    (timestamp : ℕ) (reward : ℕ) (report : Report AccountId) (reward' : ℕ)
    (a' : AutoPay AccountId) : Prop where
  reported : timestamp ≤ now
  buffer_passed : 12 * hours < now - timestamp
  report_eq : o.reports.lookup (queryId, timestamp) = some report
  valid : report.isDisputed = false
  reporter_eq : report.reporter = reporter
  unclaimed : a.dataFeedRewardClaimed.lookup (queryId, feedId, timestamp) = none
  reward_le : reward' ≤ balance
  autoPay_eq : a' = { a with
    feedsWithFunding := a'.feedsWithFunding
    dataFeedRewardClaimed := a.dataFeedRewardClaimed.insert (queryId, feedId, timestamp) () }

theorem claimFeedTimestamp_claimed {o : Oracle AccountId} {now timestamp : ℕ}
    {a a' : AutoPay AccountId} {reporter : AccountId} {balance reward reward' : ℕ}
    {last : Option ℕ} (h : claimFeedTimestamp cfg o now feedId queryId reporter balance last
      timestamp reward a = .ok (reward', a')) :
    ∃ report, TimestampClaimed o now a feedId queryId reporter balance timestamp reward report
      reward' a' := by
  simp only [claimFeedTimestamp, bind_eq_ok, okOr_eq_ok, guard_eq_ok, exists_const,
    Checked.sub_eq_some] at h
  obtain ⟨_, ⟨hreported, rfl⟩, hbuffer, hreporter, amount, hamount, ⟨capped, a₁⟩, hcap, h⟩ := h
  cases h
  obtain ⟨feed, report, hrewarded⟩ := doGetRewardAmount_rewarded hamount
  have hreporterEq : report.reporter = reporter := by
    rw [Oracle.getReporterByTimestamp, hrewarded.report_eq, Option.map_some] at hreporter
    exact (Option.some.inj hreporter).symm
  unfold capReward at hcap
  split at hcap
  · simp only [bind_eq_ok, guard_eq_ok, exists_const] at hcap
    obtain ⟨-, hcap⟩ := hcap
    cases hcap
    exact ⟨report, hreported, hbuffer, hrewarded.report_eq, hrewarded.valid, hreporterEq,
      hrewarded.unclaimed, le_rfl, rfl⟩
  · next hlt =>
    cases hcap
    exact ⟨report, hreported, hbuffer, hrewarded.report_eq, hrewarded.valid, hreporterEq,
      hrewarded.unclaimed, (not_le.mp hlt).le, rfl⟩

/-- The loop of `claim_tip` touches neither the feeds nor the tips. -/
theorem claimFeedTimestamps_frame {o : Oracle AccountId} {now : ℕ} {reporter : AccountId}
    {balance reward reward' : ℕ} {last : Option ℕ} {timestamps : List ℕ} {a a' : AutoPay AccountId}
    (h : claimFeedTimestamps cfg o now feedId queryId reporter balance last timestamps (reward, a) =
      .ok (reward', a')) :
    a' = { a with
      feedsWithFunding := a'.feedsWithFunding
      dataFeedRewardClaimed := a'.dataFeedRewardClaimed } := by
  induction timestamps generalizing reward a with
  | nil =>
    cases h
    rfl
  | cons timestamp rest ih =>
    simp only [claimFeedTimestamps, bind_eq_ok] at h
    obtain ⟨⟨reward₁, a₁⟩, hclaimed, hrest⟩ := h
    obtain ⟨report, hclaimed⟩ := claimFeedTimestamp_claimed hclaimed
    rw [ih hrest, hclaimed.autoPay_eq]

/-- What a claim of feed rewards did. -/
structure FeedClaimed (cfg : Config AccountId) (s : State AccountId) (reporter : AccountId)
    (feedId : FeedId) (queryId : QueryId) (timestamps : List ℕ) (feed : Feed)
    (reward : ℕ) (a : AutoPay AccountId) (s₁ s' : State AccountId) : Prop where
  feed_eq : s.autoPay.dataFeeds.lookup (queryId, feedId) = some feed
  balance_pos : 0 < feed.balance
  claimed : claimFeedTimestamps cfg s.oracle s.now feedId queryId reporter feed.balance
    timestamps.getLast? timestamps (0, s.autoPay) = .ok (reward, a)
  paid : payReward cfg { s with autoPay := { a with
    dataFeeds := a.dataFeeds.insert (queryId, feedId)
      { feed with balance := feed.balance - reward } } } reporter reward = .ok s₁
  state_eq : s' = { s₁ with events := s₁.events ++ [.tipClaimed feedId queryId reward reporter] }

theorem FeedClaimed.frame {reporter : AccountId} {timestamps : List ℕ} {feed : Feed} {reward : ℕ}
    {a : AutoPay AccountId} {s₁ : State AccountId}
    (h : FeedClaimed cfg s reporter feedId queryId timestamps feed reward a s₁ s') :
    s' = { s with
      ledger := s'.ledger
      autoPay := s'.autoPay
      staking := s'.staking
      events := s.events ++ [.tipClaimed feedId queryId reward reporter] } := by
  rw [h.state_eq, payReward_frame h.paid]

theorem claimTip_claimed {reporter : AccountId} {timestamps : List ℕ}
    (h : claimTip cfg s reporter feedId queryId timestamps = .ok s') :
    ∃ feed reward a s₁, FeedClaimed cfg s reporter feedId queryId timestamps feed reward a s₁ s' := by
  simp only [claimTip, bind_eq_ok, okOr_eq_ok, guard_eq_ok, exists_const] at h
  obtain ⟨feed, hfeed, hpositive, ⟨reward, a⟩, hclaimed, s₁, hpaid, h⟩ := h
  cases h
  exact ⟨feed, reward, a, s₁, hfeed, hpositive, hclaimed, hpaid, rfl⟩

end Effects

end TellorPallet
