import TellorPallet.AutoPay.Payments

/-!
# Feed claims in closed form

The loop of `claim_tip` caps every reward and the running total at the balance that the feed had
before the claim. It succeeds exactly when its timestamps are distinct, each of them can be claimed
alone, and those before the last leave something of the balance. The claim then comes to the sum of
the rewards, up to the balance, and what remains is to pay it.
-/

namespace TellorPallet

open Outcome

variable {AccountId : Type}

/-! ## One reward -/

section Rewards

variable (cfg : Config AccountId) (o : Oracle AccountId) (now : ℕ) (a : AutoPay AccountId)
  (feedId : FeedId) (queryId : QueryId)

/-- The reward of a report, none where `do_get_reward_amount` fails. -/
def rewardOf (timestamp : ℕ) : ℕ :=
  (doGetRewardAmount cfg o now a feedId queryId timestamp).toOption.getD 0

/-- The conditions on one timestamp of a claim. -/
structure Claimable (reporter : AccountId) (timestamp : ℕ) : Prop where
  reported : timestamp ≤ now
  buffer_passed : 12 * hours < now - timestamp
  reporter_eq : some reporter = o.getReporterByTimestamp queryId timestamp
  eligible : doGetRewardAmount cfg o now a feedId queryId timestamp =
    .ok (rewardOf cfg o now a feedId queryId timestamp)

/-- The sum of the rewards of a list of reports. -/
def totalReward (timestamps : List ℕ) : ℕ :=
  (timestamps.map (rewardOf cfg o now a feedId queryId)).sum

end Rewards

section Loop

variable {cfg : Config AccountId} {o : Oracle AccountId} {now : ℕ} {a a' : AutoPay AccountId}
  {feedId : FeedId} {queryId : QueryId} {feed : Feed} {timestamp amount : ℕ}

theorem rewardOf_eq (h : doGetRewardAmount cfg o now a feedId queryId timestamp = .ok amount) :
    rewardOf cfg o now a feedId queryId timestamp = amount := by
  rw [rewardOf, h]
  rfl

/-- Only the balance of the feed and the mark of the report matter: in a feed that has less left, the
reward is capped at what is left. -/
theorem doGetRewardAmount_lower {balance : ℕ}
    (hfeed : a.dataFeeds.lookup (queryId, feedId) = some feed)
    (hfeed' : a'.dataFeeds.lookup (queryId, feedId) = some { feed with balance := balance })
    (hle : balance ≤ feed.balance)
    (hunclaimed : a'.dataFeedRewardClaimed.lookup (queryId, feedId, timestamp) = none)
    (h : doGetRewardAmount cfg o now a feedId queryId timestamp = .ok amount) :
    doGetRewardAmount cfg o now a' feedId queryId timestamp = .ok (min balance amount) := by
  simp only [doGetRewardAmount, bind_eq_ok, okOr_eq_ok, guard_eq_ok, exists_const] at h ⊢
  obtain ⟨elapsed, helapsed, hperiod, read, hread, -, sinceStart, hsince, n, hn, offset, hoffset, c, hc,
    report, hreport, hvalid, change, hchange, timeDiff, htimeDiff, reward, hreward, h⟩ := h
  rw [hfeed] at hread
  cases hread
  refine ⟨elapsed, helapsed, hperiod, _, hfeed', hunclaimed, sinceStart, hsince, n, hn, offset, hoffset,
    c, hc, report, hreport, hvalid, change, hchange, timeDiff, htimeDiff, reward, hreward, ?_⟩
  have hamount : amount = min feed.balance reward := by
    rw [← Except.ok.inj h]
    split
    · next hless => exact (min_eq_left hless.le).symm
    · next hmore => exact (min_eq_right (not_lt.mp hmore)).symm
  have hcapped : min balance amount = min balance reward := by
    rw [hamount, ← min_assoc, min_eq_left hle]
  rw [hcapped]
  split
  · next hless => rw [min_eq_left hless.le]
  · next hmore => rw [min_eq_right (not_lt.mp hmore)]

theorem Claimable.lower {balance : ℕ} {reporter : AccountId}
    (h : Claimable cfg o now a feedId queryId reporter timestamp)
    (hfeed : a.dataFeeds.lookup (queryId, feedId) = some feed)
    (hfeed' : a'.dataFeeds.lookup (queryId, feedId) = some { feed with balance := balance })
    (hle : balance ≤ feed.balance)
    (hunclaimed : a'.dataFeedRewardClaimed.lookup (queryId, feedId, timestamp) = none) :
    Claimable cfg o now a' feedId queryId reporter timestamp ∧
      rewardOf cfg o now a' feedId queryId timestamp =
        min balance (rewardOf cfg o now a feedId queryId timestamp) := by
  have hlower := doGetRewardAmount_lower hfeed hfeed' hle hunclaimed h.eligible
  have hreward := rewardOf_eq hlower
  refine ⟨⟨h.reported, h.buffer_passed, h.reporter_eq, ?_⟩, hreward⟩
  rw [hreward]
  exact hlower

/-! ## The loop -/

/-- The storage after a claim: its reports are marked as rewarded, and the feed is off the list of
those with funding once its balance is exhausted. -/
def AutoPay.claimAll (a : AutoPay AccountId) (feedId : FeedId) (queryId : QueryId)
    (timestamps : List ℕ) (exhausted : Prop) [Decidable exhausted] : AutoPay AccountId :=
  { a with
    feedsWithFunding := if exhausted then a.feedsWithFunding.erase feedId else a.feedsWithFunding
    dataFeedRewardClaimed := timestamps.foldl
      (fun claimed timestamp ↦ claimed.insert (queryId, feedId, timestamp) ())
      a.dataFeedRewardClaimed }

/-- Marking other reports leaves the mark of a report as it was. -/
theorem lookup_foldl_insert {timestamps : List ℕ} (hnew : timestamp ∉ timestamps)
    (claimed : FiniteMap (QueryId × FeedId × ℕ) Unit) :
    (timestamps.foldl (fun claimed t ↦ claimed.insert (queryId, feedId, t) ()) claimed).lookup
      (queryId, feedId, timestamp) = claimed.lookup (queryId, feedId, timestamp) := by
  induction timestamps generalizing claimed with
  | nil => rfl
  | cons t rest ih =>
    obtain ⟨hne, hrest⟩ := not_or.mp fun hmem ↦ hnew (List.mem_cons.mpr hmem)
    rw [List.foldl_cons, ih hrest, FiniteMap.lookup_insert_ite, if_neg]
    intro heq
    simp only [Prod.mk.injEq, true_and] at heq
    exact hne heq

theorem AutoPay.claimAll_lookup_self {exhausted : Prop} [Decidable exhausted] :
    (a.claimAll feedId queryId [timestamp] exhausted).dataFeedRewardClaimed.lookup
      (queryId, feedId, timestamp) = some () :=
  Finmap.lookup_insert _

theorem AutoPay.claimAll_claimAll {timestamps later : List ℕ} {exhausted exhausted' : Prop}
    [Decidable exhausted] [Decidable exhausted'] (h : ¬exhausted) :
    (a.claimAll feedId queryId timestamps exhausted).claimAll feedId queryId later exhausted' =
      a.claimAll feedId queryId (timestamps ++ later) exhausted' := by
  unfold AutoPay.claimAll
  rw [if_neg h, List.foldl_append]

theorem AutoPay.claimAll_congr {timestamps : List ℕ} {exhausted exhausted' : Prop}
    [Decidable exhausted] [Decidable exhausted'] (h : exhausted ↔ exhausted') :
    a.claimAll feedId queryId timestamps exhausted = a.claimAll feedId queryId timestamps exhausted' := by
  unfold AutoPay.claimAll
  rw [if_congr h rfl rfl]

variable [DecidableEq AccountId] {reporter : AccountId}

/-- One step of the loop, before the balance is exhausted. -/
theorem claimFeedTimestamp_iff {balance : ℕ} {last : Option ℕ} {reward reward' : ℕ}
    (hbound : balance ≤ cfg.balanceMax) :
    claimFeedTimestamp cfg o now feedId queryId reporter balance last timestamp reward a =
        .ok (reward', a') ↔
      Claimable cfg o now a feedId queryId reporter timestamp ∧
        (balance ≤ reward + rewardOf cfg o now a feedId queryId timestamp →
          some timestamp = last) ∧
        reward' = min balance (reward + rewardOf cfg o now a feedId queryId timestamp) ∧
        a' = a.claimAll feedId queryId [timestamp]
          (balance ≤ reward + rewardOf cfg o now a feedId queryId timestamp) := by
  have hexhausted : ∀ amount, balance ≤ Saturating.add cfg.balanceMax reward amount ↔
      balance ≤ reward + amount := by
    intro amount
    unfold Saturating.add
    omega
  simp only [claimFeedTimestamp, bind_eq_ok, okOr_eq_ok, guard_eq_ok, exists_const,
    Checked.sub_eq_some]
  constructor
  · rintro ⟨_, ⟨hreported, rfl⟩, hbuffer, hreporter, amount, hamount, ⟨capped, a₁⟩, hcap, h⟩
    cases h
    have hreward := rewardOf_eq hamount
    refine ⟨⟨hreported, hbuffer, hreporter, ?_⟩, ?_⟩
    · rw [hreward]
      exact hamount
    · rw [hreward]
      unfold capReward at hcap
      simp only [hexhausted] at hcap
      split at hcap
      · next hall =>
        simp only [bind_eq_ok, guard_eq_ok, exists_const] at hcap
        obtain ⟨hlast, hcap⟩ := hcap
        cases hcap
        refine ⟨fun _ ↦ hlast, (min_eq_left hall).symm, ?_⟩
        rw [AutoPay.claimAll, if_pos hall]
        rfl
      · next hsome =>
        cases hcap
        refine ⟨fun hall ↦ absurd hall hsome, ?_, ?_⟩
        · rw [min_eq_right (not_le.mp hsome).le]
          exact Saturating.add_eq (by omega)
        · rw [AutoPay.claimAll, if_neg hsome]
          rfl
  · rintro ⟨hclaimable, hlast, hreward, hstored⟩
    refine ⟨_, ⟨hclaimable.reported, rfl⟩, hclaimable.buffer_passed, hclaimable.reporter_eq, _,
      hclaimable.eligible, ?_⟩
    unfold capReward
    simp only [hexhausted]
    split
    · next hall =>
      rw [min_eq_left hall] at hreward
      rw [AutoPay.claimAll, if_pos hall] at hstored
      refine ⟨(balance, { a with feedsWithFunding := a.feedsWithFunding.erase feedId }), ?_, ?_⟩
      · simp only [bind_eq_ok, guard_eq_ok, exists_const]
        exact ⟨hlast hall, trivial⟩
      · rw [hreward, hstored]
        rfl
    · next hsome =>
      rw [min_eq_right (not_le.mp hsome).le] at hreward
      rw [AutoPay.claimAll, if_neg hsome] at hstored
      refine ⟨(_, a), rfl, ?_⟩
      rw [hreward, hstored, Saturating.add_eq (by omega)]
      rfl

omit [DecidableEq AccountId] in
/-- Claiming one report leaves the rewards of the others as they were. -/
theorem doGetRewardAmount_claimAll {exhausted : Prop} [Decidable exhausted] {t : ℕ}
    (hne : t ≠ timestamp) :
    doGetRewardAmount cfg o now (a.claimAll feedId queryId [timestamp] exhausted) feedId queryId t =
      doGetRewardAmount cfg o now a feedId queryId t := by
  have hmark : (a.claimAll feedId queryId [timestamp] exhausted).dataFeedRewardClaimed.lookup
      (queryId, feedId, t) = a.dataFeedRewardClaimed.lookup (queryId, feedId, t) :=
    lookup_foldl_insert (fun hmem ↦ hne (List.mem_singleton.mp hmem)) _
  unfold doGetRewardAmount
  rw [hmark]
  rfl

omit [DecidableEq AccountId] in
theorem claimable_claimAll_iff {exhausted : Prop} [Decidable exhausted] {timestamps : List ℕ}
    (hnew : timestamp ∉ timestamps) :
    (∀ t ∈ timestamps, Claimable cfg o now (a.claimAll feedId queryId [timestamp] exhausted) feedId
        queryId reporter t) ↔
      ∀ t ∈ timestamps, Claimable cfg o now a feedId queryId reporter t := by
  apply forall₂_congr
  intro t ht
  have hsame : doGetRewardAmount cfg o now (a.claimAll feedId queryId [timestamp] exhausted) feedId
      queryId t = doGetRewardAmount cfg o now a feedId queryId t := by
    apply doGetRewardAmount_claimAll
    rintro rfl
    exact hnew ht
  constructor
  · rintro ⟨hreported, hbuffer, hreporter, heligible⟩
    refine ⟨hreported, hbuffer, hreporter, ?_⟩
    rw [rewardOf, hsame] at heligible
    exact heligible
  · rintro ⟨hreported, hbuffer, hreporter, heligible⟩
    refine ⟨hreported, hbuffer, hreporter, ?_⟩
    rw [rewardOf, hsame]
    exact heligible

omit [DecidableEq AccountId] in
theorem totalReward_claimAll {exhausted : Prop} [Decidable exhausted] {timestamps : List ℕ}
    (hnew : timestamp ∉ timestamps) :
    totalReward cfg o now (a.claimAll feedId queryId [timestamp] exhausted) feedId queryId timestamps =
      totalReward cfg o now a feedId queryId timestamps := by
  unfold totalReward
  congr 1
  apply List.map_congr_left
  intro t ht
  have hne : t ≠ timestamp := by
    rintro rfl
    exact hnew ht
  rw [rewardOf, doGetRewardAmount_claimAll hne]
  rfl

/-- The loop, before the balance is exhausted: it succeeds exactly when its timestamps are distinct,
each can be claimed, and those before the last leave something of the balance. -/
theorem claimFeedTimestamps_iff {balance : ℕ} {timestamps : List ℕ} {reward reward' : ℕ}
    (hbound : balance ≤ cfg.balanceMax) (hreward : reward < balance) :
    claimFeedTimestamps cfg o now feedId queryId reporter balance timestamps.getLast? timestamps
        (reward, a) = .ok (reward', a') ↔
      (∀ t ∈ timestamps, Claimable cfg o now a feedId queryId reporter t) ∧ timestamps.Nodup ∧
        reward + totalReward cfg o now a feedId queryId timestamps.dropLast < balance ∧
        reward' = min balance (reward + totalReward cfg o now a feedId queryId timestamps) ∧
        a' = a.claimAll feedId queryId timestamps
          (balance ≤ reward + totalReward cfg o now a feedId queryId timestamps) := by
  induction timestamps generalizing reward a with
  | nil =>
    have hstored : a.claimAll feedId queryId []
        (balance ≤ reward + totalReward cfg o now a feedId queryId []) = a := by
      have hsome : ¬balance ≤ reward + totalReward cfg o now a feedId queryId [] :=
        not_le.mpr hreward
      rw [AutoPay.claimAll, if_neg hsome]
      rfl
    have htotal : reward + totalReward cfg o now a feedId queryId [] = reward := rfl
    rw [hstored, List.dropLast_nil, htotal, min_eq_right hreward.le]
    constructor
    · intro h
      cases h
      exact ⟨nofun, List.nodup_nil, hreward, rfl, rfl⟩
    · rintro ⟨-, -, -, rfl, rfl⟩
      rfl
  | cons timestamp rest ih =>
    have hsplit : totalReward cfg o now a feedId queryId (timestamp :: rest) =
        rewardOf cfg o now a feedId queryId timestamp + totalReward cfg o now a feedId queryId rest :=
      List.sum_cons
    simp only [claimFeedTimestamps, bind_eq_ok]
    cases rest with
    | nil =>
      have hrest : totalReward cfg o now a feedId queryId [] = 0 := rfl
      rw [hsplit, hrest, Nat.add_zero]
      constructor
      · rintro ⟨⟨reward₁, a₁⟩, hfirst, hdone⟩
        cases hdone
        obtain ⟨hclaimable, -, hreward', hstored⟩ := (claimFeedTimestamp_iff hbound).mp hfirst
        exact ⟨List.forall_mem_singleton.mpr hclaimable, List.nodup_singleton _, hreward, hreward',
          hstored⟩
      · rintro ⟨hclaimable, -, -, hreward', hstored⟩
        refine ⟨(reward', a'), (claimFeedTimestamp_iff hbound).mpr ⟨?_, fun _ ↦ rfl, hreward', hstored⟩,
          rfl⟩
        exact hclaimable timestamp (List.mem_singleton_self _)
    | cons next rest =>
      have hbefore : totalReward cfg o now a feedId queryId (timestamp :: (next :: rest).dropLast) =
          rewardOf cfg o now a feedId queryId timestamp +
            totalReward cfg o now a feedId queryId (next :: rest).dropLast := List.sum_cons
      rw [List.getLast?_cons_cons, List.dropLast_cons_cons, hsplit, hbefore, ← Nat.add_assoc,
        ← Nat.add_assoc]
      constructor
      · rintro ⟨⟨reward₁, a₁⟩, hfirst, hrest⟩
        obtain ⟨hclaimable, hlast, hreward₁, ha₁⟩ := (claimFeedTimestamp_iff hbound).mp hfirst
        have hcapped : reward₁ ≤ balance := hreward₁.le.trans (min_le_left _ _)
        obtain ⟨-, -, -, -, hunclaimed⟩ := claimFeedTimestamps_eq_ok hcapped hrest
        have hnew : timestamp ∉ next :: rest := by
          intro hmem
          have hmarked := hunclaimed timestamp hmem
          rw [ha₁, AutoPay.claimAll_lookup_self] at hmarked
          cases hmarked
        have hsome : ¬balance ≤ reward + rewardOf cfg o now a feedId queryId timestamp := by
          intro hall
          exact hnew (List.mem_of_getLast? (hlast hall).symm)
        rw [min_eq_right (not_le.mp hsome).le] at hreward₁
        subst hreward₁ ha₁
        obtain ⟨hall, hnodup, hleft, hreward', hstored⟩ := (ih (not_le.mp hsome)).mp hrest
        rw [totalReward_claimAll hnew] at hreward' hstored
        rw [totalReward_claimAll fun hmem ↦ hnew (List.mem_of_mem_dropLast hmem)] at hleft
        refine ⟨List.forall_mem_cons.mpr ⟨hclaimable, (claimable_claimAll_iff hnew).mp hall⟩,
          List.nodup_cons.mpr ⟨hnew, hnodup⟩, hleft, hreward', ?_⟩
        rw [hstored, AutoPay.claimAll_claimAll hsome]
        rfl
      · rintro ⟨hall, hnodup, hleft, hreward', hstored⟩
        obtain ⟨hclaimable, hall⟩ := List.forall_mem_cons.mp hall
        obtain ⟨hnew, hnodup⟩ := List.nodup_cons.mp hnodup
        have hsome : ¬balance ≤ reward + rewardOf cfg o now a feedId queryId timestamp := by omega
        refine ⟨(reward + rewardOf cfg o now a feedId queryId timestamp, a.claimAll feedId queryId
          [timestamp] (balance ≤ reward + rewardOf cfg o now a feedId queryId timestamp)),
          (claimFeedTimestamp_iff hbound).mpr ⟨hclaimable, fun hall ↦ absurd hall hsome,
            (min_eq_right (not_le.mp hsome).le).symm, rfl⟩, (ih (not_le.mp hsome)).mpr ?_⟩
        rw [totalReward_claimAll hnew,
          totalReward_claimAll fun hmem ↦ hnew (List.mem_of_mem_dropLast hmem)]
        refine ⟨(claimable_claimAll_iff hnew).mpr hall, hnodup, hleft, hreward', ?_⟩
        rw [hstored, AutoPay.claimAll_claimAll hsome]
        rfl

end Loop

/-! ## The call -/

section Call

variable [DecidableEq AccountId] (cfg : Config AccountId) (s : State AccountId)
  (reporter : AccountId) (feedId : FeedId) (queryId : QueryId)

/-- What a claim comes to: the rewards, up to the balance of the feed. -/
def grossReward (feed : Feed) (timestamps : List ℕ) : ℕ :=
  min feed.balance (totalReward cfg s.oracle s.now s.autoPay feedId queryId timestamps)

/-- The fee on a reward. -/
def feeOn (reward : ℕ) : ℕ := reward * cfg.fee / 1000

/-- The storage once a claim is taken from its feed. -/
def claimedAutoPay (feed : Feed) (timestamps : List ℕ) : AutoPay AccountId :=
  { s.autoPay.claimAll feedId queryId timestamps
      (feed.balance ≤ totalReward cfg s.oracle s.now s.autoPay feedId queryId timestamps) with
    dataFeeds := s.autoPay.dataFeeds.insert (queryId, feedId)
      { feed with balance := feed.balance - grossReward cfg s feedId queryId feed timestamps } }

/-- What remains of a claim that passed all checks: the transfer to the reporter, the fee for the
reward pool, and the event. -/
def settleClaim (reward : ℕ) (a : AutoPay AccountId) : Except DispatchError (State AccountId) := do
  let ledger ← transfer cfg s.ledger cfg.tips reporter (reward - feeOn cfg reward) .protect
  let s ← doAddStakingRewards cfg { s with autoPay := a, ledger := ledger } cfg.tips (feeOn cfg reward)
  .ok (s.depositEvent (.tipClaimed feedId queryId reward reporter))

/-- The checks of a claim: on the feed, on each report, on the balance of the feed and on the fee. -/
structure ClaimAllowed (feed : Feed) (timestamps : List ℕ) : Prop where
  feed_eq : s.autoPay.dataFeeds.lookup (queryId, feedId) = some feed
  balance_pos : 0 < feed.balance
  claimable : ∀ t ∈ timestamps, Claimable cfg s.oracle s.now s.autoPay feedId queryId reporter t
  distinct : timestamps.Nodup
  balance_left :
    totalReward cfg s.oracle s.now s.autoPay feedId queryId timestamps.dropLast < feed.balance
  fee_fits : grossReward cfg s feedId queryId feed timestamps * cfg.fee ≤ cfg.balanceMax
  fee_covered : feeOn cfg (grossReward cfg s feedId queryId feed timestamps) ≤
    grossReward cfg s feedId queryId feed timestamps

variable {cfg s reporter feedId queryId} {feed : Feed} {timestamps : List ℕ}

/-- The loop of an allowed claim. -/
theorem claimFeedTimestamps_call_iff (hbound : feed.balance ≤ cfg.balanceMax)
    (hpositive : 0 < feed.balance) {reward : ℕ} {a : AutoPay AccountId} :
    claimFeedTimestamps cfg s.oracle s.now feedId queryId reporter feed.balance timestamps.getLast?
        timestamps (0, s.autoPay) = .ok (reward, a) ↔
      (∀ t ∈ timestamps, Claimable cfg s.oracle s.now s.autoPay feedId queryId reporter t) ∧
        timestamps.Nodup ∧
        totalReward cfg s.oracle s.now s.autoPay feedId queryId timestamps.dropLast < feed.balance ∧
        reward = grossReward cfg s feedId queryId feed timestamps ∧
        a = s.autoPay.claimAll feedId queryId timestamps
          (feed.balance ≤ totalReward cfg s.oracle s.now s.autoPay feedId queryId timestamps) := by
  rw [claimFeedTimestamps_iff hbound hpositive]
  simp only [Nat.zero_add]
  exact Iff.rfl

theorem claimTip_eq_settleClaim (hbound : feed.balance ≤ cfg.balanceMax)
    (h : ClaimAllowed cfg s reporter feedId queryId feed timestamps) :
    claimTip cfg s reporter feedId queryId timestamps =
      settleClaim cfg s reporter feedId queryId (grossReward cfg s feedId queryId feed timestamps)
        (claimedAutoPay cfg s feedId queryId feed timestamps) := by
  have hloop := (claimFeedTimestamps_call_iff hbound h.balance_pos).mpr
    ⟨h.claimable, h.distinct, h.balance_left, rfl, rfl⟩
  have hproduct : Checked.mul cfg.balanceMax (grossReward cfg s feedId queryId feed timestamps)
      cfg.fee = some (grossReward cfg s feedId queryId feed timestamps * cfg.fee) :=
    Checked.mul_eq_some.mpr ⟨h.fee_fits, rfl⟩
  have hnet : Checked.sub (grossReward cfg s feedId queryId feed timestamps)
      (feeOn cfg (grossReward cfg s feedId queryId feed timestamps)) =
        some (grossReward cfg s feedId queryId feed timestamps -
          feeOn cfg (grossReward cfg s feedId queryId feed timestamps)) :=
    Checked.sub_eq_some.mpr ⟨h.fee_covered, rfl⟩
  simp only [feeOn] at hnet
  have hpositive : Outcome.guard (0 < feed.balance) (DispatchError.module .insufficientFeedBalance) =
      .ok () := guard_eq_ok.mpr h.balance_pos
  simp only [claimTip, payReward, h.feed_eq, okOr, ensure, hpositive, hloop, hproduct, hnet, bind,
    Except.bind, settleClaim, feeOn]
  cases transfer cfg s.ledger cfg.tips reporter
    (grossReward cfg s feedId queryId feed timestamps -
      grossReward cfg s feedId queryId feed timestamps * cfg.fee / 1000) .protect with
  | error error => rfl
  | ok ledger => rfl

/-- A successful claim passed all checks. -/
theorem claimTip_allowed {s' : State AccountId}
    (hbounded : ∀ key feed, s.autoPay.dataFeeds.lookup key = some feed →
      feed.balance ≤ cfg.balanceMax)
    (h : claimTip cfg s reporter feedId queryId timestamps = .ok s') :
    ∃ feed, ClaimAllowed cfg s reporter feedId queryId feed timestamps := by
  obtain ⟨feed, reward, a, s₁, hclaimed⟩ := claimTip_claimed h
  have hbound := hbounded _ feed hclaimed.feed_eq
  obtain ⟨hclaimable, hdistinct, hleft, hreward, -⟩ :=
    (claimFeedTimestamps_call_iff hbound hclaimed.balance_pos).mp hclaimed.claimed
  have hpaid := hclaimed.paid
  simp only [payReward, bind_eq_ok, okOr_eq_ok, Checked.mul_eq_some, Checked.sub_eq_some] at hpaid
  obtain ⟨_, ⟨hfits, rfl⟩, _, ⟨hcovered, -⟩, -⟩ := hpaid
  rw [hreward] at hfits hcovered
  exact ⟨feed, hclaimed.feed_eq, hclaimed.balance_pos, hclaimable, hdistinct, hleft, hfits, hcovered⟩

end Call

end TellorPallet
