import TellorPallet.AutoPay.FeedClaims
import TellorPallet.Runtime.Mock

/-!
# Quotes and split claims

`get_reward_amount` quotes what `claim_tip` pays to the reporter. A list of reports may be claimed in
one batch or in two: what is taken from the feed is the same, and what the reporter receives differs by
no more than a rounded fee.
-/

namespace TellorPallet

open Outcome Transition

variable {AccountId : Type}

/-- `get_reward_amount`. -/
def getRewardAmount (cfg : Config AccountId) (s : State AccountId) (feedId : FeedId)
    (queryId : QueryId) (timestamps : List ℕ) : ℕ :=
  match s.autoPay.dataFeeds.lookup (queryId, feedId) with
  | none => 0
  | some feed =>
    let cumulativeReward := (timestamps.take cfg.maxClaimTimestamps).foldl
      (fun cumulativeReward timestamp ↦ Saturating.add cfg.balanceMax cumulativeReward
        ((doGetRewardAmount cfg s.oracle s.now s.autoPay feedId queryId timestamp).toOption.getD 0)) 0
    let cumulativeReward :=
      if feed.balance < cumulativeReward then feed.balance else cumulativeReward
    cumulativeReward - Saturating.mul cfg.balanceMax cumulativeReward cfg.fee / 1000

variable [DecidableEq AccountId] {cfg : Config AccountId} {s s' : State AccountId}
  {reporter : AccountId} {feedId : FeedId} {queryId : QueryId} {feed : Feed} {timestamps : List ℕ}

/-! ## The payment of a claim -/

/-- A settled claim leaves the series and the clock alone, stores the claim, and pays the reward less
the fee. -/
theorem settleClaim_eq_ok {reward : ℕ} {a : AutoPay AccountId}
    (h : settleClaim cfg s reporter feedId queryId reward a = .ok s') :
    s'.autoPay = a ∧ s'.oracle = s.oracle ∧ s'.now = s.now ∧
      (reporter ≠ cfg.tips → reporter ≠ cfg.stakingRewards →
        s'.ledger reporter = s.ledger reporter + (reward - feeOn cfg reward)) := by
  obtain ⟨ledger, htransfer, h⟩ := bind_eq_ok.mp h
  obtain ⟨s₁, hadd, h⟩ := bind_eq_ok.mp h
  have hframe := doAddStakingRewards_frame hadd
  cases h
  refine ⟨(congrArg State.autoPay hframe :), (congrArg State.oracle hframe :),
    (congrArg State.now hframe :), fun htips hrewards ↦ ?_⟩
  have hpaid := transfer_dest_eq htransfer htips.symm
  obtain ⟨st, rate, hledger, -, -⟩ := doAddStakingRewards_eq_ok hadd
  change s₁.ledger reporter = _
  rw [← hpaid]
  split at hledger
  · have hmoved := transfer_add hledger reporter
    rw [if_neg htips, if_neg hrewards] at hmoved
    exact hmoved
  · rw [← Except.ok.inj hledger]

/-! ## Quotes -/

omit [DecidableEq AccountId] in
/-- For a claim that is allowed, the quote is what it comes to less the fee. -/
theorem ClaimAllowed.getRewardAmount_eq
    (h : ClaimAllowed cfg s reporter feedId queryId feed timestamps)
    (hbound : feed.balance ≤ cfg.balanceMax) (hlength : timestamps.length ≤ cfg.maxClaimTimestamps) :
    getRewardAmount cfg s feedId queryId timestamps =
      grossReward cfg s feedId queryId feed timestamps -
        feeOn cfg (grossReward cfg s feedId queryId feed timestamps) := by
  have htotal : (timestamps.take cfg.maxClaimTimestamps).foldl
      (fun cumulativeReward timestamp ↦ Saturating.add cfg.balanceMax cumulativeReward
        ((doGetRewardAmount cfg s.oracle s.now s.autoPay feedId queryId timestamp).toOption.getD 0)) 0 =
      min (totalReward cfg s.oracle s.now s.autoPay feedId queryId timestamps) cfg.balanceMax := by
    rw [List.take_of_length_le hlength]
    have hfold := Saturating.foldl_add (Nat.zero_le cfg.balanceMax)
      (timestamps.map (rewardOf cfg s.oracle s.now s.autoPay feedId queryId))
    rw [List.foldl_map, Nat.zero_add] at hfold
    exact hfold
  have hcapped : (if feed.balance < min (totalReward cfg s.oracle s.now s.autoPay feedId queryId
        timestamps) cfg.balanceMax then feed.balance
      else min (totalReward cfg s.oracle s.now s.autoPay feedId queryId timestamps) cfg.balanceMax) =
      grossReward cfg s feedId queryId feed timestamps := by
    unfold grossReward
    split <;> omega
  have hproduct : Saturating.mul cfg.balanceMax (grossReward cfg s feedId queryId feed timestamps)
      cfg.fee = grossReward cfg s feedId queryId feed timestamps * cfg.fee := min_eq_left h.fee_fits
  rw [getRewardAmount, h.feed_eq]
  dsimp only
  rw [htotal, hcapped, hproduct]
  rfl

/-- In every reachable state, what a successful claim transfers to the reporter is the quote for its
reports just before the claim. -/
theorem claimTip_pays_getRewardAmount (hs : Reachable cfg s)
    (hlength : timestamps.length ≤ cfg.maxClaimTimestamps)
    (h : claimTip cfg s reporter feedId queryId timestamps = .ok s') :
    ∃ fee ledger s₁, transfer cfg s.ledger cfg.tips reporter
        (getRewardAmount cfg s feedId queryId timestamps) .protect = .ok ledger ∧
      doAddStakingRewards cfg { s with autoPay := s'.autoPay, ledger := ledger } cfg.tips fee =
        .ok s₁ ∧
      s' = s₁.depositEvent (.tipClaimed feedId queryId
        (getRewardAmount cfg s feedId queryId timestamps + fee) reporter) ∧
      (reporter ≠ cfg.tips → reporter ≠ cfg.stakingRewards → s'.ledger reporter =
        s.ledger reporter + getRewardAmount cfg s feedId queryId timestamps) := by
  obtain ⟨feed, hallowed⟩ := claimTip_allowed hs.feeds_bounded h
  have hbound := hs.feeds_bounded _ feed hallowed.feed_eq
  rw [claimTip_eq_settleClaim hbound hallowed] at h
  obtain ⟨hautoPay, -, -, hpaid⟩ := settleClaim_eq_ok h
  obtain ⟨ledger, htransfer, h⟩ := bind_eq_ok.mp h
  obtain ⟨s₁, hadd, h⟩ := bind_eq_ok.mp h
  have hgross := Nat.sub_add_cancel hallowed.fee_covered
  rw [← hautoPay] at hadd
  rw [hallowed.getRewardAmount_eq hbound hlength]
  refine ⟨_, ledger, s₁, htransfer, hadd, ?_, hpaid⟩
  rw [hgross]
  exact (Except.ok.inj h).symm

namespace Mock

/-- Two reports half a day apart, each the first in its window, and a feed that covers one and a half
of the rewards. -/
def twoReports : List (Input ℕ) :=
  [deposit 7, block 5, setUpFeed 5 150, block 10, submit 7, block (12 * hours + 15), submit 7,
    block (days + 30)]

theorem reachable_twoReports : Reachable config (run (step config) twoReports genesis) :=
  reachableBy_run twoReports (by decide +kernel)

end Mock

/-- The quote for both reports is what is left in the feed, less the fee, and that is what is paid. -/
theorem claimTip_pays_getRewardAmount_twoReports :
    let s := run (step Mock.config) Mock.twoReports Mock.genesis
    let timestamps := [Mock.start + 10, Mock.start + 12 * hours + 15]
    getRewardAmount Mock.config s Mock.feedId Mock.queryId timestamps = 149 ∧
      ∃ s', claimTip Mock.config s 7 Mock.feedId Mock.queryId timestamps = .ok s' ∧
        s'.ledger 7 = s.ledger 7 + 149 := by
  intro s timestamps
  have hquote : getRewardAmount Mock.config s Mock.feedId Mock.queryId timestamps = 149 := by
    decide +kernel
  have haccepted : (claimTip Mock.config s 7 Mock.feedId Mock.queryId timestamps).isOk = true := by
    decide +kernel
  obtain ⟨s', h⟩ := exists_eq_ok haccepted
  obtain ⟨-, -, -, -, -, -, hpaid⟩ := claimTip_pays_getRewardAmount Mock.reachable_twoReports
    (by decide) h
  rw [hquote] at hpaid
  exact ⟨hquote, s', h, hpaid (by decide) (by decide)⟩

/-! ## Two claims for one -/

omit [DecidableEq AccountId] in
theorem totalReward_append {o : Oracle AccountId} {now : ℕ} {a : AutoPay AccountId}
    (first second : List ℕ) : totalReward cfg o now a feedId queryId (first ++ second) =
      totalReward cfg o now a feedId queryId first + totalReward cfg o now a feedId queryId second := by
  rw [totalReward, List.map_append, List.sum_append]
  rfl

omit [DecidableEq AccountId] in
/-- Rewards capped at a lower balance come to the same total, up to that balance. -/
theorem totalReward_lower {o : Oracle AccountId} {now balance : ℕ} {a a' : AutoPay AccountId}
    (h : ∀ t ∈ timestamps, rewardOf cfg o now a' feedId queryId t =
      min balance (rewardOf cfg o now a feedId queryId t)) :
    totalReward cfg o now a' feedId queryId timestamps ≤
        totalReward cfg o now a feedId queryId timestamps ∧
      min balance (totalReward cfg o now a' feedId queryId timestamps) =
        min balance (totalReward cfg o now a feedId queryId timestamps) := by
  induction timestamps with
  | nil => exact ⟨le_rfl, rfl⟩
  | cons timestamp rest ih =>
    obtain ⟨hfirst, hrest⟩ := List.forall_mem_cons.mp h
    obtain ⟨hle, hmin⟩ := ih hrest
    simp only [totalReward, List.map_cons, List.sum_cons] at hle hmin ⊢
    rw [hfirst]
    omega

omit [DecidableEq AccountId] in
/-- A fee that is covered by an amount is covered by a smaller one. -/
theorem feeOn_le_of_le {reward reward' : ℕ} (hle : reward' ≤ reward)
    (h : feeOn cfg reward ≤ reward) : feeOn cfg reward' ≤ reward' := by
  unfold feeOn at h ⊢
  rcases le_total cfg.fee 1000 with hfee | hfee
  · have hproduct : reward' * cfg.fee ≤ reward' * 1000 := Nat.mul_le_mul_left reward' hfee
    omega
  · -- a rate above one is covered while what it exceeds one by is rounded away
    obtain ⟨excess, hexcess⟩ := Nat.exists_eq_add_of_le hfee
    have hproduct : reward' * excess ≤ reward * excess := Nat.mul_le_mul_right excess hle
    have hsplit : ∀ amount, amount * cfg.fee = amount * 1000 + amount * excess := by
      intro amount
      rw [hexcess]
      exact Nat.mul_add amount 1000 excess
    have hwhole := hsplit reward
    have hpart := hsplit reward'
    omega

omit [DecidableEq AccountId] in
/-- The fees on two parts of a reward are the fee on all of it, or one unit less. -/
theorem feeOn_add (cfg : Config AccountId) (reward reward' : ℕ) :
    feeOn cfg (reward + reward') = feeOn cfg reward + feeOn cfg reward' ∨
      feeOn cfg (reward + reward') = feeOn cfg reward + feeOn cfg reward' + 1 := by
  unfold feeOn
  rw [Nat.add_mul]
  omega

section Split

variable {earlier later : List ℕ}

omit [DecidableEq AccountId] in
/-- A claim that leaves something for another one takes its rewards in full. -/
theorem ClaimAllowed.of_append_left (h : ClaimAllowed cfg s reporter feedId queryId feed (earlier ++ later))
    (hlater : later ≠ []) :
    ClaimAllowed cfg s reporter feedId queryId feed earlier ∧
      totalReward cfg s.oracle s.now s.autoPay feedId queryId earlier < feed.balance := by
  have hleft := h.balance_left
  rw [List.dropLast_append_of_ne_nil hlater, totalReward_append] at hleft
  have hsome : totalReward cfg s.oracle s.now s.autoPay feedId queryId earlier < feed.balance := by omega
  have hgross : grossReward cfg s feedId queryId feed earlier ≤
      grossReward cfg s feedId queryId feed (earlier ++ later) := by
    unfold grossReward
    rw [totalReward_append]
    omega
  have hbefore : totalReward cfg s.oracle s.now s.autoPay feedId queryId earlier.dropLast ≤
      totalReward cfg s.oracle s.now s.autoPay feedId queryId earlier := by
    apply List.Sublist.sum_le_sum (earlier.dropLast_sublist.map _)
    exact fun _ _ ↦ Nat.zero_le _
  refine ⟨⟨h.feed_eq, h.balance_pos, ?_, ?_, hbefore.trans_lt hsome, ?_, ?_⟩, hsome⟩
  · exact fun t ht ↦ h.claimable t (List.mem_append_left _ ht)
  · exact (List.nodup_append.mp h.distinct).1
  · exact (Nat.mul_le_mul_right _ hgross).trans h.fee_fits
  · exact feeOn_le_of_le hgross h.fee_covered

omit [DecidableEq AccountId] in
theorem ClaimAllowed.grossReward_earlier
    (h : ClaimAllowed cfg s reporter feedId queryId feed (earlier ++ later)) (hlater : later ≠ []) :
    grossReward cfg s feedId queryId feed earlier =
      totalReward cfg s.oracle s.now s.autoPay feedId queryId earlier :=
  min_eq_right (h.of_append_left hlater).2.le

/-- What the first part of a claim leaves of the feed. -/
def leftOf (cfg : Config AccountId) (s : State AccountId) (feedId : FeedId) (queryId : QueryId)
    (feed : Feed) (earlier : List ℕ) : Feed :=
  { feed with balance := feed.balance - grossReward cfg s feedId queryId feed earlier }

section Later

variable {s₁ : State AccountId}

omit [DecidableEq AccountId] in
/-- After the first part of a claim each report of the rest can be claimed, for its reward up to what
is left. -/
theorem ClaimAllowed.later_lower
    (h : ClaimAllowed cfg s reporter feedId queryId feed (earlier ++ later))
    (hautoPay : s₁.autoPay = claimedAutoPay cfg s feedId queryId feed earlier) :
    s₁.autoPay.dataFeeds.lookup (queryId, feedId) =
        some (leftOf cfg s feedId queryId feed earlier) ∧
      ∀ t ∈ later, Claimable cfg s.oracle s.now s₁.autoPay feedId queryId reporter t ∧
        rewardOf cfg s.oracle s.now s₁.autoPay feedId queryId t =
          min (leftOf cfg s feedId queryId feed earlier).balance
            (rewardOf cfg s.oracle s.now s.autoPay feedId queryId t) := by
  have hfeed' : s₁.autoPay.dataFeeds.lookup (queryId, feedId) =
      some (leftOf cfg s feedId queryId feed earlier) := by
    rw [hautoPay]
    exact Finmap.lookup_insert _
  refine ⟨hfeed', fun t ht ↦ ?_⟩
  have hclaimable := h.claimable t (List.mem_append_right _ ht)
  obtain ⟨_, _, hrewarded⟩ := doGetRewardAmount_rewarded hclaimable.eligible
  have hnew : t ∉ earlier := by
    intro hmem
    obtain ⟨-, -, hapart⟩ := List.nodup_append.mp h.distinct
    exact hapart t hmem t ht rfl
  have hsame : s₁.autoPay.dataFeedRewardClaimed.lookup (queryId, feedId, t) =
      s.autoPay.dataFeedRewardClaimed.lookup (queryId, feedId, t) := by
    rw [hautoPay]
    exact lookup_foldl_insert hnew _
  apply hclaimable.lower h.feed_eq hfeed' (Nat.sub_le _ _)
  exact hsame.trans hrewarded.unclaimed

omit [DecidableEq AccountId] in
/-- Two parts of a claim take as much as the claim. -/
theorem ClaimAllowed.grossReward_add
    (h : ClaimAllowed cfg s reporter feedId queryId feed (earlier ++ later)) (hlater : later ≠ [])
    (hautoPay : s₁.autoPay = claimedAutoPay cfg s feedId queryId feed earlier)
    (horacle : s₁.oracle = s.oracle) (hnow : s₁.now = s.now) :
    grossReward cfg s feedId queryId feed earlier +
        grossReward cfg s₁ feedId queryId (leftOf cfg s feedId queryId feed earlier) later =
      grossReward cfg s feedId queryId feed (earlier ++ later) := by
  obtain ⟨-, hlower⟩ := h.later_lower hautoPay
  obtain ⟨-, hsome⟩ := h.of_append_left hlater
  have htaken := h.grossReward_earlier hlater
  have hcapped := (totalReward_lower fun t ht ↦ (hlower t ht).2).2
  change _ + min (leftOf cfg s feedId queryId feed earlier).balance _ = min _ _
  rw [horacle, hnow, hcapped, totalReward_append, leftOf, htaken]
  dsimp only
  omega

omit [DecidableEq AccountId] in
/-- The rest of a claim exhausts what is left of the feed exactly when the claim exhausts the feed. -/
theorem ClaimAllowed.exhausted_iff
    (h : ClaimAllowed cfg s reporter feedId queryId feed (earlier ++ later)) (hlater : later ≠ [])
    (hautoPay : s₁.autoPay = claimedAutoPay cfg s feedId queryId feed earlier) :
    (leftOf cfg s feedId queryId feed earlier).balance ≤
        totalReward cfg s.oracle s.now s₁.autoPay feedId queryId later ↔
      feed.balance ≤ totalReward cfg s.oracle s.now s.autoPay feedId queryId (earlier ++ later) := by
  obtain ⟨-, hlower⟩ := h.later_lower hautoPay
  have htaken := h.grossReward_earlier hlater
  have hcapped := (totalReward_lower fun t ht ↦ (hlower t ht).2).2
  rw [totalReward_append]
  rw [leftOf, htaken] at hcapped ⊢
  dsimp only at hcapped ⊢
  omega

omit [DecidableEq AccountId] in
/-- Two parts of a claim leave the storage as the claim does. -/
theorem ClaimAllowed.claimedAutoPay_append
    (h : ClaimAllowed cfg s reporter feedId queryId feed (earlier ++ later)) (hlater : later ≠ [])
    (hautoPay : s₁.autoPay = claimedAutoPay cfg s feedId queryId feed earlier)
    (horacle : s₁.oracle = s.oracle) (hnow : s₁.now = s.now) :
    claimedAutoPay cfg s₁ feedId queryId (leftOf cfg s feedId queryId feed earlier) later =
      claimedAutoPay cfg s feedId queryId feed (earlier ++ later) := by
  obtain ⟨-, hsome⟩ := h.of_append_left hlater
  have hexhausted := h.exhausted_iff hlater hautoPay
  rw [← horacle, ← hnow] at hexhausted
  have hstored : (leftOf cfg s feedId queryId feed earlier).balance -
      grossReward cfg s₁ feedId queryId (leftOf cfg s feedId queryId feed earlier) later =
        feed.balance - grossReward cfg s feedId queryId feed (earlier ++ later) := by
    rw [← h.grossReward_add hlater hautoPay horacle hnow]
    exact Nat.sub_sub _ _ _
  have hfeeds : s₁.autoPay.dataFeeds.insert (queryId, feedId) { feed with
        balance := feed.balance - grossReward cfg s feedId queryId feed (earlier ++ later) } =
      s.autoPay.dataFeeds.insert (queryId, feedId) { feed with
        balance := feed.balance - grossReward cfg s feedId queryId feed (earlier ++ later) } := by
    rw [hautoPay]
    exact Finmap.insert_insert _
  have hmarked : s₁.autoPay.claimAll feedId queryId later
      (feed.balance ≤ totalReward cfg s₁.oracle s₁.now s.autoPay feedId queryId (earlier ++ later)) =
        { s.autoPay.claimAll feedId queryId (earlier ++ later)
            (feed.balance ≤
              totalReward cfg s₁.oracle s₁.now s.autoPay feedId queryId (earlier ++ later)) with
          dataFeeds := s₁.autoPay.dataFeeds } := by
    rw [hautoPay, ← AutoPay.claimAll_claimAll (not_le.mpr hsome)]
    rfl
  unfold claimedAutoPay
  rw [AutoPay.claimAll_congr hexhausted, hstored, hmarked, ← hfeeds, horacle, hnow]
  rfl

omit [DecidableEq AccountId] in
/-- The rest of a claim is allowed after the first part of it. -/
theorem ClaimAllowed.of_append_right
    (h : ClaimAllowed cfg s reporter feedId queryId feed (earlier ++ later)) (hlater : later ≠ [])
    (hautoPay : s₁.autoPay = claimedAutoPay cfg s feedId queryId feed earlier)
    (horacle : s₁.oracle = s.oracle) (hnow : s₁.now = s.now) :
    ClaimAllowed cfg s₁ reporter feedId queryId (leftOf cfg s feedId queryId feed earlier) later := by
  obtain ⟨hfeed', hlower⟩ := h.later_lower hautoPay
  have htaken := h.grossReward_earlier hlater
  have hleft := h.balance_left
  rw [List.dropLast_append_of_ne_nil hlater, totalReward_append] at hleft
  have hbefore : totalReward cfg s.oracle s.now s₁.autoPay feedId queryId later.dropLast ≤
      totalReward cfg s.oracle s.now s.autoPay feedId queryId later.dropLast :=
    (totalReward_lower fun t ht ↦ (hlower t (List.mem_of_mem_dropLast ht)).2).1
  have hpart : grossReward cfg s₁ feedId queryId (leftOf cfg s feedId queryId feed earlier) later ≤
      grossReward cfg s feedId queryId feed (earlier ++ later) := by
    rw [← h.grossReward_add hlater hautoPay horacle hnow]
    exact Nat.le_add_left _ _
  obtain ⟨-, hdistinct, -⟩ := List.nodup_append.mp h.distinct
  refine ⟨hfeed', ?_, ?_, hdistinct, ?_, ?_, ?_⟩
  · change 0 < feed.balance - grossReward cfg s feedId queryId feed earlier
    omega
  · rw [horacle, hnow]
    exact fun t ht ↦ (hlower t ht).1
  · change _ < feed.balance - grossReward cfg s feedId queryId feed earlier
    rw [horacle, hnow]
    omega
  · exact (Nat.mul_le_mul_right _ hpart).trans h.fee_fits
  · exact feeOn_le_of_le hpart h.fee_covered

end Later

/-- In every reachable state, a claim that succeeds in one batch may be made in two, of which only the
payments can fail: both pass all checks, together they take as much from the feed and leave the same
feeds, the same reports marked and the same feeds listed, and the reporter receives as much in all, or
one unit more. -/
theorem claimTip_append (hs : Reachable cfg s) (hlater : later ≠ [])
    (h : claimTip cfg s reporter feedId queryId (earlier ++ later) = .ok s') :
    ∃ reward reward' a,
      claimTip cfg s reporter feedId queryId (earlier ++ later) =
        settleClaim cfg s reporter feedId queryId (reward + reward') s'.autoPay ∧
      claimTip cfg s reporter feedId queryId earlier =
        settleClaim cfg s reporter feedId queryId reward a ∧
      (reward - feeOn cfg reward + (reward' - feeOn cfg reward') =
          reward + reward' - feeOn cfg (reward + reward') ∨
        reward - feeOn cfg reward + (reward' - feeOn cfg reward') =
          reward + reward' - feeOn cfg (reward + reward') + 1) ∧
      ∀ s₁, claimTip cfg s reporter feedId queryId earlier = .ok s₁ →
        claimTip cfg s₁ reporter feedId queryId later =
          settleClaim cfg s₁ reporter feedId queryId reward' s'.autoPay ∧
        ∀ s₂, claimTip cfg s₁ reporter feedId queryId later = .ok s₂ →
          s₂.autoPay.dataFeeds = s'.autoPay.dataFeeds ∧
          s₂.autoPay.dataFeedRewardClaimed = s'.autoPay.dataFeedRewardClaimed ∧
          s₂.autoPay.feedsWithFunding = s'.autoPay.feedsWithFunding ∧
          (reporter ≠ cfg.tips → reporter ≠ cfg.stakingRewards →
            s₂.ledger reporter = s'.ledger reporter ∨
              s₂.ledger reporter = s'.ledger reporter + 1) := by
  obtain ⟨feed, hallowed⟩ := claimTip_allowed hs.feeds_bounded h
  have hbound := hs.feeds_bounded _ feed hallowed.feed_eq
  have hbatch := claimTip_eq_settleClaim hbound hallowed
  rw [hbatch] at h
  obtain ⟨hautoPay, -, -, hpaid⟩ := settleClaim_eq_ok h
  obtain ⟨hfirst, -⟩ := hallowed.of_append_left hlater
  have hearlier := claimTip_eq_settleClaim hbound hfirst
  -- the two parts of the reward, and what the reporter receives of them
  obtain ⟨reward, hreward⟩ : ∃ reward, grossReward cfg s feedId queryId feed earlier = reward := ⟨_, rfl⟩
  obtain ⟨reward', hreward'⟩ : ∃ reward', grossReward cfg s feedId queryId feed (earlier ++ later) =
      reward + reward' := by
    apply Nat.exists_eq_add_of_le
    rw [← hreward]
    unfold grossReward
    rw [totalReward_append]
    omega
  have hcovered := hallowed.fee_covered
  rw [hreward'] at hbatch hpaid hcovered
  have hnet : reward - feeOn cfg reward + (reward' - feeOn cfg reward') =
        reward + reward' - feeOn cfg (reward + reward') ∨
      reward - feeOn cfg reward + (reward' - feeOn cfg reward') =
        reward + reward' - feeOn cfg (reward + reward') + 1 := by
    have hfee := feeOn_le_of_le (Nat.le_add_right reward reward') hcovered
    have hfee' := feeOn_le_of_le (Nat.le_add_left reward' reward) hcovered
    rcases feeOn_add cfg reward reward' with hsum | hsum
    · left
      omega
    · right
      omega
  rw [hreward] at hearlier
  refine ⟨reward, reward', _, ?_, hearlier, hnet, fun s₁ hs₁ ↦ ?_⟩
  · rw [hautoPay]
    exact hbatch
  rw [hearlier] at hs₁
  obtain ⟨hautoPay₁, horacle, hnow, hpaid₁⟩ := settleClaim_eq_ok hs₁
  have hgross := hallowed.grossReward_add hlater hautoPay₁ horacle hnow
  have hstored := hallowed.claimedAutoPay_append hlater hautoPay₁ horacle hnow
  have hlast := claimTip_eq_settleClaim ((Nat.sub_le _ _).trans hbound)
    (hallowed.of_append_right hlater hautoPay₁ horacle hnow)
  rw [hreward, hreward'] at hgross
  rw [Nat.add_left_cancel hgross, hstored, ← hautoPay] at hlast
  refine ⟨hlast, fun s₂ hs₂ ↦ ?_⟩
  rw [hlast] at hs₂
  obtain ⟨hautoPay₂, -, -, hpaid₂⟩ := settleClaim_eq_ok hs₂
  rw [hautoPay₂]
  refine ⟨rfl, rfl, rfl, fun htips hrewards ↦ ?_⟩
  rw [hpaid htips hrewards, hpaid₂ htips hrewards, hpaid₁ htips hrewards, Nat.add_assoc]
  rcases hnet with heq | heq
  · left
    rw [heq]
  · right
    rw [heq]
    rfl

end Split

/-- Claimed one after the other, the two reports leave the feed as empty as claimed together. -/
theorem claimTip_append_twoReports :
    let s := run (step Mock.config) Mock.twoReports Mock.genesis
    let earlier := [Mock.start + 10]
    let later := [Mock.start + 12 * hours + 15]
    ∃ s' s₁ s₂, claimTip Mock.config s 7 Mock.feedId Mock.queryId (earlier ++ later) = .ok s' ∧
      claimTip Mock.config s 7 Mock.feedId Mock.queryId earlier = .ok s₁ ∧
      claimTip Mock.config s₁ 7 Mock.feedId Mock.queryId later = .ok s₂ ∧
      s₂.autoPay.dataFeeds = s'.autoPay.dataFeeds := by
  intro s earlier later
  have haccepted : (claimTip Mock.config s 7 Mock.feedId Mock.queryId (earlier ++ later)).isOk =
      true := by decide +kernel
  have hboth : (claimTip Mock.config s 7 Mock.feedId Mock.queryId earlier >>= fun s₁ ↦
      claimTip Mock.config s₁ 7 Mock.feedId Mock.queryId later).isOk = true := by decide +kernel
  obtain ⟨s', h⟩ := exists_eq_ok haccepted
  obtain ⟨s₂, hs₂⟩ := exists_eq_ok hboth
  obtain ⟨s₁, hs₁, hs₂⟩ := bind_eq_ok.mp hs₂
  obtain ⟨_, _, _, -, -, -, hsplit⟩ := claimTip_append Mock.reachable_twoReports
    (List.cons_ne_nil _ _) h
  exact ⟨s', s₁, s₂, h, hs₁, hs₂, ((hsplit s₁ hs₁).2 s₂ hs₂).1⟩

end TellorPallet
