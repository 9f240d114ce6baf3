import TellorPallet.AutoPay.Runs
import TellorPallet.Runtime.Transfers

/-!
# Tips of a user

The tips of a user weigh the user's votes in disputes. They are what the user paid into the tips account,
for one-time tips and for feeds: nothing else adds to them, and no claim or removal of a report takes from
them.
-/

namespace TellorPallet

open Ledger Outcome Transition

variable {AccountId : Type} [DecidableEq AccountId] {cfg : Config AccountId}

/-- What an accepted call adds to the tips of its signer. -/
def Call.tips : Call AccountId → ℕ
  | .fundFeed _ _ amount => amount
  | .setupDataFeed _ _ _ _ _ _ _ _ amount => amount
  | .tip _ amount _ => amount
  | _ => 0

section Calls

variable {s s' : State AccountId} {send : Sender} {origin : Origin AccountId} {call : Call AccountId}
  {user : AccountId} {queryId : QueryId} {amount : ℕ}

theorem tipsByAddress_addUserTips (a : AutoPay AccountId) (tipper user : AccountId) (amount : ℕ) :
    (a.addUserTips cfg tipper amount).tipsByAddress user =
      if user = tipper then Saturating.add cfg.balanceMax (a.tipsByAddress user) amount
      else a.tipsByAddress user := by
  rw [AutoPay.tipsByAddress, AutoPay.addUserTips, FiniteMap.read_insert]
  split
  · next heq => rw [heq]
  · rfl

omit [DecidableEq AccountId] in
theorem TipAdded.userTipsTotal_eq {a a' : AutoPay AccountId} {lastReported : Option ℕ} {now : ℕ}
    (h : TipAdded cfg a lastReported now queryId amount a') : a'.userTipsTotal = a.userTipsTotal := by
  cases h <;> rfl

theorem tipsByAddress_tip {tipper : AccountId} {queryData : QueryData}
    (h : tip cfg s tipper queryId amount queryData = .ok s') (user : AccountId) :
    s'.autoPay.tipsByAddress user =
      if user = tipper then Saturating.add cfg.balanceMax (s.autoPay.tipsByAddress user) amount
      else s.autoPay.tipsByAddress user := by
  simp only [tip, bind_eq_ok, guard_eq_ok, exists_const] at h
  obtain ⟨-, -, a, hadd, ledger, -, h⟩ := h
  have hstate : ∃ currentTip, s'.autoPay =
      AutoPay.addUserTips cfg (a.listFunded queryId currentTip) tipper amount := by
    by_cases hfirst : s.autoPay.countTips queryId = 0
    · simp only [if_pos hfirst] at h
      cases h
      exact ⟨_, rfl⟩
    · simp only [if_neg hfirst] at h
      cases h
      exact ⟨_, rfl⟩
  obtain ⟨currentTip, hautoPay⟩ := hstate
  have hbefore : (a.listFunded queryId currentTip).tipsByAddress user = s.autoPay.tipsByAddress user := by
    rw [AutoPay.tipsByAddress, listFunded_frame]
    exact congrArg (FiniteMap.read · 0 user) (addTip_added hadd).userTipsTotal_eq
  rw [hautoPay, tipsByAddress_addUserTips, hbefore]

theorem tipsByAddress_doFundFeed {feedFunder : AccountId} {feedId : FeedId}
    (h : doFundFeed cfg s feedFunder feedId queryId amount = .ok s') (user : AccountId) :
    s'.autoPay.tipsByAddress user =
      if user = feedFunder then Saturating.add cfg.balanceMax (s.autoPay.tipsByAddress user) amount
      else s.autoPay.tipsByAddress user := by
  simp only [doFundFeed, bind_eq_ok, okOr_eq_ok, guard_eq_ok, exists_const] at h
  obtain ⟨feed, -, -, ledger, -, h⟩ := h
  cases h
  exact tipsByAddress_addUserTips _ feedFunder user amount

/-- An accepted call adds what it tips to the tips of its signer, and nothing to those of others. -/
theorem tipsByAddress_dispatch (hbound : s.autoPay.tipsByAddress user ≤ cfg.balanceMax)
    (h : dispatch cfg send s origin call = .ok s') :
    s'.autoPay.tipsByAddress user = Saturating.add cfg.balanceMax (s.autoPay.tipsByAddress user)
      (if origin = .signed user then call.tips else 0) := by
  have hnone : Saturating.add cfg.balanceMax (s.autoPay.tipsByAddress user) 0 =
      s.autoPay.tipsByAddress user := min_eq_left hbound
  have hkept : s'.autoPay.userTipsTotal = s.autoPay.userTipsTotal → call.tips = 0 →
      s'.autoPay.tipsByAddress user = Saturating.add cfg.balanceMax (s.autoPay.tipsByAddress user)
        (if origin = .signed user then call.tips else 0) := by
    intro htotals htips
    rw [htips, ite_self, hnone, AutoPay.tipsByAddress, htotals, AutoPay.tipsByAddress]
  have hautoPay (heq : s'.autoPay = s.autoPay) := hkept (congrArg AutoPay.userTipsTotal heq)
  have hsigned {signer : AccountId} {amount : ℕ} (horigin : ensureSigned origin = .ok signer)
      (htips : call.tips = amount)
      (hadded : s'.autoPay.tipsByAddress user =
        if user = signer then Saturating.add cfg.balanceMax (s.autoPay.tipsByAddress user) amount
        else s.autoPay.tipsByAddress user) :
      s'.autoPay.tipsByAddress user = Saturating.add cfg.balanceMax (s.autoPay.tipsByAddress user)
        (if origin = .signed user then call.tips else 0) := by
    rw [hadded, ensureSigned_eq_ok.mp horigin, htips]
    simp only [Origin.signed.injEq, eq_comm (a := user)]
    split
    · rfl
    · exact hnone.symm
  cases call with
  | register gasLimit =>
    obtain ⟨_, -, h⟩ := bind_eq_ok.mp h
    exact hautoPay (minor_autoPay_eq (minor_register h)) rfl
  | claimOnetimeTip queryId timestamps =>
    obtain ⟨reporter, -, h⟩ := bind_eq_ok.mp h
    obtain ⟨reward, a, s₁, hclaimed⟩ := claimOnetimeTip_claimed h
    refine hkept ?_ rfl
    rw [hclaimed.state_eq, payReward_frame hclaimed.paid]
    exact (congrArg AutoPay.userTipsTotal (claimTimestamps_frame hclaimed.claimed) :)
  | claimTip feedId queryId timestamps =>
    obtain ⟨reporter, -, h⟩ := bind_eq_ok.mp h
    obtain ⟨feed, reward, a, s₁, hclaimed⟩ := claimTip_claimed h
    refine hkept ?_ rfl
    rw [hclaimed.state_eq, payReward_frame hclaimed.paid]
    exact (congrArg AutoPay.userTipsTotal (claimFeedTimestamps_frame hclaimed.claimed) :)
  | fundFeed feedId queryId amount =>
    obtain ⟨feedFunder, horigin, h⟩ := bind_eq_ok.mp h
    exact hsigned horigin rfl (tipsByAddress_doFundFeed h user)
  | setupDataFeed queryId reward startTime interval window priceThreshold rewardIncreasePerSecond
      queryData amount =>
    obtain ⟨feedCreator, horigin, h⟩ := bind_eq_ok.mp h
    obtain ⟨s₁, -, hsetup, hrest⟩ := setupDataFeed_eq_ok h
    have hsame : s₁.autoPay.tipsByAddress user = s.autoPay.tipsByAddress user := by
      rw [hsetup.autoPay_eq]
      rfl
    rcases hrest with ⟨rfl, rfl⟩ | hfund
    · refine hkept ?_ rfl
      rw [hsetup.autoPay_eq]
    · have hfunded := tipsByAddress_doFundFeed hfund user
      rw [hsame] at hfunded
      exact hsigned horigin rfl hfunded
  | tip queryId amount queryData =>
    obtain ⟨tipper, horigin, h⟩ := bind_eq_ok.mp h
    exact hsigned horigin rfl (tipsByAddress_tip h user)
  | addStakingRewards amount =>
    obtain ⟨source, -, h⟩ := bind_eq_ok.mp h
    obtain ⟨_, hadded, hevents, -⟩ := addStakingRewards_eq_ok h
    refine hautoPay ?_ rfl
    rw [hevents, doAddStakingRewards_frame hadded]
  | submitValue queryId value nonce queryData =>
    obtain ⟨reporter, -, h⟩ := bind_eq_ok.mp h
    obtain ⟨_, hsubmission⟩ := submitValue_submission h
    exact hautoPay (by rw [hsubmission.state_eq]) rfl
  | updateStakeAmount =>
    obtain ⟨_, -, h⟩ := bind_eq_ok.mp h
    exact hautoPay (by rw [(updateStakeAmount_frame h).1]) rfl
  | beginDispute queryId timestamp beneficiary =>
    obtain ⟨initiator, -, h⟩ := bind_eq_ok.mp h
    obtain ⟨_, _, _, s₁, -, -, hprepared, hopened⟩ := beginDispute_eq_ok h
    refine hautoPay ?_ rfl
    rw [hopened.state_eq]
    rcases hprepared with ⟨-, iterations, hfirst⟩ | ⟨-, rfl, -⟩
    · rw [hfirst.state_eq]
    · rfl
  | vote disputeId supports =>
    obtain ⟨voter, -, h⟩ := bind_eq_ok.mp h
    obtain ⟨_, hcast⟩ := doVote_cast h
    exact hautoPay (by rw [hcast.state_eq]) rfl
  | voteOnMultipleDisputes votes =>
    obtain ⟨voter, -, h⟩ := bind_eq_ok.mp h
    exact hautoPay (minor_autoPay_eq (minor_voteOnMultipleDisputes h)) rfl
  | sendVotes maxVotes =>
    obtain ⟨_, -, h⟩ := bind_eq_ok.mp h
    cases h
    exact hautoPay (minor_autoPay_eq (minor_doSendVotes send s s.now maxVotes)) rfl
  | reportStakeDeposited reporter amount address =>
    obtain ⟨event, -, hframe⟩ := reportsStake_frame rfl h
    exact hautoPay (by rw [hframe]) rfl
  | reportStakingWithdrawRequest reporter amount address =>
    obtain ⟨event, -, hframe⟩ := reportsStake_frame rfl h
    exact hautoPay (by rw [hframe]) rfl
  | reportStakeWithdrawn reporter amount =>
    obtain ⟨event, -, hframe⟩ := reportsStake_frame rfl h
    exact hautoPay (by rw [hframe]) rfl
  | reportSlash reporter amount =>
    obtain ⟨event, -, hframe⟩ := reportsStake_frame rfl h
    exact hautoPay (by rw [hframe]) rfl
  | reportVoteTallied disputeId result =>
    obtain ⟨_, -, h⟩ := bind_eq_ok.mp h
    obtain ⟨_, _, htallied⟩ := tallyVotes_tallied h
    exact hautoPay (by rw [htallied.state_eq]) rfl
  | reportVoteExecuted disputeId =>
    obtain ⟨_, -, h⟩ := bind_eq_ok.mp h
    obtain ⟨_, _, _, hexecuted⟩ := executeVote_executed h
    exact hautoPay (by rw [hexecuted.state_eq]) rfl

/-- The transfers of a call move what it tips from its signer to the tips account, and nothing from other
users. -/
theorem Call.Transfers.between_eq {entries : List (Entry AccountId)} (huser : user ∉ palletAccounts cfg)
    (h : call.Transfers cfg s origin entries) :
    between user cfg.tips entries = if origin = .signed user then call.tips else 0 := by
  have hpallet : ∀ source ∈ palletAccounts cfg, user ≠ source := fun source hsource heq ↦
    huser (heq ▸ hsource)
  have hfree (hsources : ∀ entry ∈ entries, entry.source ∈ palletAccounts cfg) (htips : call.tips = 0) :
      between user cfg.tips entries = if origin = .signed user then call.tips else 0 := by
    rw [htips, ite_self]
    exact between_eq_zero fun entry hentry heq ↦ absurd heq (hpallet _ (hsources entry hentry))
  have hother {source dest : AccountId} {amount : ℕ} (hentries : entries = [⟨source, dest, amount⟩])
      (hdest : cfg.tips ≠ dest) (htips : call.tips = 0) :
      between user cfg.tips entries = if origin = .signed user then call.tips else 0 := by
    rw [hentries, htips, ite_self, between_cons, between_nil, if_neg fun hboth ↦ hdest hboth.2]
  have hsigned {signer : AccountId} (horigin : origin = .signed signer)
      (hentries : entries = [⟨signer, cfg.tips, call.tips⟩]) :
      between user cfg.tips entries = if origin = .signed user then call.tips else 0 := by
    rw [hentries, between_cons, between_nil, Nat.add_zero, horigin]
    simp only [Origin.signed.injEq, and_true, eq_comm]
  cases call with
  | register gasLimit =>
    refine hfree ?_ rfl
    intro entry hentry
    obtain ⟨dest, -, rfl⟩ := List.mem_map.mp (h.subset hentry)
    exact List.mem_cons_self
  | claimOnetimeTip queryId timestamps =>
    obtain ⟨reporter, reward, -, rfl⟩ := h
    exact hfree (by simp [rewardEntries, palletAccounts]) rfl
  | claimTip feedId queryId timestamps =>
    obtain ⟨reporter, reward, -, rfl⟩ := h
    exact hfree (by simp [rewardEntries, palletAccounts]) rfl
  | fundFeed feedId queryId amount =>
    obtain ⟨feedFunder, horigin, hentries⟩ := h
    exact hsigned horigin hentries
  | setupDataFeed queryId reward startTime interval window priceThreshold rewardIncreasePerSecond
      queryData amount =>
    obtain ⟨feedCreator, horigin, hentries⟩ := h
    exact hsigned horigin hentries
  | tip queryId amount queryData =>
    obtain ⟨tipper, horigin, hentries⟩ := h
    exact hsigned horigin hentries
  | addStakingRewards amount =>
    obtain ⟨source, -, hentries⟩ := h
    exact hother hentries cfg.tips_ne_stakingRewards rfl
  | beginDispute queryId timestamp beneficiary =>
    obtain ⟨initiator, -, hentries⟩ := h
    exact hother hentries cfg.tips_ne_disputeFees rfl
  | reportStakeDeposited reporter amount address =>
    exact hfree (fun entry hentry ↦ by rw [(h entry hentry).1]; simp [palletAccounts]) rfl
  | reportStakingWithdrawRequest reporter amount address =>
    exact hfree (fun entry hentry ↦ by rw [(h entry hentry).1]; simp [palletAccounts]) rfl
  | reportSlash reporter amount =>
    exact hfree (fun entry hentry ↦ by rw [(h entry hentry).1]; simp [palletAccounts]) rfl
  | reportVoteExecuted disputeId =>
    obtain ⟨dispute, vote, result, -, -, -, -, rfl⟩ := h
    refine hfree ?_ rfl
    intro entry hentry
    obtain ⟨voteRound, -, hround⟩ := List.mem_filterMap.mp hentry
    obtain ⟨found, -, rfl⟩ := Option.map_eq_some_iff.mp hround
    simp [palletAccounts]
  | _ =>
    have hnone : entries = [] := h
    refine hfree ?_ rfl
    simp [hnone]

end Calls

section Runs

variable {s : State AccountId} {user : AccountId} {entries : List (Entry AccountId)}

theorem tipsByAddress_step {input : Input AccountId} (huser : user ∉ palletAccounts cfg)
    (hbound : s.autoPay.tipsByAddress user ≤ cfg.balanceMax) (h : input.Transfers cfg s entries) :
    (step cfg input s).autoPay.tipsByAddress user =
      Saturating.add cfg.balanceMax (s.autoPay.tipsByAddress user) (between user cfg.tips entries) := by
  have hkept : entries = [] → (step cfg input s).autoPay = s.autoPay →
      (step cfg input s).autoPay.tipsByAddress user =
        Saturating.add cfg.balanceMax (s.autoPay.tipsByAddress user) (between user cfg.tips entries) := by
    intro hentries hautoPay
    rw [hentries, hautoPay, between_nil, Saturating.add, Nat.add_zero, min_eq_left hbound]
  cases input with
  | newBlock blockNumber now => exact hkept h rfl
  | onInitialize send =>
    exact hkept h (minor_autoPay_eq ((minor_updatePrices s).trans (minor_doSendVotes send _ _ _)))
  | external account balance => exact hkept h rfl
  | extrinsic send origin call =>
    simp only [Input.Transfers, step, applyCall] at h hkept ⊢
    cases hdispatch : dispatch cfg send s origin call with
    | error error =>
      rw [hdispatch] at h hkept
      exact hkept h rfl
    | ok s' =>
      rw [hdispatch] at h
      have htransfers : call.Transfers cfg s origin entries := h
      rw [htransfers.between_eq huser]
      exact tipsByAddress_dispatch hbound hdispatch

theorem tipsByAddress_le_step {input : Input AccountId}
    (hbound : s.autoPay.tipsByAddress user ≤ cfg.balanceMax) :
    (step cfg input s).autoPay.tipsByAddress user ≤ cfg.balanceMax := by
  cases input with
  | newBlock blockNumber now => exact hbound
  | onInitialize send =>
    have hautoPay : (step cfg (.onInitialize send) s).autoPay = s.autoPay :=
      minor_autoPay_eq ((minor_updatePrices s).trans (minor_doSendVotes send _ _ _))
    rw [hautoPay]
    exact hbound
  | external account balance => exact hbound
  | extrinsic send origin call =>
    rw [step, applyCall]
    cases hdispatch : dispatch cfg send s origin call with
    | error error => exact hbound
    | ok s' => exact (tipsByAddress_dispatch hbound hdispatch).trans_le (Saturating.add_le_bound _ _ _)

theorem Reachable.tipsByAddress_le (h : Reachable cfg s) (user : AccountId) :
    s.autoPay.tipsByAddress user ≤ cfg.balanceMax := by
  obtain ⟨s₀, hgenesis, hreaches⟩ := h
  have hstep : ∀ (s : State AccountId) (input : Input AccountId),
      s.autoPay.tipsByAddress user ≤ cfg.balanceMax → Admissible cfg s input →
        (step cfg input s).autoPay.tipsByAddress user ≤ cfg.balanceMax :=
    fun _ _ hbound _ ↦ tipsByAddress_le_step hbound
  refine Reaches.invariant hstep hreaches ?_
  obtain ⟨ledger, blockNumber, now, -, rfl⟩ := hgenesis
  exact Nat.zero_le _

/-- In every run the tips of a user grow by what the user pays into the tips account, until they
saturate: they are bought in full, and once bought they stay. -/
theorem tipsByAddress_of_run (hreachable : Reachable cfg s) (huser : user ∉ palletAccounts cfg)
    {inputs : List (Input AccountId)} (h : Journal cfg inputs s entries) :
    (run (step cfg) inputs s).autoPay.tipsByAddress user =
      Saturating.add cfg.balanceMax (s.autoPay.tipsByAddress user) (between user cfg.tips entries) := by
  have hbound := hreachable.tipsByAddress_le user
  clear hreachable
  induction inputs generalizing s entries with
  | nil =>
    have hnone : entries = [] := h
    rw [hnone, between_nil, Saturating.add, Nat.add_zero, min_eq_left hbound]
    rfl
  | cons input rest ih =>
    obtain ⟨first, later, rfl, hfirst, hlater⟩ := h
    have hstep := tipsByAddress_step huser hbound hfirst
    have hrest := ih hlater (tipsByAddress_le_step hbound)
    change (run (step cfg) rest (step cfg input s)).autoPay.tipsByAddress user = _
    rw [hrest, hstep, between_append]
    unfold Saturating.add
    omega

/-- A user sets up a feed with 1000 and tips 100; the tip and a reward of the feed are claimed later. -/
theorem tipsByAddress_of_run_payments :
    ∃ entries, Journal Mock.config Mock.payments Mock.genesis entries ∧
      Saturating.add Mock.config.balanceMax 0 (between 5 Mock.config.tips entries) = 1100 := by
  obtain ⟨entries, hentries, -⟩ := exists_posted_journal Mock.payments (by decide)
  have htips := tipsByAddress_of_run
    (⟨_, Mock.isGenesis_genesis, .refl _⟩ : Reachable Mock.config Mock.genesis)
    (show 5 ∉ palletAccounts Mock.config by decide) hentries
  have htotal : (run (step Mock.config) Mock.payments Mock.genesis).autoPay.tipsByAddress 5 = 1100 := by
    decide +kernel
  exact ⟨entries, hentries, htips.symm.trans htotal⟩

end Runs

end TellorPallet
