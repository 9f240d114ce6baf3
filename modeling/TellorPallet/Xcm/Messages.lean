import TellorPallet.Governance.Casting
import TellorPallet.Oracle.Prices
import TellorPallet.Oracle.Runs
import TellorPallet.Staking.Addresses

/-!
# Messages along runs

Every input is a sequence of the moves below, as far as the messages sent are concerned and what they are
about. Registering sends one message to the registry, opening a round one to the governance contract,
and sending a pending vote another. No other move sends any.
-/

namespace TellorPallet

open Outcome Transition

variable {AccountId : Type} [DecidableEq AccountId] {cfg : Config AccountId}

/-- What a move that sends nothing leaves alone. -/
structure Silent (cfg : Config AccountId) (s s' : State AccountId) : Prop where
  governance_eq : s'.governance = s.governance
  sentMessages_eq : s'.sentMessages = s.sentMessages
  addresses_kept : AddressesKept s.staking s'.staking
  now_le : s.now ≤ s'.now
  stakeAmount_cases : s'.prices.stakeAmount = s.prices.stakeAmount ∨
    s'.prices.stakeAmount ≤ max cfg.minimumStakeAmount u256Max

/-- What opening a round did, and told the governance contract. -/
structure Announced (cfg : Config AccountId) (s : State AccountId) (queryId : QueryId)
    (timestamp voteRound : ℕ) (dispute : Dispute AccountId) (message : Message)
    (s' : State AccountId) : Prop where
  opened : ∃ fee initiator,
    Opened cfg s (disputeIdOf cfg queryId timestamp) voteRound fee initiator s'
  timestamp_le : timestamp ≤ s.now
  disputeInfo_eq : ∀ other, s'.governance.disputeInfo.lookup other =
    if other = disputeIdOf cfg queryId timestamp then some dispute
    else s.governance.disputeInfo.lookup other
  dispute_cases : (voteRound = 1 ∧ dispute.slashedAmount = s.prices.stakeAmount) ∨
    (voteRound ≠ 1 ∧
      s.governance.disputeInfo.lookup (disputeIdOf cfg queryId timestamp) = some dispute)
  message_eq : ∃ disputedReporter beneficiary,
    s.staking.addressOf dispute.disputedReporter = some disputedReporter ∧
    transact cfg cfg.governance (beginParachainDisputeCall queryId timestamp dispute.value
      disputedReporter beneficiary dispute.slashedAmount) gasBeginParachainDispute = .ok message
  staking_eq : s'.staking = s.staking
  sentMessages_eq : s'.sentMessages = s.sentMessages ++ [message]
  stakeAmount_eq : s'.prices.stakeAmount = s.prices.stakeAmount

/-- The moves an input is made of, as far as messages are concerned. -/
inductive MessageStep (cfg : Config AccountId) (s : State AccountId) : State AccountId → Prop where
  | silent {s' : State AccountId} (h : Silent cfg s s') : MessageStep cfg s s'
  | registered {s' : State AccountId} {paraId palletIndex weightToFee parents gasLimit : ℕ}
      {interior : List Bytes} {weights : Weights} {message : Message}
      (hmessage : transact cfg cfg.registry
        (registerCall paraId palletIndex weightToFee parents interior weights) gasLimit = .ok message)
      (hmessages : s'.sentMessages = s.sentMessages ++ [message])
      (hgovernance : s'.governance = s.governance) (hstaking : s'.staking = s.staking)
      (hnow : s'.now = s.now) (hprices : s'.prices = s.prices) : MessageStep cfg s s'
  | voted {voter : AccountId} {disputeId : DisputeId} {supports : Option Bool}
      {vote : Vote AccountId} {s' : State AccountId}
      (h : VoteCast cfg s voter disputeId supports vote s') : MessageStep cfg s s'
  | sent {send : Sender} {disputeId : DisputeId} {pending : ℕ × ℕ} {vote : Vote AccountId}
      {message : Message} {s' : State AccountId}
      (hpending : s.governance.pendingVotes.lookup disputeId = some pending)
      (h : VoteSent cfg send s disputeId pending.1 vote message s') : MessageStep cfg s s'
  | announced {queryId : QueryId} {timestamp voteRound : ℕ} {dispute : Dispute AccountId}
      {message : Message} {s' : State AccountId}
      (h : Announced cfg s queryId timestamp voteRound dispute message s') : MessageStep cfg s s'
  | tallied {disputeId : DisputeId} {result : VoteResult} {vote : Vote AccountId}
      {dispute : Dispute AccountId} {s' : State AccountId}
      (h : VoteTallied s disputeId result vote dispute s') : MessageStep cfg s s'
  | executed {disputeId : DisputeId} {vote : Vote AccountId} {result : VoteResult}
      {dispute : Dispute AccountId} {s' : State AccountId}
      (h : VoteExecuted cfg s disputeId vote result dispute s') : MessageStep cfg s s'

section Steps

variable {s s' : State AccountId}

theorem Silent.of_eq (hgovernance : s'.governance = s.governance)
    (hmessages : s'.sentMessages = s.sentMessages) (haddresses : AddressesKept s.staking s'.staking)
    (hnow : s'.now = s.now) (hprices : s'.prices = s.prices) : Silent cfg s s' :=
  ⟨hgovernance, hmessages, haddresses, hnow.ge, Or.inl (congrArg Prices.stakeAmount hprices)⟩

/-- The stake amount set from a price is the minimum, or a quotient of a checked product. -/
theorem updateStakeAmount_silent (h : updateStakeAmount cfg s = .ok s') : Silent cfg s s' := by
  have hframe := (updateStakeAmount_frame h).1
  have hstaking : s'.staking = s.staking := (congrArg State.staking hframe :)
  refine ⟨(congrArg State.governance hframe :), (congrArg State.sentMessages hframe :),
    .of_details (by rw [hstaking]), (congrArg State.now hframe :).ge, Or.inr ?_⟩
  obtain ⟨mid, hmid, hfee⟩ := bind_eq_ok.mp h
  obtain ⟨price, -, hprices, -, -⟩ := doUpdateStakeAmount_eq_ok hmid
  obtain ⟨_, -, hlast⟩ := updateDisputeFee_eq_ok hfee
  have hfits : cfg.stakeAmountCurrencyTarget * 10 ^ 18 ≤ u256Max := by
    simp only [doUpdateStakeAmount, bind_eq_ok, okOr_eq_ok, Checked.mul_eq_some] at hmid
    obtain ⟨_, -, _, ⟨hfits, -⟩, -⟩ := hmid
    exact hfits
  rw [hlast, hprices]
  exact max_le_max le_rfl ((Nat.div_le_self _ _).trans hfits)

theorem updatePrices_silent (s : State AccountId) : Silent cfg s (updatePrices cfg s) := by
  have hsame : Silent cfg s s := .of_eq rfl rfl (.of_details rfl) rfl rfl
  unfold updatePrices
  split
  · split
    · next updated hupdated =>
      have hsilent := updateStakeAmount_silent hupdated
      exact ⟨hsilent.governance_eq, hsilent.sentMessages_eq, hsilent.addresses_kept, hsilent.now_le,
        hsilent.stakeAmount_cases⟩
    · exact hsame
  · exact hsame

theorem messageSteps_votes {voter : AccountId} {ballots : List (DisputeId × Option Bool)}
    (h : voteOnMultipleDisputes cfg s voter ballots = .ok s') :
    Relation.ReflTransGen (MessageStep cfg) s s' := by
  refine foldlM_invariant (Relation.ReflTransGen (MessageStep cfg) s) ?_ ballots s s'
    Relation.ReflTransGen.refl h
  intro mid ballot mid' hmid hvote
  obtain ⟨_, hcast⟩ := doVote_cast hvote
  exact hmid.tail (.voted hcast)

/-- The amount that a dispute asks to slash is the stake amount at its first round. -/
theorem openFirstRound_slashedAmount {queryId : QueryId} {timestamp fee fee' : ℕ}
    {disputeId : DisputeId} {dispute : Dispute AccountId}
    (h : openFirstRound cfg s queryId timestamp disputeId fee = .ok (dispute, fee', s')) :
    dispute.slashedAmount = s.prices.stakeAmount := by
  simp only [openFirstRound, bind_eq_ok] at h
  obtain ⟨_, -, _, -, _, -, _, -, _, -, _, -, h⟩ := h
  cases h
  rfl

/-- A dispute opened a round and announced it. -/
theorem beginDispute_announced {send : Sender} {initiator : AccountId} {queryId : QueryId}
    {timestamp : ℕ} {beneficiary : Option Address} (hinv : SeriesInvariant s)
    (hinitiator : initiator ≠ cfg.disputeFees)
    (h : beginDispute cfg send s initiator queryId timestamp beneficiary = .ok s') :
    ∃ voteRound dispute message, Announced cfg s queryId timestamp voteRound dispute message s' := by
  simp only [beginDispute, bind_eq_ok, okOr_eq_ok, guard_eq_ok, exists_const, State.sendXcm_eq_ok] at h
  obtain ⟨beneficiary, -, hreported, voteRound, hround, ⟨dispute, fee, s₁⟩, hprepared, s₂, hopened, info,
    hinfo, message, hmessage, -, h⟩ := h
  obtain ⟨hnext, hmax⟩ := nextVoteRound_eq_ok hround
  have hprepare : RoundPrepared cfg s queryId timestamp (disputeIdOf cfg queryId timestamp) voteRound
      dispute s₁ := by
    split at hprepared
    · next hfirst => exact Or.inl ⟨hfirst, openFirstRound_firstRound hprepared⟩
    · next hlater => exact Or.inr ⟨hlater, openLaterRound_laterRound hprepared⟩
  have hdispute : ∀ other, s₁.governance.disputeInfo.lookup other =
      if other = disputeIdOf cfg queryId timestamp then some dispute
      else s.governance.disputeInfo.lookup other := by
    intro other
    rcases hprepare with ⟨-, iterations, hfirst⟩ | ⟨-, rfl, prevVote, hlater⟩
    · rw [hfirst.state_eq]
      exact FiniteMap.lookup_insert_ite _ _ _ _
    · split
      · next heq => rw [heq, hlater.dispute_eq]
      · rfl
  obtain ⟨hsentMessages, hprices, hstaking⟩ : s₁.sentMessages = s.sentMessages ∧
      s₁.prices = s.prices ∧ s₁.staking = s.staking := by
    rcases hprepare with ⟨-, iterations, hfirst⟩ | ⟨-, rfl, -⟩
    · rw [hfirst.state_eq]
      exact ⟨rfl, rfl, rfl⟩
    · exact ⟨rfl, rfl, rfl⟩
  have hcases : (voteRound = 1 ∧ dispute.slashedAmount = s.prices.stakeAmount) ∨ (voteRound ≠ 1 ∧
      s.governance.disputeInfo.lookup (disputeIdOf cfg queryId timestamp) = some dispute) := by
    rcases hprepare with ⟨hfirst, -⟩ | ⟨hlater, -, prevVote, hfound⟩
    · rw [if_pos hfirst] at hprepared
      exact Or.inl ⟨hfirst, openFirstRound_slashedAmount hprepared⟩
    · exact Or.inr ⟨hlater, hfound.dispute_eq⟩
  obtain ⟨ledger, htransfer, hopened⟩ := bind_eq_ok.mp hopened
  cases hopened
  have hround₂ : RoundOpened cfg s₁ (disputeIdOf cfg queryId timestamp) voteRound
      (min fee (Saturating.mul cfg.balanceMax s₁.prices.disputeFee 10)) initiator
      [.newDispute (disputeIdOf cfg queryId timestamp) queryId timestamp dispute.disputedReporter,
        .newDisputeSent cfg.governance.paraId cfg.governance.address] s' := by
    rw [← h]
    exact ⟨htransfer, by simp [State.depositEvent]⟩
  obtain ⟨report, hreport⟩ := Option.isSome_iff_exists.mp hreported
  have haddress : s.staking.addressOf dispute.disputedReporter = some info.address := by
    rw [Staking.addressOf, ← hstaking]
    exact congrArg (Option.map StakeInfo.address) hinfo
  refine ⟨voteRound, dispute, message, ⟨_, initiator, opened_of_prepared hinitiator hnext hmax hprepare
    hround₂ ?_⟩, (hinv.time queryId timestamp report hreport).2, ?_, hcases,
    ⟨_, _, haddress, hmessage⟩, ?_, ?_, ?_⟩
  · simp [Event.isVoteEvent]
  · rw [← h]
    exact hdispute
  · rw [← h, ← hstaking]
    rfl
  · rw [← h, ← hsentMessages]
    rfl
  · rw [← h, ← hprices]
    rfl

theorem dispatch_messageSteps {send : Sender} {origin : Origin AccountId} {call : Call AccountId}
    (hinv : SeriesInvariant s) (hsigner : ∀ account ∈ palletAccounts cfg, origin ≠ .signed account)
    (h : dispatch cfg send s origin call = .ok s') :
    Relation.ReflTransGen (MessageStep cfg) s s' := by
  have haddresses : AddressesKept s.staking s'.staking :=
    (dispatch_effect hsigner h).stakingStep.addressesKept
  have hsilent : ∀ {s'' : State AccountId}, s''.governance = s.governance →
      s''.sentMessages = s.sentMessages → AddressesKept s.staking s''.staking → s''.now = s.now →
      s''.prices = s.prices → Relation.ReflTransGen (MessageStep cfg) s s'' :=
    fun hgovernance hmessages haddresses hnow hprices ↦
      Relation.ReflTransGen.single (.silent (.of_eq hgovernance hmessages haddresses hnow hprices))
  cases call with
  | register gasLimit =>
    obtain ⟨_, -, h⟩ := bind_eq_ok.mp h
    simp only [register, bind_eq_ok] at h
    obtain ⟨ledger, -, location, -, interior, -, message, hmessage, hsent⟩ := h
    obtain ⟨-, rfl⟩ := State.sendXcm_eq_ok.mp hsent
    exact Relation.ReflTransGen.single (.registered hmessage rfl rfl rfl rfl rfl)
  | claimOnetimeTip queryId timestamps =>
    obtain ⟨_, -, h⟩ := bind_eq_ok.mp h
    obtain ⟨_, _, _, hclaimed⟩ := claimOnetimeTip_claimed h
    rw [hclaimed.frame] at haddresses ⊢
    exact hsilent rfl rfl haddresses rfl rfl
  | claimTip feedId queryId timestamps =>
    obtain ⟨_, -, h⟩ := bind_eq_ok.mp h
    obtain ⟨_, _, _, _, hclaimed⟩ := claimTip_claimed h
    rw [hclaimed.frame] at haddresses ⊢
    exact hsilent rfl rfl haddresses rfl rfl
  | fundFeed feedId queryId amount =>
    obtain ⟨_, -, h⟩ := bind_eq_ok.mp h
    obtain ⟨_, hfunded⟩ := doFundFeed_funded h
    rw [hfunded.frame] at haddresses ⊢
    exact hsilent rfl rfl haddresses rfl rfl
  | setupDataFeed queryId reward startTime interval window priceThreshold rewardIncreasePerSecond
      queryData amount =>
    obtain ⟨_, -, h⟩ := bind_eq_ok.mp h
    obtain ⟨s₁, -, hsetup, hrest⟩ := setupDataFeed_eq_ok h
    rcases hrest with ⟨-, rfl⟩ | hfund
    · rw [hsetup.frame] at haddresses ⊢
      exact hsilent rfl rfl haddresses rfl rfl
    · obtain ⟨_, hfunded⟩ := doFundFeed_funded hfund
      rw [hfunded.frame, hsetup.frame] at haddresses ⊢
      exact hsilent rfl rfl haddresses rfl rfl
  | tip queryId amount queryData =>
    obtain ⟨_, -, h⟩ := bind_eq_ok.mp h
    obtain ⟨_, htipped⟩ := tip_tipped h
    rw [htipped.frame] at haddresses ⊢
    exact hsilent rfl rfl haddresses rfl rfl
  | addStakingRewards amount =>
    obtain ⟨_, -, h⟩ := bind_eq_ok.mp h
    obtain ⟨s₁, hadded, hevents, -⟩ := addStakingRewards_eq_ok h
    rw [hevents, doAddStakingRewards_frame hadded] at haddresses ⊢
    exact hsilent rfl rfl haddresses rfl rfl
  | submitValue queryId value nonce queryData =>
    obtain ⟨_, -, h⟩ := bind_eq_ok.mp h
    obtain ⟨_, hsubmission⟩ := submitValue_submission h
    rw [hsubmission.state_eq] at haddresses ⊢
    exact hsilent rfl rfl haddresses rfl rfl
  | updateStakeAmount =>
    obtain ⟨_, -, h⟩ := bind_eq_ok.mp h
    exact Relation.ReflTransGen.single (.silent (updateStakeAmount_silent h))
  | beginDispute queryId timestamp beneficiary =>
    obtain ⟨initiator, horigin, h⟩ := bind_eq_ok.mp h
    rw [ensureSigned_eq_ok] at horigin
    have hmem : cfg.disputeFees ∈ palletAccounts cfg := by simp [palletAccounts]
    have hinitiator : initiator ≠ cfg.disputeFees := by
      intro heq
      exact hsigner _ hmem (horigin.trans (congrArg Origin.signed heq))
    obtain ⟨_, _, _, hannounced⟩ := beginDispute_announced hinv hinitiator h
    exact Relation.ReflTransGen.single (.announced hannounced)
  | vote disputeId supports =>
    obtain ⟨_, -, h⟩ := bind_eq_ok.mp h
    obtain ⟨_, hcast⟩ := doVote_cast h
    exact Relation.ReflTransGen.single (.voted hcast)
  | voteOnMultipleDisputes votes =>
    obtain ⟨_, -, h⟩ := bind_eq_ok.mp h
    exact messageSteps_votes h
  | sendVotes maxVotes =>
    obtain ⟨_, -, h⟩ := bind_eq_ok.mp h
    cases h
    exact doSendVotes_steps send .sent s s.now maxVotes
  | reportVoteTallied disputeId result =>
    obtain ⟨_, -, h⟩ := bind_eq_ok.mp h
    obtain ⟨_, _, htallied⟩ := tallyVotes_tallied h
    exact Relation.ReflTransGen.single (.tallied htallied)
  | reportVoteExecuted disputeId =>
    obtain ⟨_, -, h⟩ := bind_eq_ok.mp h
    obtain ⟨_, _, _, hexecuted⟩ := executeVote_executed h
    exact Relation.ReflTransGen.single (.executed hexecuted)
  | _ =>
    obtain ⟨_, -, hframe⟩ := reportsStake_frame rfl h
    rw [hframe] at haddresses ⊢
    exact hsilent rfl rfl haddresses rfl rfl

/-- Every admissible input is a sequence of such moves. -/
theorem step_messageSteps {input : Input AccountId} (hinv : SeriesInvariant s)
    (h : Admissible cfg s input) :
    Relation.ReflTransGen (MessageStep cfg) s (step cfg input s) := by
  cases input with
  | newBlock blockNumber now =>
    exact Relation.ReflTransGen.single (.silent ⟨rfl, rfl, .of_details rfl, h, Or.inl rfl⟩)
  | external account balance =>
    exact Relation.ReflTransGen.single (.silent (.of_eq rfl rfl (.of_details rfl) rfl rfl))
  | onInitialize send =>
    exact Relation.ReflTransGen.head (.silent (updatePrices_silent s))
      (doSendVotes_steps send .sent _ _ _)
  | extrinsic send origin call =>
    change Relation.ReflTransGen _ _ (applyCall cfg send s origin call)
    unfold applyCall
    split
    · next s' hs' => exact dispatch_messageSteps hinv h hs'
    · exact Relation.ReflTransGen.refl

theorem MessageStep.now_le (h : MessageStep cfg s s') : s.now ≤ s'.now := by
  cases h with
  | silent h => exact h.now_le
  | registered hmessage hmessages hgovernance hstaking hnow hprices => exact hnow.ge
  | voted h => exact h.voteUpdated.now_eq.ge
  | sent hpending h => exact h.voteUpdated.now_eq.ge
  | announced h =>
    obtain ⟨_, _, hopened⟩ := h.opened
    exact hopened.now_eq.ge
  | tallied h => exact h.voteUpdated.now_eq.ge
  | executed h => exact h.voteUpdated.now_eq.ge

theorem now_le_of_messageSteps (h : Relation.ReflTransGen (MessageStep cfg) s s') : s.now ≤ s'.now := by
  induction h with
  | refl => exact le_rfl
  | tail _ hlast ih => exact ih.trans hlast.now_le

end Steps

end TellorPallet
