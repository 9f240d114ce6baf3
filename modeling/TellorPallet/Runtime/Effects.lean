import Mathlib.Logic.Relation
import TellorPallet.Runtime.Machine

/-!
# What one input can do

One inversion of the step function for the whole machine: an input leaves the state alone, makes any
number of minor moves, or has the one effect that the successful path of its call established.
Every invariant below is proved from this list alone.
-/

namespace TellorPallet

open Outcome Transition

variable {AccountId : Type} [DecidableEq AccountId] (cfg : Config AccountId)

/-- The moves that a single input may make several of. -/
inductive Minor (s : State AccountId) : State AccountId → Prop where
  /-- A pallet account receives the minimum balance. -/
  | funded {account : AccountId} {ledger : Ledger AccountId}
      (haccount : account ∈ [cfg.disputeFees, cfg.stakingRewards, cfg.tips])
      (h : transfer cfg s.ledger cfg.account account cfg.minimumBalance .protect = .ok ledger) :
      Minor s { s with ledger := ledger }
  /-- The registration is sent. -/
  | registered {send : Sender} {message : Message} {event : Event AccountId} {s' : State AccountId}
      (hevent : event.isVoteEvent = false) (h : s.sendXcm send message event = .ok s') : Minor s s'
  /-- The amounts that follow reported prices are updated. -/
  | priced {s' : State AccountId}
      (h : s' = { s with prices := s'.prices, events := s'.events })
      (hquiet : s'.voteEvents = s.voteEvents) : Minor s s'
  | voted {voter : AccountId} {disputeId : DisputeId} {supports : Option Bool}
      {vote : Vote AccountId} {s' : State AccountId}
      (h : VoteCast cfg s voter disputeId supports vote s') : Minor s s'
  | sent {send : Sender} {disputeId : DisputeId} {pending : ℕ × ℕ} {vote : Vote AccountId}
      {message : Message} {s' : State AccountId}
      (hpending : s.governance.pendingVotes.lookup disputeId = some pending)
      (h : VoteSent cfg send s disputeId pending.1 vote message s') : Minor s s'

/-- The staker whose stake a call reports on, a withdrawal apart. -/
def Call.staker : Call AccountId → Option AccountId
  | .reportStakeDeposited reporter _ _ => some reporter
  | .reportStakingWithdrawRequest reporter _ _ => some reporter
  | .reportSlash reporter _ => some reporter
  | _ => none

/-- The balance at which a report settles its reporter's stake, as a function of the reporter's
record. -/
def Call.settledBalance (info : StakeInfo) : Call AccountId → Option ℕ
  | .reportStakeDeposited _ amount _ => some (info.stakedBalance + amount)
  | .reportStakingWithdrawRequest _ amount _ => some (info.stakedBalance - amount)
  | .reportSlash _ amount => info.slashed amount
  | _ => none

/-- What an input can do to a state. -/
inductive Effect (s : State AccountId) : Input AccountId → State AccountId → Prop where
  /-- The input is refused. -/
  | refused {input : Input AccountId} : Effect s input s
  | minor {input : Input AccountId} {s' : State AccountId} (hinput : input.runsPallet = true)
      (h : Relation.ReflTransGen (Minor cfg) s s') : Effect s input s'
  | newBlock {blockNumber now : ℕ} (h : s.now ≤ now) :
      Effect s (.newBlock blockNumber now) { s with blockNumber := blockNumber, now := now }
  | external {account : AccountId} {balance : ℕ} (hbound : balance ≤ cfg.balanceMax)
      (hpallet : account ∈ palletAccounts cfg → s.ledger account ≤ balance) :
      Effect s (.external account balance)
        { s with ledger := Function.update s.ledger account balance }
  | tipped {send : Sender} {tipper : AccountId} {queryId : QueryId} {amount : ℕ}
      {queryData : QueryData} {a : AutoPay AccountId} {s' : State AccountId}
      (hsigner : tipper ∉ palletAccounts cfg) (h : Tipped cfg s tipper queryId amount a s') :
      Effect s (.extrinsic send (.signed tipper) (.tip queryId amount queryData)) s'
  | feedSetUp {send : Sender} {origin : Origin AccountId} {call : Call AccountId}
      {queryId : QueryId} {feed : Feed} {s' : State AccountId} (hbalance : feed.balance = 0)
      (h : FeedSetUp cfg s queryId feed s') : Effect s (.extrinsic send origin call) s'
  | feedSetUpFunded {send : Sender} {call : Call AccountId} {feedFunder : AccountId}
      {queryId : QueryId} {feed feed₁ : Feed} {amount : ℕ} {s₁ s' : State AccountId}
      (hsigner : feedFunder ∉ palletAccounts cfg) (hbalance : feed.balance = 0)
      (h : FeedSetUp cfg s queryId feed s₁)
      (hfunded : FeedFunded cfg s₁ feedFunder (feedIdOf cfg queryId feed) queryId amount feed₁ s') :
      Effect s (.extrinsic send (.signed feedFunder) call) s'
  | feedFunded {send : Sender} {feedFunder : AccountId} {feedId : FeedId} {queryId : QueryId}
      {amount : ℕ} {feed : Feed} {s' : State AccountId} (hsigner : feedFunder ∉ palletAccounts cfg)
      (h : FeedFunded cfg s feedFunder feedId queryId amount feed s') :
      Effect s (.extrinsic send (.signed feedFunder) (.fundFeed feedId queryId amount)) s'
  | onetimeClaimed {send : Sender} {reporter : AccountId} {queryId : QueryId}
      {timestamps : List ℕ} {reward : ℕ} {a : AutoPay AccountId} {s₁ s' : State AccountId}
      (hsigner : reporter ∉ palletAccounts cfg)
      (h : OnetimeClaimed cfg s reporter queryId timestamps reward a s₁ s') :
      Effect s (.extrinsic send (.signed reporter) (.claimOnetimeTip queryId timestamps)) s'
  | feedClaimed {send : Sender} {reporter : AccountId} {feedId : FeedId} {queryId : QueryId}
      {timestamps : List ℕ} {feed : Feed} {reward : ℕ} {a : AutoPay AccountId}
      {s₁ s' : State AccountId} (hsigner : reporter ∉ palletAccounts cfg)
      (h : FeedClaimed cfg s reporter feedId queryId timestamps feed reward a s₁ s') :
      Effect s (.extrinsic send (.signed reporter) (.claimTip feedId queryId timestamps)) s'
  | rewardsAdded {send : Sender} {source : AccountId} {amount : ℕ} {s₁ s' : State AccountId}
      (hsigner : source ∉ palletAccounts cfg)
      (h : doAddStakingRewards cfg s source amount = .ok s₁)
      (hevents : s' = { s₁ with events := s'.events }) (hquiet : s'.voteEvents = s₁.voteEvents) :
      Effect s (.extrinsic send (.signed source) (.addStakingRewards amount)) s'
  | submitted {send : Sender} {reporter : AccountId} {queryId : QueryId} {value : Value} {nonce : ℕ}
      {queryData : QueryData} {staker : StakeInfo} {event : Event AccountId} {s' : State AccountId}
      (hevent : event.isVoteEvent = false)
      (h : Submission s reporter queryId value s' staker event) :
      Effect s (.extrinsic send (.signed reporter) (.submitValue queryId value nonce queryData)) s'
  | disputed {send : Sender} {initiator : AccountId} {queryId : QueryId} {timestamp : ℕ}
      {beneficiary : Option Address} {voteRound fee : ℕ} {dispute : Dispute AccountId}
      {s₁ s' : State AccountId}
      (hsigner : initiator ∉ palletAccounts cfg)
      (hround : voteRound = s.governance.rounds (disputeIdOf cfg queryId timestamp) + 1)
      (hmax : voteRound ≤ maxVoteRounds)
      (hprepared : RoundPrepared cfg s queryId timestamp (disputeIdOf cfg queryId timestamp)
        voteRound dispute s₁)
      (hopened : RoundOpened cfg s₁ (disputeIdOf cfg queryId timestamp) voteRound fee initiator
        [.newDispute (disputeIdOf cfg queryId timestamp) queryId timestamp dispute.disputedReporter,
          .newDisputeSent cfg.governance.paraId cfg.governance.address] s') :
      Effect s (.extrinsic send (.signed initiator) (.beginDispute queryId timestamp beneficiary)) s'
  | tallied {send : Sender} {disputeId : DisputeId} {result : VoteResult} {vote : Vote AccountId}
      {dispute : Dispute AccountId} {s' : State AccountId}
      (h : VoteTallied s disputeId result vote dispute s') :
      Effect s (.extrinsic send .governance (.reportVoteTallied disputeId result)) s'
  | executed {send : Sender} {disputeId : DisputeId} {vote : Vote AccountId} {result : VoteResult}
      {dispute : Dispute AccountId} {s' : State AccountId}
      (h : VoteExecuted cfg s disputeId vote result dispute s') :
      Effect s (.extrinsic send .governance (.reportVoteExecuted disputeId)) s'
  | reported {send : Sender} {call : Call AccountId} {reporter : AccountId} {info info' : StakeInfo}
      {event : Event AccountId} {s₁ s' : State AccountId} (hevent : event.isVoteEvent = false)
      (haccepted : dispatch cfg send s .staking call = .ok s') (hcall : call.staker = some reporter)
      (h : Reported cfg s reporter (call.settledBalance info) info s₁ info' event s') :
      Effect s (.extrinsic send .staking call) s'
  | withdrawn {send : Sender} {reporter : AccountId} {amount : ℕ} {info : StakeInfo}
      {s' : State AccountId} (h : Withdrawn s reporter amount info s') :
      Effect s (.extrinsic send .staking (.reportStakeWithdrawn reporter amount)) s'

/-! ## Every input has one of these effects -/

section Inversion

variable {cfg} {s s' : State AccountId} {send : Sender} {origin : Origin AccountId}

omit [DecidableEq AccountId] in
theorem ensureSigned_eq_ok {account : AccountId} :
    ensureSigned origin = .ok account ↔ origin = .signed account := by
  cases origin <;> simp [ensureSigned]

theorem minor_fundAccounts {accounts : List AccountId}
    (haccounts : ∀ account ∈ accounts, account ∈ [cfg.disputeFees, cfg.stakingRewards, cfg.tips])
    {ledger ledger' : Ledger AccountId} (h : accounts.foldlM (fundAccount cfg) ledger = .ok ledger') :
    Relation.ReflTransGen (Minor cfg) { s with ledger := ledger } { s with ledger := ledger' } := by
  induction accounts generalizing ledger with
  | nil =>
    rw [List.foldlM_nil, pure_eq_ok] at h
    rw [h]
  | cons account rest ih =>
    rw [List.foldlM_cons, bind_eq_ok] at h
    obtain ⟨mid, hfund, hrest⟩ := h
    have hlater := ih (fun other hother ↦ haccounts other (List.mem_cons_of_mem _ hother)) hrest
    unfold fundAccount at hfund
    split at hfund
    · have hfunded : Minor cfg { s with ledger := ledger } { s with ledger := mid } :=
        .funded (haccounts account List.mem_cons_self) hfund
      exact Relation.ReflTransGen.head hfunded hlater
    · cases hfund
      exact hlater

theorem minor_register {gasLimit : Option ℕ} (h : register cfg send s gasLimit = .ok s') :
    Relation.ReflTransGen (Minor cfg) s s' := by
  simp only [register, bind_eq_ok] at h
  obtain ⟨ledger, hfunded, location, -, interior, -, message, -, hsent⟩ := h
  exact Relation.ReflTransGen.tail (minor_fundAccounts (fun _ hmem ↦ hmem) hfunded)
    (.registered rfl hsent)

theorem minor_voteOnMultipleDisputes {voter : AccountId} {votes : List (DisputeId × Option Bool)}
    (h : voteOnMultipleDisputes cfg s voter votes = .ok s') :
    Relation.ReflTransGen (Minor cfg) s s' := by
  refine foldlM_invariant (Relation.ReflTransGen (Minor cfg) s) ?_ votes s s'
    Relation.ReflTransGen.refl h
  intro mid vote mid' hmid hvote
  obtain ⟨_, hcast⟩ := doVote_cast hvote
  exact hmid.tail (.voted hcast)

omit [DecidableEq AccountId] in
/-- Attempts to send pending votes of distinct disputes: an attempt leaves the later ones pending, so
that what holds of sending one pending vote holds step by step of the attempts. -/
theorem trySendVotes_steps {rel : State AccountId → State AccountId → Prop} (send : Sender)
    (hsent : ∀ {s s' : State AccountId} {disputeId : DisputeId} {pending : ℕ × ℕ}
      {vote : Vote AccountId} {message : Message},
      s.governance.pendingVotes.lookup disputeId = some pending →
        VoteSent cfg send s disputeId pending.1 vote message s' → rel s s')
    (entries : List (DisputeId × ℕ × ℕ)) (hnodup : (entries.map Prod.fst).Nodup)
    (s : State AccountId)
    (hpending : ∀ entry ∈ entries, s.governance.pendingVotes.lookup entry.1 = some entry.2) :
    Relation.ReflTransGen rel s (entries.foldl (trySendVote cfg send) s) := by
  induction entries generalizing s with
  | nil => exact Relation.ReflTransGen.refl
  | cons entry rest ih =>
    rw [List.map_cons, List.nodup_cons] at hnodup
    rw [List.foldl_cons]
    have hentry := hpending entry List.mem_cons_self
    have hrest : ∀ other ∈ rest, s.governance.pendingVotes.lookup other.1 = some other.2 :=
      fun other hother ↦ hpending other (List.mem_cons_of_mem _ hother)
    rcases trySendVote_cases cfg send s entry with ⟨vote, message, hvote⟩ | heq
    · refine Relation.ReflTransGen.head (hsent hentry hvote) (ih hnodup.2 _ fun other hother ↦ ?_)
      rw [hvote.pendingVotes_lookup, if_neg, hrest other hother]
      rintro heq
      exact hnodup.1 (heq ▸ List.mem_map_of_mem hother)
    · rw [heq]
      exact ih hnodup.2 s hrest

omit [DecidableEq AccountId] in
theorem doSendVotes_steps {rel : State AccountId → State AccountId → Prop} (send : Sender)
    (hsent : ∀ {s s' : State AccountId} {disputeId : DisputeId} {pending : ℕ × ℕ}
      {vote : Vote AccountId} {message : Message},
      s.governance.pendingVotes.lookup disputeId = some pending →
        VoteSent cfg send s disputeId pending.1 vote message s' → rel s s')
    (s : State AccountId) (timestamp max : ℕ) :
    Relation.ReflTransGen rel s (doSendVotes cfg send s timestamp max) := by
  refine trySendVotes_steps send hsent _ ?_ s fun entry hentry ↦ ?_
  · exact nodup_dueVotes.sublist ((List.take_sublist _ _).map _)
  · exact (mem_dueVotes.mp (List.mem_of_mem_take hentry)).1

theorem minor_doSendVotes (send : Sender) (s : State AccountId) (timestamp max : ℕ) :
    Relation.ReflTransGen (Minor cfg) s (doSendVotes cfg send s timestamp max) :=
  doSendVotes_steps send .sent s timestamp max

theorem minor_updatePrices (s : State AccountId) :
    Relation.ReflTransGen (Minor cfg) s (updatePrices cfg s) := by
  unfold updatePrices
  split
  · split
    · next updated hupdated =>
      obtain ⟨hframe, hquiet⟩ := updateStakeAmount_frame hupdated
      refine Relation.ReflTransGen.single (.priced ?_ ?_)
      · rw [hframe]
      · exact hquiet
    · exact Relation.ReflTransGen.refl
  · exact Relation.ReflTransGen.refl

/-- Whether a call is a report of the staking controller contract. -/
def Call.reportsStake : Call AccountId → Bool
  | .reportStakeDeposited .. => true
  | .reportStakingWithdrawRequest .. => true
  | .reportStakeWithdrawn .. => true
  | .reportSlash .. => true
  | _ => false

/-- Whether an event is one of such a report. -/
def Event.reportsStake : Event AccountId → Bool
  | .newStakerReported .. => true
  | .stakeWithdrawRequestReported .. => true
  | .stakeWithdrawnReported .. => true
  | .slashReported .. => true
  | _ => false

/-- A report of the staking controller contract touches the ledger and the staking items only. -/
theorem reportsStake_frame {call : Call AccountId} (hcall : call.reportsStake = true)
    (h : dispatch cfg send s origin call = .ok s') :
    ∃ event, event.reportsStake = true ∧ s' = { s with
      ledger := s'.ledger
      staking := s'.staking
      events := s.events ++ [event] } := by
  cases call with
  | reportStakeDeposited reporter amount address =>
    obtain ⟨_, -, h⟩ := bind_eq_ok.mp h
    obtain ⟨_, _, _, hreported⟩ := reportStakeDeposited_reported h
    exact ⟨_, rfl, hreported.frame⟩
  | reportStakingWithdrawRequest reporter amount address =>
    obtain ⟨_, -, h⟩ := bind_eq_ok.mp h
    obtain ⟨_, _, _, hreported⟩ := reportStakingWithdrawRequest_reported h
    exact ⟨_, rfl, hreported.frame⟩
  | reportStakeWithdrawn reporter amount =>
    obtain ⟨_, -, h⟩ := bind_eq_ok.mp h
    obtain ⟨_, hwithdrawn⟩ := reportStakeWithdrawn_withdrawn h
    refine ⟨.stakeWithdrawnReported reporter, rfl, ?_⟩
    rw [hwithdrawn.state_eq]
    rfl
  | reportSlash reporter amount =>
    obtain ⟨_, -, h⟩ := bind_eq_ok.mp h
    obtain ⟨_, _, _, hreported⟩ := reportSlash_reported h
    exact ⟨_, rfl, hreported.frame⟩
  | _ => cases hcall

/-- A call that succeeds has one of the effects. -/
theorem dispatch_effect {call : Call AccountId}
    (hsigner : ∀ account ∈ palletAccounts cfg, origin ≠ .signed account)
    (h : dispatch cfg send s origin call = .ok s') :
    Effect cfg s (.extrinsic send origin call) s' := by
  have hsigned : ∀ account, origin = .signed account → account ∉ palletAccounts cfg :=
    fun account horigin hmem ↦ hsigner account hmem horigin
  cases call with
  | register gasLimit =>
    obtain ⟨_, -, h⟩ := bind_eq_ok.mp h
    exact .minor rfl (minor_register h)
  | claimOnetimeTip queryId timestamps =>
    obtain ⟨reporter, horigin, h⟩ := bind_eq_ok.mp h
    rw [ensureSigned_eq_ok] at horigin
    obtain ⟨_, _, _, hclaimed⟩ := claimOnetimeTip_claimed h
    rw [horigin]
    exact .onetimeClaimed (hsigned reporter horigin) hclaimed
  | claimTip feedId queryId timestamps =>
    obtain ⟨reporter, horigin, h⟩ := bind_eq_ok.mp h
    rw [ensureSigned_eq_ok] at horigin
    obtain ⟨_, _, _, _, hclaimed⟩ := claimTip_claimed h
    rw [horigin]
    exact .feedClaimed (hsigned reporter horigin) hclaimed
  | fundFeed feedId queryId amount =>
    obtain ⟨feedFunder, horigin, h⟩ := bind_eq_ok.mp h
    rw [ensureSigned_eq_ok] at horigin
    obtain ⟨_, hfunded⟩ := doFundFeed_funded h
    rw [horigin]
    exact .feedFunded (hsigned feedFunder horigin) hfunded
  | setupDataFeed queryId reward startTime interval window priceThreshold rewardIncreasePerSecond
      queryData amount =>
    obtain ⟨feedCreator, horigin, h⟩ := bind_eq_ok.mp h
    rw [ensureSigned_eq_ok] at horigin
    obtain ⟨s₁, -, hsetup, hrest⟩ := setupDataFeed_eq_ok h
    rw [horigin]
    rcases hrest with ⟨-, rfl⟩ | hfund
    · exact .feedSetUp rfl hsetup
    · obtain ⟨_, hfunded⟩ := doFundFeed_funded hfund
      exact .feedSetUpFunded (hsigned feedCreator horigin) rfl hsetup hfunded
  | tip queryId amount queryData =>
    obtain ⟨tipper, horigin, h⟩ := bind_eq_ok.mp h
    rw [ensureSigned_eq_ok] at horigin
    obtain ⟨_, htipped⟩ := tip_tipped h
    rw [horigin]
    exact .tipped (hsigned tipper horigin) htipped
  | addStakingRewards amount =>
    obtain ⟨source, horigin, h⟩ := bind_eq_ok.mp h
    rw [ensureSigned_eq_ok] at horigin
    obtain ⟨_, hadded, hevents, hquiet⟩ := addStakingRewards_eq_ok h
    rw [horigin]
    exact .rewardsAdded (hsigned source horigin) hadded hevents hquiet
  | submitValue queryId value nonce queryData =>
    obtain ⟨reporter, horigin, h⟩ := bind_eq_ok.mp h
    rw [ensureSigned_eq_ok] at horigin
    obtain ⟨_, hsubmission⟩ := submitValue_submission h
    rw [horigin]
    exact .submitted rfl hsubmission
  | updateStakeAmount =>
    obtain ⟨_, -, h⟩ := bind_eq_ok.mp h
    obtain ⟨hframe, hquiet⟩ := updateStakeAmount_frame h
    exact .minor rfl (Relation.ReflTransGen.single (.priced hframe hquiet))
  | beginDispute queryId timestamp beneficiary =>
    obtain ⟨initiator, horigin, h⟩ := bind_eq_ok.mp h
    rw [ensureSigned_eq_ok] at horigin
    obtain ⟨_, _, _, _, hround, hmax, hprepared, hopened⟩ := beginDispute_eq_ok h
    rw [horigin]
    exact .disputed (hsigned initiator horigin) hround hmax hprepared hopened
  | vote disputeId supports =>
    obtain ⟨voter, -, h⟩ := bind_eq_ok.mp h
    obtain ⟨_, hcast⟩ := doVote_cast h
    exact .minor rfl (Relation.ReflTransGen.single (.voted hcast))
  | voteOnMultipleDisputes votes =>
    obtain ⟨voter, -, h⟩ := bind_eq_ok.mp h
    exact .minor rfl (minor_voteOnMultipleDisputes h)
  | sendVotes maxVotes =>
    obtain ⟨_, -, h⟩ := bind_eq_ok.mp h
    cases h
    exact .minor rfl (minor_doSendVotes send s s.now maxVotes)
  | reportStakeDeposited reporter amount address =>
    have haccepted := h
    obtain ⟨_, horigin, h⟩ := bind_eq_ok.mp h
    rw [ensureOrigin, guard_eq_ok] at horigin
    rw [horigin] at haccepted ⊢
    obtain ⟨_, _, _, hreported⟩ := reportStakeDeposited_reported h
    exact .reported rfl haccepted rfl hreported
  | reportStakingWithdrawRequest reporter amount address =>
    have haccepted := h
    obtain ⟨_, horigin, h⟩ := bind_eq_ok.mp h
    rw [ensureOrigin, guard_eq_ok] at horigin
    rw [horigin] at haccepted ⊢
    obtain ⟨_, _, _, hreported⟩ := reportStakingWithdrawRequest_reported h
    exact .reported rfl haccepted rfl hreported
  | reportStakeWithdrawn reporter amount =>
    obtain ⟨_, horigin, h⟩ := bind_eq_ok.mp h
    rw [ensureOrigin, guard_eq_ok] at horigin
    rw [horigin]
    obtain ⟨_, hwithdrawn⟩ := reportStakeWithdrawn_withdrawn h
    exact .withdrawn hwithdrawn
  | reportSlash reporter amount =>
    have haccepted := h
    obtain ⟨_, horigin, h⟩ := bind_eq_ok.mp h
    rw [ensureOrigin, guard_eq_ok] at horigin
    rw [horigin] at haccepted ⊢
    obtain ⟨_, _, _, hreported⟩ := reportSlash_reported h
    exact .reported rfl haccepted rfl hreported
  | reportVoteTallied disputeId result =>
    obtain ⟨_, horigin, h⟩ := bind_eq_ok.mp h
    rw [ensureOrigin, guard_eq_ok] at horigin
    rw [horigin]
    obtain ⟨_, _, htallied⟩ := tallyVotes_tallied h
    exact .tallied htallied
  | reportVoteExecuted disputeId =>
    obtain ⟨_, horigin, h⟩ := bind_eq_ok.mp h
    rw [ensureOrigin, guard_eq_ok] at horigin
    rw [horigin]
    obtain ⟨_, _, _, hexecuted⟩ := executeVote_executed h
    exact .executed hexecuted

/-- Every admissible input has one of the effects. -/
theorem step_effect {input : Input AccountId} (h : Admissible cfg s input) :
    Effect cfg s input (step cfg input s) := by
  cases input with
  | newBlock blockNumber now => exact .newBlock h
  | onInitialize send =>
    exact .minor rfl ((minor_updatePrices s).trans (minor_doSendVotes send _ _ _))
  | extrinsic send origin call =>
    change Effect cfg s _ (applyCall cfg send s origin call)
    unfold applyCall
    split
    · next s' hs' => exact dispatch_effect h hs'
    · exact .refused
  | external account balance => exact .external h.1 h.2

/-- What holds at genesis and is preserved by every effect of an admitted input holds in every state
reached. -/
theorem ReachableBy.invariant {admits : State AccountId → Input AccountId → Prop}
    (inv : State AccountId → Prop)
    (hadmits : ∀ s input, admits s input → Admissible cfg s input)
    (hgenesis : ∀ s, IsGenesis cfg s → inv s)
    (heffect : ∀ s input s', inv s → admits s input → Effect cfg s input s' → inv s')
    (h : ReachableBy cfg admits s) : inv s := by
  obtain ⟨s₀, hs₀, hreaches⟩ := h
  exact hreaches.invariant
    (fun s input hinv hadmitted ↦
      heffect s input _ hinv hadmitted (step_effect (hadmits s input hadmitted)))
    (hgenesis s₀ hs₀)

theorem Reachable.invariant (inv : State AccountId → Prop)
    (hgenesis : ∀ s, IsGenesis cfg s → inv s)
    (heffect : ∀ s input s', inv s → Effect cfg s input s' → inv s')
    (h : Reachable cfg s) : inv s :=
  ReachableBy.invariant inv (fun _ _ hadmitted ↦ hadmitted) hgenesis
    (fun s input s' hinv _ ↦ heffect s input s' hinv) h

end Inversion

/-! ## Recorded runs -/

section Recorded

variable {cfg} {γ : Type} {record : State AccountId → Input AccountId → γ → γ} {start g : γ}
  {admits : State AccountId → Input AccountId → Prop} {s : State AccountId}

/-- A state of the runs from empty storage whose inputs are admitted, with what was recorded beside
it. -/
def ReachedWith (cfg : Config AccountId) (record : State AccountId → Input AccountId → γ → γ)
    (start : γ) (admits : State AccountId → Input AccountId → Prop) (s : State AccountId) (g : γ) :
    Prop :=
  ∃ s₀, IsGenesis cfg s₀ ∧
    Reaches (recording (step cfg) record) (fun c input ↦ admits c.1 input) (s₀, start) (s, g)

theorem ReachedWith.reachableBy (h : ReachedWith cfg record start admits s g) :
    ReachableBy cfg admits s := by
  obtain ⟨s₀, hgenesis, hreaches⟩ := h
  exact ⟨s₀, hgenesis, hreaches.forget⟩

/-- What every admitted input preserves, with what it adds to the record, holds throughout. -/
theorem ReachedWith.invariant (inv : State AccountId → γ → Prop)
    (h : ReachedWith cfg record start admits s g)
    (hgenesis : ∀ s, IsGenesis cfg s → inv s start)
    (hstep : ∀ s g input, inv s g → admits s input → inv (step cfg input s) (record s input g)) :
    inv s g := by
  obtain ⟨s₀, hfirst, hreaches⟩ := h
  have hpreserved : ∀ (c : State AccountId × γ) (input : Input AccountId),
      Function.uncurry inv c → admits c.1 input →
        Function.uncurry inv (recording (step cfg) record input c) :=
    fun c input ↦ hstep c.1 c.2 input
  exact Reaches.invariant hpreserved hreaches (hgenesis s₀ hfirst)

end Recorded

end TellorPallet
