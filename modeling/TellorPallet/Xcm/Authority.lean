import TellorPallet.Governance.Queue
import TellorPallet.Staking.Collateral
import TellorPallet.Xcm.Programs

/-!
# Who moves stakes and decides disputes

A call that an XCM message transacts runs with the origin to which the location of its sender converts:
that of the staking or of the governance controller contract, and nothing for any other location.
Without a message from the one contract no stake moves, and without a message from the other no dispute
is decided, whatever the accounts of the chain, its hooks and other senders do.
-/

namespace TellorPallet

open Outcome Transition

variable {AccountId : Type} [DecidableEq AccountId]

/-- `ContractLocation`, with the network that outgoing messages have no use for. -/
structure Controller extends ContractLocation where
  network : Option NetworkId
deriving DecidableEq

/-- The location of a contract on a sibling chain. -/
def Controller.toMultiLocation (controller : Controller) : MultiLocation :=
  ⟨1, [.parachain controller.paraId, .accountKey20 controller.network controller.address]⟩

/-- `LocationToOrigin::convert_origin`. -/
def locationToOrigin (controller : Controller) (palletOrigin : Origin AccountId)
    (origin : MultiLocation) (kind : OriginKind) : Except MultiLocation (Origin AccountId) :=
  match kind with
  | .sovereignAccount =>
    if origin = controller.toMultiLocation then .ok palletOrigin else .error origin
  | _ => .error origin

/-- The origin converters of a runtime, each with its contract and pallet origin. They are tried in turn
until one converts, as the XCM executor is documented to do with a tuple of converters. -/
def convertOrigin (origin : MultiLocation) (kind : OriginKind) :
    List (Controller × Origin AccountId) → Except MultiLocation (Origin AccountId)
  | [] => .error origin
  | (controller, palletOrigin) :: rest =>
    match locationToOrigin controller palletOrigin origin kind with
    | .ok converted => .ok converted
    | .error origin => convertOrigin origin kind rest

/-- What happens to the chain: an input of its own, or a call that an XCM message transacts. -/
inductive ChainInput (AccountId : Type) where
  | own (input : Input AccountId)
  | inbound (send : Sender) (location : MultiLocation) (kind : OriginKind) (call : Call AccountId)

/-- The input of the pallet, if there is one: a message from elsewhere has no origin to run with. -/
def ChainInput.toInput (converters : List (Controller × Origin AccountId)) :
    ChainInput AccountId → Option (Input AccountId)
  | .own input => some input
  | .inbound send location kind call =>
    (convertOrigin location kind converters).toOption.map fun origin ↦ .extrinsic send origin call

/-- One input of the chain. -/
def chainStep (cfg : Config AccountId) (converters : List (Controller × Origin AccountId))
    (input : ChainInput AccountId) (s : State AccountId) : State AccountId :=
  (input.toInput converters).elim s fun input ↦ step cfg input s

/-- The inputs of a chain: its own do not run with the origin of a contract. -/
def ChainAdmissible (cfg : Config AccountId) (converters : List (Controller × Origin AccountId))
    (s : State AccountId) (input : ChainInput AccountId) : Prop :=
  (∀ admitted ∈ input.toInput converters, Admissible cfg s admitted) ∧
    match input with
    | .own (.extrinsic _ origin _) => origin ≠ .staking ∧ origin ≠ .governance
    | _ => True

/-- No message comes from a contract with a given origin. -/
def Unheard (converters : List (Controller × Origin AccountId)) (origin : Origin AccountId) :
    ChainInput AccountId → Prop
  | .own _ => True
  | .inbound _ location _ _ => ∀ converter ∈ converters,
    converter.2 = origin → location ≠ converter.1.toMultiLocation

instance (cfg : Config AccountId) (converters : List (Controller × Origin AccountId))
    (s : State AccountId) (input : ChainInput AccountId) :
    Decidable (ChainAdmissible cfg converters s input) := by
  unfold ChainAdmissible
  have hown : Decidable (match input with
      | .own (.extrinsic _ origin _) => origin ≠ .staking ∧ origin ≠ .governance
      | _ => True) := by
    split <;> infer_instance
  infer_instance

instance (converters : List (Controller × Origin AccountId)) (origin : Origin AccountId)
    (input : ChainInput AccountId) : Decidable (Unheard converters origin input) := by
  unfold Unheard
  split <;> infer_instance

/-- The stake of a staker: what is staked, what is locked, and since when. -/
def Staking.stake (st : Staking AccountId) (staker : AccountId) : Option (ℕ × ℕ × ℕ) :=
  (st.stakerDetails.lookup staker).map fun info ↦
    (info.stakedBalance, info.lockedBalance, info.startDate)

/-- What is decided of a vote: when it was tallied, with which result, and whether it was executed. -/
def Governance.verdict (g : Governance AccountId) (disputeId : DisputeId) (voteRound : ℕ) :
    ℕ × Option VoteResult × Bool :=
  (g.voteInfo.lookup (disputeId, voteRound)).elim (0, none, false) fun vote ↦
    (vote.tallyDate, vote.result, vote.executed)

/-! ## Converted origins -/

section Conversion

variable {converters : List (Controller × Origin AccountId)}

theorem Controller.toMultiLocation_inj {controller controller' : Controller}
    (h : controller.toMultiLocation = controller'.toMultiLocation) : controller = controller' := by
  obtain ⟨⟨paraId, address⟩, network⟩ := controller
  obtain ⟨⟨paraId', address'⟩, network'⟩ := controller'
  simp only [Controller.toMultiLocation, MultiLocation.mk.injEq, List.cons.injEq,
    Junction.parachain.injEq, Junction.accountKey20.injEq, and_true, true_and] at h
  obtain ⟨rfl, rfl, rfl⟩ := h
  rfl

omit [DecidableEq AccountId] in
theorem locationToOrigin_eq_ok {controller : Controller} {palletOrigin converted : Origin AccountId}
    {location : MultiLocation} {kind : OriginKind} :
    locationToOrigin controller palletOrigin location kind = .ok converted ↔
      kind = .sovereignAccount ∧ location = controller.toMultiLocation ∧ palletOrigin = converted := by
  unfold locationToOrigin
  cases kind with
  | sovereignAccount =>
    dsimp only
    split
    · next heq => simp [heq]
    · next hne => simp [hne]
  | _ => simp

omit [DecidableEq AccountId] in
/-- An origin comes from a contract that has it. -/
theorem exists_of_convertOrigin {location : MultiLocation} {kind : OriginKind}
    {origin : Origin AccountId} (h : convertOrigin location kind converters = .ok origin) :
    kind = .sovereignAccount ∧
      ∃ controller, (controller, origin) ∈ converters ∧ location = controller.toMultiLocation := by
  induction converters with
  | nil => cases h
  | cons converter rest ih =>
    obtain ⟨controller, palletOrigin⟩ := converter
    unfold convertOrigin at h
    split at h
    · next converted hconverted =>
      cases h
      obtain ⟨hkind, hlocation, rfl⟩ := locationToOrigin_eq_ok.mp hconverted
      exact ⟨hkind, controller, List.mem_cons_self, hlocation⟩
    · next other hother =>
      have hsame : other = location := by
        unfold locationToOrigin at hother
        split at hother
        · split at hother <;> cases hother
          rfl
        · cases hother
          rfl
      rw [hsame] at h
      obtain ⟨hkind, found, hmem, hlocation⟩ := ih h
      exact ⟨hkind, found, List.mem_cons_of_mem _ hmem, hlocation⟩

omit [DecidableEq AccountId] in
/-- Among different contracts the order of the converters does not matter. -/
theorem convertOrigin_eq_ok (hdistinct : (converters.map Prod.fst).Nodup) {location : MultiLocation}
    {kind : OriginKind} {origin : Origin AccountId} :
    convertOrigin location kind converters = .ok origin ↔ kind = .sovereignAccount ∧
      ∃ controller, (controller, origin) ∈ converters ∧ location = controller.toMultiLocation := by
  refine ⟨exists_of_convertOrigin, ?_⟩
  rintro ⟨rfl, controller, hmem, rfl⟩
  induction converters with
  | nil => cases hmem
  | cons converter rest ih =>
    obtain ⟨first, palletOrigin⟩ := converter
    rw [List.map_cons, List.nodup_cons] at hdistinct
    unfold convertOrigin locationToOrigin
    dsimp only
    rcases List.mem_cons.mp hmem with heq | hlater
    · cases heq
      rw [if_pos rfl]
    · have hne : controller.toMultiLocation ≠ first.toMultiLocation := by
        intro heq
        rw [← Controller.toMultiLocation_inj heq] at hdistinct
        exact hdistinct.1 (List.mem_map.mpr ⟨_, hlater, rfl⟩)
      rw [if_neg hne]
      exact ih hdistinct.2 hlater

omit [DecidableEq AccountId] in
/-- An unheard contract's origin is none that a call runs with. -/
theorem Unheard.origin_ne {cfg : Config AccountId} {s : State AccountId} {input : ChainInput AccountId}
    {origin : Origin AccountId} (h : Unheard converters origin input)
    (horigin : origin = .staking ∨ origin = .governance)
    (hadmits : ChainAdmissible cfg converters s input) (send : Sender) (call : Call AccountId) :
    input.toInput converters ≠ some (.extrinsic send origin call) := by
  intro heq
  cases input with
  | own own =>
    cases heq
    rcases horigin with rfl | rfl
    · exact hadmits.2.1 rfl
    · exact hadmits.2.2 rfl
  | inbound send' location kind call' =>
    obtain ⟨converted, hconverted, hinput⟩ := Option.map_eq_some_iff.mp heq
    cases hinput
    obtain ⟨-, controller, hmem, hlocation⟩ := exists_of_convertOrigin (toOption_eq_some.mp hconverted)
    exact h _ hmem rfl hlocation

end Conversion

/-! ## Steps without a contract's origin -/

section Steps

variable {cfg : Config AccountId} {s s' : State AccountId} {input : Input AccountId}

theorem StakingStep.stake_eq (h : StakingStep cfg s input s')
    (hinput : ∀ send call, input ≠ .extrinsic send .staking call) (staker : AccountId) :
    s'.staking.stake staker = s.staking.stake staker := by
  cases h with
  | unchanged hstaking hbalance => rw [hstaking]
  | rewarded hbalance hrewards hstaking hrate =>
    rw [hstaking, Staking.updateRewards_frame hrewards]
    rfl
  | @submitted _ _ reporter queryId found hfound hledger hstaking =>
    have hstored : s'.staking.stakerDetails =
        s.staking.stakerDetails.insert reporter (found.reported s.now) :=
      congrArg Staking.stakerDetails hstaking
    rw [Staking.stake, Staking.stake, hstored, FiniteMap.lookup_insert_ite]
    split
    · next heq =>
      rw [heq, hfound]
      rfl
    · rfl
  | reported haccepted hcall h => exact absurd rfl (hinput _ _)
  | withdrawn h => exact absurd rfl (hinput _ _)

omit [DecidableEq AccountId] in
theorem VoteUpdated.verdict_eq {d : DisputeId} {r : ℕ} {vote vote' : Vote AccountId}
    (h : VoteUpdated s s' d r vote vote') (htally : vote'.tallyDate = vote.tallyDate)
    (hresult : vote'.result = vote.result) (hexecuted : vote'.executed = vote.executed)
    (disputeId : DisputeId) (voteRound : ℕ) :
    s'.governance.verdict disputeId voteRound = s.governance.verdict disputeId voteRound := by
  rw [Governance.verdict, Governance.verdict, h.lookup]
  split
  · next heq =>
    rw [heq.1, heq.2, h.vote_eq, Option.elim_some, Option.elim_some, htally, hresult, hexecuted]
  · rfl

theorem minor_verdict_eq (h : Relation.ReflTransGen (Minor cfg) s s') (disputeId : DisputeId)
    (voteRound : ℕ) :
    s'.governance.verdict disputeId voteRound = s.governance.verdict disputeId voteRound := by
  induction h with
  | refl => rfl
  | tail _ hlast ih =>
    rw [← ih]
    cases hlast with
    | funded haccount h => rfl
    | registered hevent h =>
      obtain ⟨-, rfl⟩ := State.sendXcm_eq_ok.mp h
      rfl
    | priced h hquiet => rw [h]
    | voted h => exact h.voteUpdated.verdict_eq rfl rfl rfl disputeId voteRound
    | sent hpending h => exact h.voteUpdated.verdict_eq rfl rfl rfl disputeId voteRound

/-- Nothing is decided yet of a round that is opened. -/
theorem Opened.verdict_eq {d : DisputeId} {r fee : ℕ} {initiator : AccountId}
    (h : Opened cfg s d r fee initiator s') (hindexed : RoundsIndexed s.governance d)
    (disputeId : DisputeId) (voteRound : ℕ) :
    s'.governance.verdict disputeId voteRound = s.governance.verdict disputeId voteRound := by
  rw [Governance.verdict, Governance.verdict, h.lookup]
  split
  · next heq =>
    rw [heq.1, heq.2, h.round_eq, hindexed.not_defined]
    rfl
  · rfl

theorem Effect.verdict_eq (h : Effect cfg s input s')
    (hindexed : ∀ disputeId, RoundsIndexed s.governance disputeId)
    (hinput : ∀ send call, input ≠ .extrinsic send .governance call) (disputeId : DisputeId)
    (voteRound : ℕ) :
    s'.governance.verdict disputeId voteRound = s.governance.verdict disputeId voteRound := by
  have hquiet : s'.governance = s.governance →
      s'.governance.verdict disputeId voteRound = s.governance.verdict disputeId voteRound := by
    intro heq
    rw [heq]
  cases h with
  | refused => rfl
  | minor _ h => exact minor_verdict_eq h disputeId voteRound
  | newBlock h => rfl
  | external hbound hpallet => rfl
  | tipped hsigner h => exact hquiet (congrArg State.governance h.frame :)
  | feedSetUp hbalance h => exact hquiet (congrArg State.governance h.frame :)
  | feedSetUpFunded hsigner hbalance h hfunded =>
    exact hquiet ((congrArg State.governance hfunded.frame :).trans
      (congrArg State.governance h.frame :))
  | feedFunded hsigner h => exact hquiet (congrArg State.governance h.frame :)
  | onetimeClaimed hsigner h => exact hquiet (congrArg State.governance h.frame :)
  | feedClaimed hsigner h => exact hquiet (congrArg State.governance h.frame :)
  | rewardsAdded hsigner h hevents =>
    exact hquiet ((congrArg State.governance hevents :).trans
      (congrArg State.governance (doAddStakingRewards_frame h) :))
  | submitted hevent h => exact hquiet (congrArg State.governance h.state_eq :)
  | disputed hsigner hround hmax hprepared hopened =>
    have hmem : cfg.disputeFees ∈ palletAccounts cfg := by simp [palletAccounts]
    have hopen := opened_of_prepared (ne_of_mem_of_not_mem hmem hsigner).symm hround hmax hprepared
      hopened (by simp [Event.isVoteEvent])
    exact hopen.verdict_eq (hindexed _) disputeId voteRound
  | tallied h => exact absurd rfl (hinput _ _)
  | executed h => exact absurd rfl (hinput _ _)
  | reported hevent haccepted hcall h => exact hquiet (congrArg State.governance h.frame :)
  | withdrawn h => exact hquiet (congrArg State.governance h.state_eq :)

end Steps

/-! ## Runs of the chain -/

section Runs

variable {cfg : Config AccountId} {converters : List (Controller × Origin AccountId)}
  {s : State AccountId}

theorem chainStep_reachable {input : ChainInput AccountId} (h : Reachable cfg s)
    (hadmits : ChainAdmissible cfg converters s input) :
    Reachable cfg (chainStep cfg converters input s) := by
  unfold chainStep
  cases hinput : input.toInput converters with
  | none => exact h
  | some admitted => exact ReachableBy.step cfg h (hadmits.1 admitted hinput)

theorem chainStep_stake_eq {input : ChainInput AccountId}
    (hadmits : ChainAdmissible cfg converters s input) (hunheard : Unheard converters .staking input)
    (staker : AccountId) :
    (chainStep cfg converters input s).staking.stake staker = s.staking.stake staker := by
  have hne := hunheard.origin_ne (Or.inl rfl) hadmits
  unfold chainStep
  cases hinput : input.toInput converters with
  | none => rfl
  | some admitted =>
    refine (step_effect (hadmits.1 admitted hinput)).stakingStep.stake_eq (fun send call heq ↦ ?_) staker
    exact hne send call (heq ▸ hinput)

theorem chainStep_verdict_eq {input : ChainInput AccountId} (h : Reachable cfg s)
    (hadmits : ChainAdmissible cfg converters s input)
    (hunheard : Unheard converters .governance input) (disputeId : DisputeId) (voteRound : ℕ) :
    (chainStep cfg converters input s).governance.verdict disputeId voteRound =
      s.governance.verdict disputeId voteRound := by
  have hne := hunheard.origin_ne (Or.inr rfl) hadmits
  unfold chainStep
  cases hinput : input.toInput converters with
  | none => rfl
  | some admitted =>
    refine (step_effect (hadmits.1 admitted hinput)).verdict_eq h.roundsIndexed (fun send call heq ↦ ?_)
      disputeId voteRound
    exact hne send call (heq ▸ hinput)

theorem kept_of_run (h : Reachable cfg s) {inputs : List (ChainInput AccountId)}
    (hinputs : AdmitsAll (chainStep cfg converters) (ChainAdmissible cfg converters) inputs s) :
    ((∀ input ∈ inputs, Unheard converters .staking input) → ∀ staker,
        (run (chainStep cfg converters) inputs s).staking.stake staker = s.staking.stake staker) ∧
      ((∀ input ∈ inputs, Unheard converters .governance input) → ∀ disputeId voteRound,
        (run (chainStep cfg converters) inputs s).governance.verdict disputeId voteRound =
          s.governance.verdict disputeId voteRound) := by
  induction inputs generalizing s with
  | nil => exact ⟨fun _ _ ↦ rfl, fun _ _ _ ↦ rfl⟩
  | cons input rest ih =>
    obtain ⟨hstakes, hverdicts⟩ := ih (chainStep_reachable h hinputs.1) hinputs.2
    refine ⟨fun hunheard staker ↦ ?_, fun hunheard disputeId voteRound ↦ ?_⟩
    · obtain ⟨hfirst, hrest⟩ := List.forall_mem_cons.mp hunheard
      exact (hstakes hrest staker).trans (chainStep_stake_eq hinputs.1 hfirst staker)
    · obtain ⟨hfirst, hrest⟩ := List.forall_mem_cons.mp hunheard
      exact (hverdicts hrest disputeId voteRound).trans
        (chainStep_verdict_eq h hinputs.1 hfirst disputeId voteRound)

/-- In any run of the chain from a reachable state: while no message comes from the staking controller
contract no stake moves, and while none comes from the governance controller contract nothing is decided
of any dispute, whatever else is called, sent and due. The messages of different contracts do run with
the origins of their contracts. -/
theorem authority_of_run (h : Reachable cfg s) (inputs : List (ChainInput AccountId))
    (hinputs : AdmitsAll (chainStep cfg converters) (ChainAdmissible cfg converters) inputs s) :
    ((∀ input ∈ inputs, Unheard converters .staking input) → ∀ staker,
        (run (chainStep cfg converters) inputs s).staking.stake staker = s.staking.stake staker) ∧
      ((∀ input ∈ inputs, Unheard converters .governance input) → ∀ disputeId voteRound,
        (run (chainStep cfg converters) inputs s).governance.verdict disputeId voteRound =
          s.governance.verdict disputeId voteRound) ∧
      ((converters.map Prod.fst).Nodup → ∀ converter ∈ converters, ∀ send call,
        (ChainInput.inbound send converter.1.toMultiLocation .sovereignAccount call).toInput converters =
          some (.extrinsic send converter.2 call)) := by
  obtain ⟨hstakes, hverdicts⟩ := kept_of_run h hinputs
  refine ⟨hstakes, hverdicts, fun hdistinct converter hmem send call ↦ ?_⟩
  have hconverted : convertOrigin converter.1.toMultiLocation .sovereignAccount converters =
      .ok converter.2 := (convertOrigin_eq_ok hdistinct).mpr ⟨rfl, converter.1, hmem, rfl⟩
  rw [ChainInput.toInput, hconverted]
  rfl

end Runs

/-- The converters of the mock runtime, with the contracts on its controller chain. -/
def Mock.converters : List (Controller × Origin ℕ) :=
  [(⟨⟨Mock.config.governance.paraId, 7⟩, none⟩, .staking), (⟨Mock.config.governance, none⟩, .governance)]

/-- The governance controller contract reports a slash. -/
def Mock.slashElsewhere : List (ChainInput ℕ) :=
  [.inbound Mock.send (Controller.toMultiLocation ⟨Mock.config.governance, none⟩) .sovereignAccount
    (.reportSlash 7 100), .own (Mock.block 40)]

/-- A contract at its address on another chain reports a tally. -/
def Mock.tallyElsewhere : List (ChainInput ℕ) :=
  [.inbound Mock.send (Controller.toMultiLocation ⟨⟨2001, Mock.config.governance.address⟩, none⟩)
    .sovereignAccount (.reportVoteTallied Mock.disputeId .passed), .own (Mock.submit 8)]

theorem authority_of_run_elsewhere :
    (run (chainStep Mock.config Mock.converters) Mock.slashElsewhere
        (run (step Mock.config) Mock.reports Mock.genesis)).staking.stake 7 =
        some (100 * 10 ^ 18, 0, Mock.start) ∧
      (run (chainStep Mock.config Mock.converters) Mock.tallyElsewhere
        (run (step Mock.config) Mock.reports Mock.genesis)).governance.verdict Mock.disputeId 1 =
        (0, none, false) := by
  have hreachable : Reachable Mock.config (run (step Mock.config) Mock.reports Mock.genesis) :=
    Mock.reachableBy_run Mock.reports (by decide +kernel)
  have hslash : AdmitsAll (chainStep Mock.config Mock.converters)
      (ChainAdmissible Mock.config Mock.converters) Mock.slashElsewhere
      (run (step Mock.config) Mock.reports Mock.genesis) := by decide +kernel
  have htally : AdmitsAll (chainStep Mock.config Mock.converters)
      (ChainAdmissible Mock.config Mock.converters) Mock.tallyElsewhere
      (run (step Mock.config) Mock.reports Mock.genesis) := by decide +kernel
  have hstakes := (authority_of_run hreachable Mock.slashElsewhere hslash).1 (by decide +kernel)
  have hverdicts := (authority_of_run hreachable Mock.tallyElsewhere htally).2.1 (by decide +kernel)
  exact ⟨(hstakes 7).trans (by decide +kernel), (hverdicts Mock.disputeId 1).trans (by decide +kernel)⟩

end TellorPallet
