import TellorPallet.Runtime.Mock
import TellorPallet.Xcm.EthereumXcm

/-!
# XCM programs

What the pallet puts around a contract call before it is sent: a program that withdraws the fees for
the weight of its own execution and transacts the call. Weights are 64-bit numbers, and the sum of the
program's weight and the call's is not checked: it panics or wraps around, as the build has it.
-/

namespace TellorPallet

open Outcome

structure Weight where
  refTime : UInt64
  proofSize : UInt64
deriving DecidableEq

namespace Weight

/-- The sum without overflow checks: it wraps around. -/
instance : Add Weight := ⟨fun w w' ↦ ⟨w.refTime + w'.refTime, w.proofSize + w'.proofSize⟩⟩

/-- The sum of two weights is a weight. -/
def AddsUp (w w' : Weight) : Prop :=
  w.refTime.toNat + w'.refTime.toNat ≤ u64Max ∧ w.proofSize.toNat + w'.proofSize.toNat ≤ u64Max

instance (w w' : Weight) : Decidable (w.AddsUp w') := inferInstanceAs (Decidable (_ ∧ _))

/-- `Weight::checked_add`. -/
def checkedAdd (w w' : Weight) : Option Weight := if w.AddsUp w' then some (w + w') else none

/-- `Weight::saturating_add`. -/
def saturatingAdd (w w' : Weight) : Weight where
  refTime := UInt64.ofNat (Saturating.add u64Max w.refTime.toNat w'.refTime.toNat)
  proofSize := UInt64.ofNat (Saturating.add u64Max w.proofSize.toNat w'.proofSize.toNat)

theorem toNat_add_of_le {a b : UInt64} (h : a.toNat + b.toNat ≤ u64Max) :
    (a + b).toNat = a.toNat + b.toNat := by
  rw [UInt64.toNat_add]
  exact Nat.mod_eq_of_lt (Nat.lt_of_le_pred (by positivity) h)

theorem toNat_add_of_addsUp {w w' : Weight} (h : w.AddsUp w') :
    (w + w').refTime.toNat = w.refTime.toNat + w'.refTime.toNat ∧
      (w + w').proofSize.toNat = w.proofSize.toNat + w'.proofSize.toNat :=
  ⟨toNat_add_of_le h.1, toNat_add_of_le h.2⟩

/-- A sum that wraps around is less than what was added. -/
theorem le_add_iff (a b : UInt64) : b ≤ a + b ↔ a.toNat + b.toNat ≤ u64Max := by
  have ha : a.toNat < 2 ^ 64 := a.toNat_lt
  have hb : b.toNat < 2 ^ 64 := b.toNat_lt
  have hmax : u64Max = 2 ^ 64 - 1 := rfl
  rw [UInt64.le_iff_toNat_le, UInt64.toNat_add, hmax]
  omega

end Weight

structure MultiLocation where
  parents : ℕ
  interior : List Junction
deriving DecidableEq

/-- A fungible asset and an amount of it. -/
structure MultiAsset where
  id : MultiLocation
  amount : ℕ
deriving DecidableEq

inductive OriginKind where
  | native
  | sovereignAccount
  | superuser
  | xcm
deriving DecidableEq

inductive Instruction where
  | descendOrigin (interior : Junction)
  | withdrawAsset (asset : MultiAsset)
  | buyExecution (fees : MultiAsset) (weightLimit : Weight)
  | transact (originKind : OriginKind) (requireWeightAtMost : Weight) (call : Bytes)
deriving DecidableEq

/-- The constants of the pallet's `Config` for XCM, and the destination's weigher. -/
structure XcmConfig where
  ethereumXcmPalletIndex : UInt8
  parachainId : ℕ
  xcmFeesAsset : MultiLocation
  xcmWeightToAsset : ℕ
  /-- `Weigher::transact`. -/
  transactWeight : (paraId gasLimit : ℕ) → Weight
  /-- `Weigher::weigh`. -/
  weigh : (paraId : ℕ) → List Instruction → Option Weight
  /-- Whether the build checks for overflow. -/
  overflowChecks : Bool

namespace XcmConfig

variable (x : XcmConfig)

/-- `weight_to_fee`. -/
def weightToFee (weight : Weight) : ℕ :=
  Saturating.mul u128Max weight.refTime.toNat x.xcmWeightToAsset

/-- The message that is weighed. -/
def sampleMessage (paraId : ℕ) (call : Bytes) (gasLimit : ℕ) : List Instruction :=
  [.descendOrigin (.parachain x.parachainId), .withdrawAsset ⟨x.xcmFeesAsset, 1⟩,
    .buyExecution ⟨x.xcmFeesAsset, 1⟩ ⟨0, 0⟩,
    .transact .sovereignAccount (x.transactWeight paraId gasLimit) call]

/-- `xcm::transact`. -/
def transact (paraId : ℕ) (call : Bytes) (gasLimit : ℕ) : Except DispatchError (List Instruction) := do
  let transactExtrinsicWeight := x.transactWeight paraId gasLimit
  let xcmWeight ← okOr (x.weigh paraId (x.sampleMessage paraId call gasLimit))
    (.module .weighingFailure)
  -- the sum is unchecked: it panics on overflow in a build that checks, and wraps around in another
  guard (x.overflowChecks = true → xcmWeight.AddsUp transactExtrinsicWeight) DispatchError.panic
  let totalWeight := xcmWeight + transactExtrinsicWeight
  let asset : MultiAsset := ⟨x.xcmFeesAsset, x.weightToFee totalWeight⟩
  .ok [.withdrawAsset asset, .buyExecution asset totalWeight,
    .transact .sovereignAccount transactExtrinsicWeight call]

/-- The program for a call of a contract, as the pallet's calls build it. -/
def contractCall {AccountId : Type} (cfg : Config AccountId) (location : ContractLocation)
    (call : ContractCall) (gasLimit : ℕ) : Except DispatchError (List Instruction) :=
  let input := call.selector ++ cfg.abiEncode call.tokens
  if h : input.length ≤ maxEthereumXcmInputSize then
    x.transact location.paraId (EthereumXcm.transact x.ethereumXcmPalletIndex location.address
      ⟨input, h⟩ (Fin.ofNat _ gasLimit)) gasLimit
  else .error (.module .maxEthereumXcmInputSizeExceeded)

/-- The bytes of the call that the program of a message transacts. -/
def remoteBytes (message : Message) : Option Bytes :=
  if h : message.input.length ≤ maxEthereumXcmInputSize then
    some (EthereumXcm.transact x.ethereumXcmPalletIndex message.contract ⟨message.input, h⟩
      (Fin.ofNat _ message.gasLimit))
  else none

/-- The program that carries a message. -/
def program (message : Message) : Option (List Instruction) :=
  (x.remoteBytes message).bind fun call ↦
    (x.transact message.paraId call message.gasLimit).toOption

/-- The weights that the program of a call pays for add up. -/
def AddsUp (paraId : ℕ) (call : Bytes) (gasLimit : ℕ) : Prop :=
  ∀ xcmWeight ∈ x.weigh paraId (x.sampleMessage paraId call gasLimit),
    xcmWeight.AddsUp (x.transactWeight paraId gasLimit)

/-- Building the program of a message overflows in a build that checks. -/
def Panics (message : Message) : Prop :=
  x.overflowChecks = true ∧
    ∃ call ∈ x.remoteBytes message, ¬x.AddsUp message.paraId call message.gasLimit

instance (paraId : ℕ) (call : Bytes) (gasLimit : ℕ) : Decidable (x.AddsUp paraId call gasLimit) :=
  inferInstanceAs (Decidable (∀ xcmWeight ∈ x.weigh paraId (x.sampleMessage paraId call gasLimit), _))

instance (message : Message) : Decidable (x.Panics message) := inferInstanceAs (Decidable (_ ∧ _))

end XcmConfig

/-! ## The remote call in a program -/

/-- A call of a contract that a program transacts: by the pallet of the destination with the given
index, without a transfer of value. -/
structure RemoteCall where
  palletIndex : UInt8
  contract : H160
  input : Bytes
  gasLimit : U256
deriving DecidableEq

/-- The remote call in the bytes of a `Transact`. -/
def readRemoteCall : Bytes → Option RemoteCall
  | [] => none
  | palletIndex :: call =>
    match EthereumXcm.call.decode call with
    | some (.transact (.v2 transaction), []) =>
      match transaction.action with
      | .call contract =>
        if transaction.value = 0 then
          some ⟨palletIndex, contract, transaction.input.val, transaction.gasLimit⟩
        else none
    | _ => none

/-- The remote call of a program that withdraws what it pays for its execution, and transacts within the
weight it pays for. -/
def readProgram : List Instruction → Option RemoteCall
  | [.withdrawAsset asset, .buyExecution fees weightLimit, .transact .sovereignAccount weight call] =>
    if fees = asset ∧ weight.refTime ≤ weightLimit.refTime ∧ weight.proofSize ≤ weightLimit.proofSize
    then readRemoteCall call
    else none
  | _ => none

theorem readRemoteCall_transact (palletIndex : UInt8) (contract : H160) (input : EthereumXcmInput)
    (gasLimit : U256) :
    readRemoteCall (EthereumXcm.transact palletIndex contract input gasLimit) =
      some ⟨palletIndex, contract, input.val, gasLimit⟩ := by
  have hdecode := EthereumXcm.call.decode_encode (.transact (.v2
    { gasLimit := gasLimit
      action := .call contract
      value := 0
      input := input
      accessList := none })) []
  rw [List.append_nil] at hdecode
  rw [EthereumXcm.transact, readRemoteCall, hdecode]
  exact if_pos rfl

section Program

variable {x : XcmConfig} {AccountId : Type} {cfg : Config AccountId}

theorem XcmConfig.transact_eq_ok {paraId gasLimit : ℕ} {call : Bytes} {program : List Instruction} :
    x.transact paraId call gasLimit = .ok program ↔
      ∃ xcmWeight, x.weigh paraId (x.sampleMessage paraId call gasLimit) = some xcmWeight ∧
        (x.overflowChecks = true → xcmWeight.AddsUp (x.transactWeight paraId gasLimit)) ∧
        let totalWeight := xcmWeight + x.transactWeight paraId gasLimit
        let asset : MultiAsset := ⟨x.xcmFeesAsset, x.weightToFee totalWeight⟩
        program = [.withdrawAsset asset, .buyExecution asset totalWeight,
          .transact .sovereignAccount (x.transactWeight paraId gasLimit) call] := by
  simp only [XcmConfig.transact, bind_eq_ok, okOr_eq_ok, guard_eq_ok, exists_const, Except.ok.injEq,
    @eq_comm _ program]

/-- A call cannot be sent if its program cannot be weighed, or for an overflow of the weights. -/
theorem XcmConfig.transact_eq_error {paraId gasLimit : ℕ} {call : Bytes} {e : DispatchError} :
    x.transact paraId call gasLimit = .error e ↔
      (x.weigh paraId (x.sampleMessage paraId call gasLimit) = none ∧ e = .module .weighingFailure) ∨
        (x.overflowChecks = true ∧ ¬x.AddsUp paraId call gasLimit ∧ e = .panic) := by
  simp only [XcmConfig.transact, XcmConfig.AddsUp, bind_eq_error, okOr_eq_error, okOr_eq_ok,
    @eq_comm _ e]
  cases x.weigh paraId (x.sampleMessage paraId call gasLimit) with
  | none => simp
  | some xcmWeight =>
    by_cases hadds : xcmWeight.AddsUp (x.transactWeight paraId gasLimit)
    · simp [Outcome.guard, hadds]
    · cases x.overflowChecks
      · simp [Outcome.guard]
      · simp [Outcome.guard, hadds]

/-- A build that checks for overflow builds no program whose weights overflow. -/
theorem XcmConfig.addsUp_of_transact {paraId gasLimit : ℕ} {call : Bytes} {program : List Instruction}
    (h : x.transact paraId call gasLimit = .ok program) (hchecks : x.overflowChecks = true) :
    x.AddsUp paraId call gasLimit := by
  obtain ⟨xcmWeight, hweigh, hadds, -⟩ := XcmConfig.transact_eq_ok.mp h
  intro other hother
  cases Option.some.inj (hweigh.symm.trans hother)
  exact hadds hchecks

/-- A program carries its call, unless its weights have wrapped around. -/
theorem readProgram_transact {paraId gasLimit : ℕ} {call : Bytes} {program : List Instruction}
    (h : x.transact paraId call gasLimit = .ok program) :
    readProgram program = if x.AddsUp paraId call gasLimit then readRemoteCall call else none := by
  obtain ⟨xcmWeight, hweigh, -, rfl⟩ := XcmConfig.transact_eq_ok.mp h
  have hadds : x.AddsUp paraId call gasLimit ↔ xcmWeight.AddsUp (x.transactWeight paraId gasLimit) := by
    simp [XcmConfig.AddsUp, hweigh]
  rw [readProgram]
  refine if_congr ?_ rfl rfl
  rw [hadds, Weight.AddsUp, ← Weight.le_add_iff, ← Weight.le_add_iff]
  exact and_iff_right rfl

/-- The message of a contract call. -/
def contractMessage (cfg : Config AccountId) (location : ContractLocation) (call : ContractCall)
    (gasLimit : ℕ) : Message :=
  ⟨location.paraId, location.address, call.selector ++ cfg.abiEncode call.tokens, gasLimit⟩

/-- The message of a contract call, or why there is none. -/
theorem transact_eq_ite (cfg : Config AccountId) (location : ContractLocation) (call : ContractCall)
    (gasLimit : ℕ) : transact cfg location call gasLimit =
      if (contractMessage cfg location call gasLimit).input.length ≤ maxEthereumXcmInputSize then
        if cfg.weighs (contractMessage cfg location call gasLimit) = true then
          .ok (contractMessage cfg location call gasLimit)
        else .error (.module .weighingFailure)
      else .error (.module .maxEthereumXcmInputSizeExceeded) := by
  unfold TellorPallet.transact ensure Outcome.guard contractMessage
  dsimp only
  split
  · split <;> rfl
  · rfl

/-- What the model keeps of a message is what the pallet sends: with the destination's weigher behind
`weighs`, building the program of a contract call fails where building its message does, with its error
unless the weights overflow, and is otherwise the program of the message. It pays for the weight limit
that it sets, and transacts a call of the same contract with the same input and gas limit. The call is
executed if the limit is the sum of the weights, and not if the sum has wrapped around. -/
theorem contractCall_carries (location : ContractLocation) (call : ContractCall) {gasLimit : ℕ}
    (hweighs : ∀ message : Message, message.input.length ≤ maxEthereumXcmInputSize →
      cfg.weighs message = (x.program message).isSome) (hgas : gasLimit < 2 ^ 64) :
    (x.Panics (contractMessage cfg location call gasLimit) →
      x.contractCall cfg location call gasLimit = .error .panic ∧
        transact cfg location call gasLimit = .error (.module .weighingFailure)) ∧
    (¬x.Panics (contractMessage cfg location call gasLimit) → ∀ e,
      x.contractCall cfg location call gasLimit = .error e ↔
        transact cfg location call gasLimit = .error e) ∧
    ∀ program, x.contractCall cfg location call gasLimit = .ok program →
      transact cfg location call gasLimit = .ok (contractMessage cfg location call gasLimit) ∧
      x.program (contractMessage cfg location call gasLimit) = some program ∧
      ∃ asset weightLimit weight bytes remote, program =
        [.withdrawAsset asset, .buyExecution asset weightLimit,
          .transact .sovereignAccount weight bytes] ∧
        asset.amount = min (weightLimit.refTime.toNat * x.xcmWeightToAsset) u128Max ∧
        readRemoteCall bytes = some remote ∧
        remote.palletIndex = x.ethereumXcmPalletIndex ∧ remote.contract = location.address ∧
        remote.input = call.selector ++ cfg.abiEncode call.tokens ∧ remote.gasLimit.val = gasLimit ∧
        if x.AddsUp location.paraId bytes gasLimit then readProgram program = some remote ∧
          ∃ xcmWeight, x.weigh location.paraId (x.sampleMessage location.paraId bytes gasLimit) =
              some xcmWeight ∧
            weightLimit.refTime.toNat = xcmWeight.refTime.toNat + weight.refTime.toNat ∧
            weightLimit.proofSize.toNat = xcmWeight.proofSize.toNat + weight.proofSize.toNat
        else readProgram program = none := by
  set message := contractMessage cfg location call gasLimit with hmessage
  rw [transact_eq_ite]
  by_cases hsize : message.input.length ≤ maxEthereumXcmInputSize
  · let bytes := EthereumXcm.transact x.ethereumXcmPalletIndex location.address
      ⟨message.input, hsize⟩ (Fin.ofNat _ gasLimit)
    have hbytes : x.remoteBytes message = some bytes := dif_pos hsize
    have hcontract : x.contractCall cfg location call gasLimit = x.transact location.paraId bytes
      gasLimit := dif_pos hsize
    have hprogram : x.program message = (x.contractCall cfg location call gasLimit).toOption := by
      rw [hcontract, XcmConfig.program, hbytes]
      rfl
    have hpanics : x.Panics message ↔
        x.overflowChecks = true ∧ ¬x.AddsUp location.paraId bytes gasLimit := by
      simp only [XcmConfig.Panics, hbytes, Option.mem_def, Option.some.injEq, exists_eq_left']
      rfl
    have hread : readRemoteCall bytes = some ⟨x.ethereumXcmPalletIndex, location.address,
        message.input, Fin.ofNat _ gasLimit⟩ := readRemoteCall_transact _ _ _ _
    rw [← hmessage, if_pos hsize, hweighs _ hsize, hprogram, hpanics, hcontract]
    cases hresult : x.transact location.paraId bytes gasLimit with
    | error e =>
      rcases XcmConfig.transact_eq_error.mp hresult with ⟨hnone, rfl⟩ | ⟨hchecks, hadds, rfl⟩
      · have hadds : x.AddsUp location.paraId bytes gasLimit := by simp [XcmConfig.AddsUp, hnone]
        simp [Except.toOption, hadds]
      · simp [Except.toOption, hchecks, hadds]
    | ok program =>
      have hfits : ¬(x.overflowChecks = true ∧ ¬x.AddsUp location.paraId bytes gasLimit) :=
        fun ⟨hchecks, hadds⟩ ↦ nomatch hresult.symm.trans
          (XcmConfig.transact_eq_error.mpr (Or.inr ⟨hchecks, hadds, rfl⟩))
      refine ⟨fun hpanic ↦ absurd hpanic hfits, fun _ e ↦ by simp [Except.toOption], ?_⟩
      rintro other ⟨⟩
      have hprogramRead := readProgram_transact hresult
      obtain ⟨xcmWeight, hweigh, -, hshape⟩ := XcmConfig.transact_eq_ok.mp hresult
      refine ⟨if_pos rfl, rfl, _, _, _, bytes, _, hshape, rfl, hread, rfl, rfl, rfl,
        Nat.mod_eq_of_lt (hgas.trans (by norm_num)), ?_⟩
      split
      · next hadds =>
        rw [if_pos hadds] at hprogramRead
        exact ⟨hprogramRead.trans hread, xcmWeight, hweigh, Weight.toNat_add_of_addsUp (hadds _ hweigh)⟩
      · next hadds =>
        rw [if_neg hadds] at hprogramRead
        exact hprogramRead
  · have hcontract : x.contractCall cfg location call gasLimit =
        .error (.module .maxEthereumXcmInputSizeExceeded) := dif_neg hsize
    have hbytes : x.remoteBytes message = none := dif_neg hsize
    rw [hcontract, if_neg hsize]
    simp [XcmConfig.Panics, hbytes]

end Program

/-! ## The mock runtime's weigher -/

/-- The weights of the destination's instructions in the mock runtime. -/
def Mock.instructionWeight : Instruction → Weight
  | .descendOrigin _ => ⟨5992000, 0⟩
  | .withdrawAsset _ => ⟨200000000, 0⟩
  | .buyExecution .. => ⟨281080000, 19056⟩
  | .transact .. => ⟨49375000, 1527⟩

/-- The XCM configuration of the mock runtime, in a build that checks for overflow. -/
def Mock.xcm : XcmConfig where
  ethereumXcmPalletIndex := 38
  parachainId := 3000
  xcmFeesAsset := ⟨0, [.palletInstance 3]⟩
  xcmWeightToAsset := 50000
  transactWeight paraId gasLimit :=
    if paraId = 2000 then
      Weight.saturatingAdd ⟨UInt64.ofNat (Saturating.mul u64Max gasLimit 25000), 0⟩ ⟨25000000, 0⟩
    else ⟨0, 0⟩
  weigh paraId program :=
    if paraId = 2000 then
      program.foldlM (fun weight i ↦ weight.checkedAdd (Mock.instructionWeight i)) ⟨0, 0⟩
    else none
  overflowChecks := true

/-- The mock runtime's weights for the gas of the governance calls are far from an overflow. -/
theorem Mock.addsUp {gasLimit : ℕ} (hgas : gasLimit ≤ gasBeginParachainDispute) (call : Bytes) :
    Mock.xcm.AddsUp 2000 call gasLimit := by
  have hweigh : Mock.xcm.weigh 2000 (Mock.xcm.sampleMessage 2000 call gasLimit) =
      some ⟨536447000, 20583⟩ := by
    simp only [Mock.xcm, XcmConfig.sampleMessage, if_true, List.foldlM_cons, List.foldlM_nil,
      Mock.instructionWeight]
    decide +kernel
  have hgasWeight : (UInt64.ofNat (Saturating.mul u64Max gasLimit 25000)).toNat ≤ gasLimit * 25000 := by
    rw [UInt64.toNat_ofNat']
    exact (Nat.mod_le _ _).trans (min_le_left _ _)
  have htime : (Mock.xcm.transactWeight 2000 gasLimit).refTime.toNat ≤ gasLimit * 25000 + 25000000 := by
    refine (UInt64.toNat_ofNat'.trans_le ((Nat.mod_le _ _).trans (min_le_left _ _))).trans ?_
    exact Nat.add_le_add_right hgasWeight _
  intro xcmWeight hxcm
  cases Option.some.inj (hweigh.symm.trans hxcm)
  have hlimit : gasLimit ≤ 600000 := hgas
  have hmax : u64Max = 18446744073709551615 := rfl
  constructor
  · change 536447000 + (Mock.xcm.transactWeight 2000 gasLimit).refTime.toNat ≤ u64Max
    omega
  · change 20583 + 0 ≤ u64Max
    omega

/-- A vote of the mock runtime is carried as its message, and a registration with all the gas there is
panics. -/
theorem contractCall_carries_vote :
    let cfg := { Mock.config with weighs := fun message ↦ (Mock.xcm.program message).isSome }
    (∃ program, Mock.xcm.contractCall cfg cfg.governance (voteCall 1 ⟨3, 2, 1⟩ ⟨6, 5, 4⟩) gasVote =
        .ok program ∧
      Mock.xcm.program (contractMessage cfg cfg.governance (voteCall 1 ⟨3, 2, 1⟩ ⟨6, 5, 4⟩) gasVote) =
        some program) ∧
    Mock.xcm.contractCall cfg cfg.registry (registerCall 3000 3 10000 0 [] cfg.weights) u64Max =
      .error .panic := by
  intro cfg
  obtain ⟨program, hprogram⟩ := exists_eq_ok
    (by decide +kernel : (Mock.xcm.contractCall cfg cfg.governance (voteCall 1 ⟨3, 2, 1⟩ ⟨6, 5, 4⟩)
      gasVote).isOk = true)
  have hpanics : Mock.xcm.Panics (contractMessage cfg cfg.registry
      (registerCall 3000 3 10000 0 [] cfg.weights) u64Max) := by decide +kernel
  exact ⟨⟨program, hprogram, ((contractCall_carries cfg.governance (voteCall 1 ⟨3, 2, 1⟩ ⟨6, 5, 4⟩)
      (fun _ _ ↦ rfl) (by decide)).2.2 program hprogram).2.1⟩,
    ((contractCall_carries cfg.registry (registerCall 3000 3 10000 0 [] cfg.weights)
      (fun _ _ ↦ rfl) (by decide)).1 hpanics).1⟩

end TellorPallet
