import TellorPallet.Foundation.Codec
import TellorPallet.Pallet.Config

/-!
# Remote calls of the EVM

The call of the destination's `pallet-ethereum-xcm` by which the pallet reaches a contract, with the
bytes it is sent as, and the XCM program around it: withdraw the fees, buy the execution, transact.
-/

namespace TellorPallet

open Outcome

abbrev U256 := Fin (2 ^ 256)

/-- `BoundedVec<u8, ConstU32<MAX_ETHEREUM_XCM_INPUT_SIZE>>`. -/
abbrev EthereumXcmInput := {input : Bytes // input.length ≤ maxEthereumXcmInputSize}

/-- A vector, as the SCALE format bounds its length. -/
abbrev ScaleVec (α : Type) := {items : List α // items.length < 2 ^ 32}

abbrev AccessList := Option (ScaleVec (H160 × ScaleVec H256))

structure ManualEthereumXcmFee where
  gasPrice : Option U256
  maxFeePerGas : Option U256

inductive EthereumXcmFee where
  | manual (fee : ManualEthereumXcmFee)
  | auto

inductive TransactionAction where
  | call (address : H160)

structure EthereumXcmTransactionV1 where
  /-- Gas limit to be consumed by remote EVM execution. -/
  gasLimit : U256
  /-- Fee configuration of choice. -/
  feePayment : EthereumXcmFee
  /-- The callee, account or contract address. -/
  action : TransactionAction
  /-- Value to be transferred. -/
  value : U256
  /-- Input data for a contract call. -/
  input : EthereumXcmInput
  /-- Map of addresses to be pre-paid to warm storage. -/
  accessList : AccessList

structure EthereumXcmTransactionV2 where
  gasLimit : U256
  action : TransactionAction
  value : U256
  input : EthereumXcmInput
  accessList : AccessList

inductive EthereumXcmTransaction where
  | v1 (transaction : EthereumXcmTransactionV1)
  | v2 (transaction : EthereumXcmTransactionV2)

inductive EthereumXcmCall where
  | transact (xcmTransaction : EthereumXcmTransaction)
  | transactThroughProxy (transactAs : H160) (xcmTransaction : EthereumXcmTransaction)

/-! ## The bytes of a call -/

namespace EthereumXcm

open Codec

theorem width_u256 : 256 ^ 32 = 2 ^ 256 := by norm_num

theorem width_h160 : 256 ^ 20 = 2 ^ 160 := by norm_num

def u256 : Codec U256 := (uint 32).map (finCongr width_u256)

def h256 : Codec H256 := (Codec.hash 32).map (finCongr width_u256)

def h160 : Codec H160 := (Codec.hash 20).map (finCongr width_h160)

theorem inputSize_lt {length : ℕ} (h : length ≤ maxEthereumXcmInputSize) : length < 2 ^ 32 :=
  h.trans_lt (by decide)

def input : Codec EthereumXcmInput :=
  ((sequence byte).restrict fun items ↦ items.val.length ≤ maxEthereumXcmInputSize).map
    { toFun := fun items ↦ ⟨items.val.val, items.property⟩
      invFun := fun items ↦ ⟨⟨items.val, inputSize_lt items.property⟩, items.property⟩
      left_inv := fun _ ↦ rfl
      right_inv := fun _ ↦ rfl }

def accessList : Codec AccessList := option (sequence (pair h160 (sequence h256)))

def manualFee : Codec ManualEthereumXcmFee :=
  (pair (option u256) (option u256)).map
    { toFun := fun fee ↦ ⟨fee.1, fee.2⟩
      invFun := fun fee ↦ (fee.gasPrice, fee.maxFeePerGas)
      left_inv := fun _ ↦ rfl
      right_inv := fun _ ↦ rfl }

theorem tag_ne : (0 : UInt8) ≠ 1 := by decide

def fee : Codec EthereumXcmFee :=
  (either 0 1 tag_ne manualFee Codec.unit).map
    { toFun := Sum.elim .manual fun _ ↦ .auto
      invFun := fun
        | .manual fee => .inl fee
        | .auto => .inr ()
      left_inv := by rintro (_ | _) <;> rfl
      right_inv := by rintro (_ | _) <;> rfl }

def action : Codec TransactionAction :=
  (tagged 0 h160).map
    { toFun := .call
      invFun := fun
        | .call address => address
      left_inv := fun _ ↦ rfl
      right_inv := fun _ ↦ rfl }

def transactionV1 : Codec EthereumXcmTransactionV1 :=
  (pair u256 (pair fee (pair action (pair u256 (pair input accessList))))).map
    { toFun := fun t ↦ ⟨t.1, t.2.1, t.2.2.1, t.2.2.2.1, t.2.2.2.2.1, t.2.2.2.2.2⟩
      invFun := fun t ↦ (t.gasLimit, t.feePayment, t.action, t.value, t.input, t.accessList)
      left_inv := fun _ ↦ rfl
      right_inv := fun _ ↦ rfl }

def transactionV2 : Codec EthereumXcmTransactionV2 :=
  (pair u256 (pair action (pair u256 (pair input accessList)))).map
    { toFun := fun t ↦ ⟨t.1, t.2.1, t.2.2.1, t.2.2.2.1, t.2.2.2.2⟩
      invFun := fun t ↦ (t.gasLimit, t.action, t.value, t.input, t.accessList)
      left_inv := fun _ ↦ rfl
      right_inv := fun _ ↦ rfl }

def transaction : Codec EthereumXcmTransaction :=
  (either 0 1 tag_ne transactionV1 transactionV2).map
    { toFun := Sum.elim .v1 .v2
      invFun := fun
        | .v1 transaction => .inl transaction
        | .v2 transaction => .inr transaction
      left_inv := by rintro (_ | _) <;> rfl
      right_inv := by rintro (_ | _) <;> rfl }

def call : Codec EthereumXcmCall :=
  (either 0 1 tag_ne transaction (pair h160 transaction)).map
    { toFun := Sum.elim .transact fun proxied ↦ .transactThroughProxy proxied.1 proxied.2
      invFun := fun
        | .transact transaction => .inl transaction
        | .transactThroughProxy transactAs transaction => .inr (transactAs, transaction)
      left_inv := by rintro (_ | _) <;> rfl
      right_inv := by rintro (_ | _) <;> rfl }

/-- `ethereum_xcm::transact`. -/
def transact (palletIndex : UInt8) (contractAddress : H160) (callData : EthereumXcmInput)
    (gasLimit : U256) : Bytes :=
  palletIndex :: call.encode (.transact (.v2
    { gasLimit := gasLimit
      action := .call contractAddress
      value := 0
      input := callData
      accessList := none }))

/-- The encoded call of the source's test. -/
example : transact 38 0xa72f549a1a12b9b49f30a7f3aeb1f4e96389c5d8
    ⟨[0xd0, 0x9d, 0xe0, 0x8a], by decide⟩ 71000 =
    [0x26, 0x00, 0x01, 0x58, 0x15, 0x01] ++ List.replicate 29 0 ++
      [0x00, 0xa7, 0x2f, 0x54, 0x9a, 0x1a, 0x12, 0xb9, 0xb4, 0x9f, 0x30, 0xa7, 0xf3, 0xae, 0xb1,
        0xf4, 0xe9, 0x63, 0x89, 0xc5, 0xd8] ++ List.replicate 32 0 ++
      [0x10, 0xd0, 0x9d, 0xe0, 0x8a, 0x00] := by
  decide +kernel

end EthereumXcm

end TellorPallet
