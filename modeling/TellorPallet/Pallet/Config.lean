import TellorPallet.Foundation.Ledger
import TellorPallet.Foundation.Outcome
import TellorPallet.Pallet.Contracts

/-!
# Configuration and surroundings of the pallet

The associated types and constants of the pallet's `Config`, and the code outside the pallet that it
calls: the hash and ABI encoder, the asset, and the sender of XCM messages.
-/

namespace TellorPallet

structure ContractLocation where
  paraId : ℕ
  address : Address
deriving DecidableEq, Repr

/-- An XCM message: a remote transaction on a contract of the controller chain. -/
structure Message where
  paraId : ℕ
  contract : Address
  input : Bytes
  gasLimit : ℕ
deriving DecidableEq, Repr

inductive SendError where
  | fees
  | notApplicable
  | other
deriving DecidableEq, Repr

/-- What the XCM sender answers to each message of one call. -/
abbrev Sender := Message → Except SendError Unit

inductive Preservation where
  | expendable
  | protect
deriving DecidableEq, Repr

/-- The pallet's `Config`, with the accounts derived from its `PalletId`. -/
structure Config (AccountId : Type) where
  /-- The largest `Balance`. -/
  balanceMax : ℕ
  decimals : ℕ
  fee : ℕ
  feeLocation : Option (ℕ × List Junction)
  governance : ContractLocation
  initialDisputeFee : ℕ
  maxClaimTimestamps : ℕ
  maxDisputedTimeSeries : ℕ
  minimumBalance : ℕ
  minimumStakeAmount : ℕ
  palletIndex : ℕ
  parachainId : ℕ
  registry : ContractLocation
  stakeAmountCurrencyTarget : ℕ
  stakingTokenPriceQueryId : QueryId
  stakingToLocalTokenPriceQueryId : QueryId
  updateStakeAmountInterval : ℕ
  weights : Weights
  weightToFee : ℕ
  /-- `Keccak256::hash`. -/
  keccak256 : Bytes → H256
  /-- `ethabi::encode`. -/
  abiEncode : List Token → Bytes
  /-- Whether the destination's weigher can weigh a message. -/
  weighs : Message → Bool
  /-- Further conditions the asset puts on a transfer that the balances cover. -/
  permits : Ledger AccountId → AccountId → AccountId → ℕ → Preservation → Bool
  account : AccountId
  tips : AccountId
  stakingRewards : AccountId
  disputeFees : AccountId
  /-- A `Balance` converts from `u128` and into `U256`. -/
  u128_le_balanceMax : u128Max ≤ balanceMax
  balanceMax_le : balanceMax ≤ u256Max
  /-- The sub-accounts are distinct. -/
  tips_ne_stakingRewards : tips ≠ stakingRewards
  tips_ne_disputeFees : tips ≠ disputeFees
  stakingRewards_ne_disputeFees : stakingRewards ≠ disputeFees
  account_ne_tips : account ≠ tips
  account_ne_stakingRewards : account ≠ stakingRewards
  account_ne_disputeFees : account ≠ disputeFees

open Outcome

variable {AccountId : Type} [DecidableEq AccountId] (cfg : Config AccountId)

/-- `ensure!` with one of the pallet's errors. -/
abbrev ensure (condition : Prop) [Decidable condition] (error : Error) : Except DispatchError Unit :=
  guard condition (.module error)

/-- `T::Asset::transfer`: on success exactly `amount` moves. -/
def transfer (ledger : Ledger AccountId) (source dest : AccountId) (amount : ℕ)
    (preservation : Preservation) : Except DispatchError (Ledger AccountId) := do
  guard (amount ≤ ledger source ∧ (source = dest ∨ ledger dest + amount ≤ cfg.balanceMax) ∧
    cfg.permits ledger source dest amount preservation = true) DispatchError.token
  .ok (ledger.move source dest amount)

theorem transfer_eq_ok {ledger ledger' : Ledger AccountId} {source dest : AccountId}
    {amount : ℕ} {preservation : Preservation} :
    transfer cfg ledger source dest amount preservation = .ok ledger' ↔
      (amount ≤ ledger source ∧ (source = dest ∨ ledger dest + amount ≤ cfg.balanceMax) ∧
        cfg.permits ledger source dest amount preservation = true) ∧
      ledger.move source dest amount = ledger' := by
  simp [transfer]

variable {cfg} in
/-- A transfer takes from its source only. -/
theorem le_of_transfer {ledger ledger' : Ledger AccountId} {source dest account : AccountId}
    {amount : ℕ} {preservation : Preservation}
    (h : transfer cfg ledger source dest amount preservation = .ok ledger')
    (hsource : account ≠ source) : ledger account ≤ ledger' account := by
  obtain ⟨-, rfl⟩ := (transfer_eq_ok cfg).mp h
  exact ledger.le_move dest amount hsource

variable {cfg} in
/-- Nobody loses more than the amount transferred. -/
theorem le_add_of_transfer {ledger ledger' : Ledger AccountId} {source dest : AccountId}
    {amount : ℕ} {preservation : Preservation}
    (h : transfer cfg ledger source dest amount preservation = .ok ledger') (account : AccountId) :
    ledger account ≤ ledger' account + amount := by
  obtain ⟨-, rfl⟩ := (transfer_eq_ok cfg).mp h
  exact ledger.le_move_add source dest account amount

variable {cfg} in
theorem transfer_dest_eq {ledger ledger' : Ledger AccountId} {source dest : AccountId}
    {amount : ℕ} {preservation : Preservation}
    (h : transfer cfg ledger source dest amount preservation = .ok ledger') (hne : source ≠ dest) :
    ledger' dest = ledger dest + amount := by
  obtain ⟨-, rfl⟩ := (transfer_eq_ok cfg).mp h
  exact ledger.move_dest amount hne

variable {cfg} in
/-- What a transfer takes from its source and gives to its destination. -/
theorem transfer_add {ledger ledger' : Ledger AccountId} {source dest : AccountId}
    {amount : ℕ} {preservation : Preservation}
    (h : transfer cfg ledger source dest amount preservation = .ok ledger') (account : AccountId) :
    ledger' account + (if account = source then amount else 0) =
      ledger account + (if account = dest then amount else 0) := by
  obtain ⟨⟨hcovered, -, -⟩, rfl⟩ := (transfer_eq_ok cfg).mp h
  exact ledger.move_add dest account hcovered

/-- `U256ToBalance::convert`. -/
def u256ToBalance (amount : ℕ) : ℕ := min (min amount u128Max) cfg.balanceMax

omit [DecidableEq AccountId] in
theorem u256ToBalance_eq (amount : ℕ) : u256ToBalance cfg amount = min amount u128Max :=
  min_eq_left ((min_le_right _ _).trans cfg.u128_le_balanceMax)

omit [DecidableEq AccountId] in
theorem u256ToBalance_le (amount : ℕ) : u256ToBalance cfg amount ≤ amount := by
  rw [u256ToBalance_eq]
  exact min_le_left _ _

/-- `BytesToU256::convert`. -/
def bytesToU256 (bytes : Bytes) : Option ℕ :=
  bytes.foldl (fun number byte ↦
    (number.bind fun n ↦ Checked.mul u256Max n 256).bind fun n ↦ Checked.add u256Max n byte.toNat)
    (some 0)

/-- The message carrying a contract call, as `xcm::transact` builds it. -/
def transact (location : ContractLocation) (call : ContractCall) (gasLimit : ℕ) :
    Except DispatchError Message := do
  let input := call.selector ++ cfg.abiEncode call.tokens
  ensure (input.length ≤ maxEthereumXcmInputSize) .maxEthereumXcmInputSizeExceeded
  let message : Message := ⟨location.paraId, location.address, input, gasLimit⟩
  ensure (cfg.weighs message = true) .weighingFailure
  .ok message

/-- The pallet's error for a refusal of the XCM sender. -/
def SendError.toError : SendError → Error
  | .fees => .feesNotMet
  | .notApplicable => .unreachable
  | .other => .sendFailure

end TellorPallet
