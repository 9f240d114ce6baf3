import TellorPallet.Pallet.Types

/-!
# Calls to the controller contracts

The calls the pallet makes on the registry and governance contracts of the controller chain: a
function selector followed by ABI tokens. The ABI encoder itself is a library outside the pallet;
only the tokens handed to it are fixed here, and the pallet's own encoding of XCM junctions.
-/

namespace TellorPallet

/-- ABI tokens. -/
inductive Token where
  | uint (value : ℕ)
  | fixedBytes (bytes : Bytes)
  | bytes (bytes : Bytes)
  | address (address : Address)
  | tuple (fields : List Token)
  | array (items : List Token)
deriving Repr

/-- The `width` bytes of a natural, most significant first. -/
def beBytes (width n : ℕ) : Bytes :=
  (List.range width).map fun i ↦ UInt8.ofNat (n / 256 ^ (width - 1 - i))

/-- The `width` bytes of a natural, least significant first. -/
def leBytes (width n : ℕ) : Bytes :=
  (List.range width).map fun i ↦ UInt8.ofNat (n / 256 ^ i)

def hashBytes (hash : H256) : Bytes := beBytes 32 hash.val

/-- A function selector and the tokens it is called with. -/
structure ContractCall where
  selector : Bytes
  tokens : List Token
deriving Repr

/-! ## Governance contract -/

def beginParachainDisputeCall (queryId : QueryId) (timestamp : ℕ) (value : Value)
    (disputedReporter disputeInitiator : Address) (slashAmount : ℕ) : ContractCall where
  selector := [29, 93, 54, 159]
  tokens := [.fixedBytes (hashBytes queryId), .uint timestamp, .bytes value,
    .address disputedReporter, .address disputeInitiator, .uint slashAmount]

def voteCall (disputeId : DisputeId) (users reporters : Tally) : ContractCall where
  selector := [61, 181, 167, 166]
  tokens := [.fixedBytes (hashBytes disputeId), .uint users.doesSupport, .uint users.against,
    .uint users.invalidQuery, .uint reporters.doesSupport, .uint reporters.against,
    .uint reporters.invalidQuery]

/-! ## Registry contract -/

inductive NetworkId where
  | byGenesis (id : H256)
  | byFork (blockNumber : ℕ) (blockHash : H256)
  | polkadot
  | kusama
  | westend
  | rococo
  | wococo
  | ethereum (chainId : ℕ)
  | bitcoinCore
  | bitcoinCash
deriving DecidableEq, Repr

inductive Junction where
  | parachain (paraId : ℕ)
  | accountId32 (network : Option NetworkId) (id : H256)
  | accountIndex64 (network : Option NetworkId) (index : ℕ)
  | accountKey20 (network : Option NetworkId) (key : H160)
  | palletInstance (index : ℕ)
  | generalIndex (index : ℕ)
  | generalKey (length : ℕ) (data : H256)
  | onlyChild
  | plurality
  | globalConsensus (network : NetworkId)
deriving DecidableEq, Repr

/-- The SCALE compact encoding of a 64-bit natural. -/
def scaleCompact (n : ℕ) : Bytes :=
  if n < 2 ^ 6 then leBytes 1 (4 * n)
  else if n < 2 ^ 14 then leBytes 2 (4 * n + 1)
  else if n < 2 ^ 30 then leBytes 4 (4 * n + 2)
  else
    let width := max 4 (Nat.log 256 n + 1)
    UInt8.ofNat (4 * (width - 4) + 3) :: leBytes width n

/-- The SCALE encoding of an optional network, which XCM derives for its own types. -/
def scaleNetwork : Option NetworkId → Bytes
  | none => [0]
  | some (.byGenesis id) => 1 :: 0 :: hashBytes id
  | some (.byFork blockNumber blockHash) => 1 :: 1 :: leBytes 8 blockNumber ++ hashBytes blockHash
  | some .polkadot => [1, 2]
  | some .kusama => [1, 3]
  | some .westend => [1, 4]
  | some .rococo => [1, 5]
  | some .wococo => [1, 6]
  | some (.ethereum chainId) => 1 :: 7 :: scaleCompact chainId
  | some .bitcoinCore => [1, 8]
  | some .bitcoinCash => [1, 9]

def encodeNetworkId : Option NetworkId → Bytes
  | none => [0]
  | some (.byGenesis id) => 1 :: hashBytes id
  | some .polkadot => [2, 2]
  | some .kusama => [3, 3]
  | some (.byFork blockNumber blockHash) => 4 :: 1 :: beBytes 8 blockNumber ++ hashBytes blockHash
  | some .westend => [5, 4]
  | some .rococo => [6, 5]
  | some .wococo => [7, 6]
  | some (.ethereum chainId) => 8 :: 7 :: beBytes 8 chainId
  | some .bitcoinCore => [9, 8]
  | some .bitcoinCash => [10, 9]

/-- `none` on a plurality, which the source declares unreachable. -/
def encodeJunction : Junction → Option Bytes
  | .parachain paraId => some (0 :: beBytes 4 paraId)
  | .accountId32 network id => some (1 :: hashBytes id ++ encodeNetworkId network)
  | .accountIndex64 network index => some (2 :: beBytes 8 index ++ encodeNetworkId network)
  | .accountKey20 network key => some (3 :: beBytes 20 key.val ++ scaleNetwork network)
  | .palletInstance index => some (4 :: beBytes 1 index)
  | .generalIndex index => some (5 :: beBytes 16 index)
  | .generalKey length data => some (6 :: UInt8.ofNat length :: hashBytes data)
  | .onlyChild => some [7]
  | .globalConsensus network => some (9 :: encodeNetworkId (some network))
  | .plurality => none

structure Weights where
  reportStakeDeposited : ℕ
  reportStakingWithdrawRequest : ℕ
  reportStakeWithdrawn : ℕ
  reportVoteTallied : ℕ
  reportVoteExecuted : ℕ
  reportSlash : ℕ
deriving DecidableEq, Repr

def registerCall (paraId palletIndex weightToFee parents : ℕ) (interior : List Bytes)
    (weights : Weights) : ContractCall where
  selector := [96, 114, 55, 127]
  tokens := [.uint paraId, .uint palletIndex, .uint weightToFee,
    .tuple [.uint parents, .array (interior.map .bytes)],
    .tuple [.uint weights.reportStakeDeposited, .uint weights.reportStakingWithdrawRequest,
      .uint weights.reportStakeWithdrawn, .uint weights.reportVoteTallied,
      .uint weights.reportVoteExecuted, .uint weights.reportSlash]]

/-! ## Gas limits -/

def gasBeginParachainDispute : ℕ := 600000
def gasRegister : ℕ := 400000
def gasVote : ℕ := 150000

end TellorPallet
