import TellorPallet.Pallet.Decoding

/-!
# The format of a junction

The controller chain takes a junction as a tag byte, the junction's fields at fixed width with the
most significant byte first, and for an account or a global consensus the network it is on. The
format and its decoder are given here apart from the pallet's encoder, which follows the format for
every junction except the 20-byte account on a network.
-/

namespace TellorPallet

/-! ## Fields of fixed width -/

/-- The number in the first bytes of the input, with the bytes after them. -/
def readUint (width : ℕ) (input : Bytes) : Option (ℕ × Bytes) :=
  if width ≤ input.length then some (ofBigEndian (input.take width), input.drop width) else none

theorem readUint_eq_some {width : ℕ} {input : Bytes} {n : ℕ} {rest : Bytes} :
    readUint width input = some (n, rest) ↔
      n < 2 ^ (8 * width) ∧ input = beBytes width n ++ rest := by
  have hrange : 2 ^ (8 * width) = 256 ^ width := Nat.pow_mul 2 8 width
  unfold readUint
  rw [hrange]
  constructor
  · intro h
    split at h
    · next hlength =>
      cases h
      have hwidth : (input.take width).length = width := List.length_take_of_le hlength
      have hbytes := beBytes_ofBigEndian (input.take width)
      have hbound := ofBigEndian_lt (input.take width)
      rw [hwidth] at hbytes hbound
      rw [hbytes, List.take_append_drop]
      exact ⟨hbound, rfl⟩
    · cases h
  · rintro ⟨hbound, rfl⟩
    have hlength : width ≤ (beBytes width n ++ rest).length := by
      rw [List.length_append, beBytes_length]
      exact Nat.le_add_right _ _
    rw [if_pos hlength, List.take_left' (beBytes_length width n),
      List.drop_left' (beBytes_length width n), ofBigEndian_beBytes, Nat.mod_eq_of_lt hbound]

/-- A hash, key or account in the first bytes of the input. -/
def readFin (width bound : ℕ) (input : Bytes) : Option (Fin bound × Bytes) :=
  (readUint width input).bind fun (n, rest) ↦
    if h : n < bound then some (⟨n, h⟩, rest) else none

theorem readFin_eq_some {width bound : ℕ} (hbound : 2 ^ (8 * width) = bound)
    {input : Bytes} {x : Fin bound} {rest : Bytes} :
    readFin width bound input = some (x, rest) ↔ input = beBytes width x.val ++ rest := by
  unfold readFin
  rw [Option.bind_eq_some_iff]
  constructor
  · rintro ⟨⟨n, rest⟩, hread, hfound⟩
    obtain ⟨hn, hinput⟩ := readUint_eq_some.mp hread
    rw [hbound] at hn
    cases (dif_pos hn).symm.trans hfound
    exact hinput
  · rintro rfl
    exact ⟨(x.val, rest), readUint_eq_some.mpr ⟨hbound ▸ x.isLt, rfl⟩, dif_pos x.isLt⟩

def readHash : Bytes → Option (H256 × Bytes) := readFin 32 (2 ^ 256)

def readKey : Bytes → Option (H160 × Bytes) := readFin 20 (2 ^ 160)

theorem readHash_eq_some {input : Bytes} {hash : H256} {rest : Bytes} :
    readHash input = some (hash, rest) ↔ input = hashBytes hash ++ rest :=
  readFin_eq_some rfl

theorem readKey_eq_some {input : Bytes} {key : H160} {rest : Bytes} :
    readKey input = some (key, rest) ↔ input = beBytes 20 key.val ++ rest :=
  readFin_eq_some rfl

/-! ## Networks -/

/-- The numbers of a network fit their types. -/
def NetworkFits : Option NetworkId → Prop
  | some (.byFork blockNumber _) => blockNumber < 2 ^ 64
  | some (.ethereum chainId) => chainId < 2 ^ 64
  | _ => True

/-- The decoder of a network in front of other bytes. -/
def readNetwork : Bytes → Option (Option NetworkId × Bytes)
  | 0 :: rest => some (none, rest)
  | 1 :: rest => (readHash rest).map fun (id, rest) ↦ (some (.byGenesis id), rest)
  | 2 :: 2 :: rest => some (some .polkadot, rest)
  | 3 :: 3 :: rest => some (some .kusama, rest)
  | 4 :: 1 :: rest => do
    let (blockNumber, rest) ← readUint 8 rest
    let (blockHash, rest) ← readHash rest
    some (some (.byFork blockNumber blockHash), rest)
  | 5 :: 4 :: rest => some (some .westend, rest)
  | 6 :: 5 :: rest => some (some .rococo, rest)
  | 7 :: 6 :: rest => some (some .wococo, rest)
  | 8 :: 7 :: rest => (readUint 8 rest).map fun (chainId, rest) ↦ (some (.ethereum chainId), rest)
  | 9 :: 8 :: rest => some (some .bitcoinCore, rest)
  | 10 :: 9 :: rest => some (some .bitcoinCash, rest)
  | _ => none

/-- The decoder undoes `encode_network_id`, whatever follows. -/
theorem readNetwork_encode {network : Option NetworkId} (hfits : NetworkFits network) (rest : Bytes) :
    readNetwork (encodeNetworkId network ++ rest) = some (network, rest) := by
  rcases network with _ | network
  · rfl
  · cases network
    case byGenesis id =>
      have hid : readHash (hashBytes id ++ rest) = some (id, rest) := readHash_eq_some.mpr rfl
      rw [encodeNetworkId, List.cons_append, readNetwork, hid, Option.map_some]
    case byFork blockNumber blockHash =>
      have hnumber : readUint 8 (beBytes 8 blockNumber ++ (hashBytes blockHash ++ rest)) =
          some (blockNumber, hashBytes blockHash ++ rest) := readUint_eq_some.mpr ⟨hfits, rfl⟩
      have hhash : readHash (hashBytes blockHash ++ rest) = some (blockHash, rest) :=
        readHash_eq_some.mpr rfl
      simp only [encodeNetworkId, List.cons_append, List.append_assoc, readNetwork, hnumber, hhash,
        Option.bind_eq_bind, Option.bind_some]
    case ethereum chainId =>
      have hchain : readUint 8 (beBytes 8 chainId ++ rest) = some (chainId, rest) :=
        readUint_eq_some.mpr ⟨hfits, rfl⟩
      rw [encodeNetworkId, List.cons_append, List.cons_append, readNetwork, hchain, Option.map_some]
    all_goals rfl

/-- What the decoder accepts starts with the encoding of the network it returns. -/
theorem readNetwork_eq_some {input : Bytes} {network : Option NetworkId} {rest : Bytes} :
    readNetwork input = some (network, rest) ↔
      NetworkFits network ∧ input = encodeNetworkId network ++ rest := by
  constructor
  · intro h
    unfold readNetwork at h
    split at h <;>
      simp only [Option.map_eq_some_iff, Option.bind_eq_bind, Option.bind_eq_some_iff, Option.some_inj,
        Prod.exists, Prod.mk.injEq, reduceCtorEq, readHash_eq_some, readUint_eq_some] at h
    case h_2 =>
      obtain ⟨id, _, rfl, rfl, rfl⟩ := h
      exact ⟨trivial, rfl⟩
    case h_5 =>
      obtain ⟨blockNumber, _, ⟨hfits, rfl⟩, blockHash, _, rfl, rfl, rfl⟩ := h
      refine ⟨hfits, ?_⟩
      simp only [encodeNetworkId, List.cons_append, List.append_assoc]
    case h_9 =>
      obtain ⟨chainId, _, ⟨hfits, rfl⟩, rfl, rfl⟩ := h
      exact ⟨hfits, rfl⟩
    all_goals
      obtain ⟨rfl, rfl⟩ := h
      exact ⟨trivial, rfl⟩
  · rintro ⟨hfits, rfl⟩
    exact readNetwork_encode hfits rest

/-! ## Junctions -/

/-- The numbers of a junction fit their types. -/
def Junction.Fits : Junction → Prop
  | .parachain paraId => paraId < 2 ^ 32
  | .accountId32 network _ => NetworkFits network
  | .accountIndex64 network index => index < 2 ^ 64 ∧ NetworkFits network
  | .accountKey20 network _ => NetworkFits network
  | .palletInstance index => index < 2 ^ 8
  | .generalIndex index => index < 2 ^ 128
  | .generalKey length _ => length < 2 ^ 8
  | .globalConsensus network => NetworkFits (some network)
  | .onlyChild | .plurality => True

/-- The format of a junction, which has none for a plurality. -/
def formatJunction : Junction → Option Bytes
  | .parachain paraId => some (0 :: beBytes 4 paraId)
  | .accountId32 network id => some (1 :: hashBytes id ++ encodeNetworkId network)
  | .accountIndex64 network index => some (2 :: beBytes 8 index ++ encodeNetworkId network)
  | .accountKey20 network key => some (3 :: beBytes 20 key.val ++ encodeNetworkId network)
  | .palletInstance index => some (4 :: beBytes 1 index)
  | .generalIndex index => some (5 :: beBytes 16 index)
  | .generalKey length data => some (6 :: beBytes 1 length ++ hashBytes data)
  | .onlyChild => some [7]
  | .plurality => none
  | .globalConsensus network => some (9 :: encodeNetworkId (some network))

/-- The decoder of a junction in front of other bytes. -/
def readJunction : Bytes → Option (Junction × Bytes)
  | 0 :: rest => (readUint 4 rest).map fun (paraId, rest) ↦ (.parachain paraId, rest)
  | 1 :: rest => do
    let (id, rest) ← readHash rest
    let (network, rest) ← readNetwork rest
    some (.accountId32 network id, rest)
  | 2 :: rest => do
    let (index, rest) ← readUint 8 rest
    let (network, rest) ← readNetwork rest
    some (.accountIndex64 network index, rest)
  | 3 :: rest => do
    let (key, rest) ← readKey rest
    let (network, rest) ← readNetwork rest
    some (.accountKey20 network key, rest)
  | 4 :: rest => (readUint 1 rest).map fun (index, rest) ↦ (.palletInstance index, rest)
  | 5 :: rest => (readUint 16 rest).map fun (index, rest) ↦ (.generalIndex index, rest)
  | 6 :: rest => do
    let (length, rest) ← readUint 1 rest
    let (data, rest) ← readHash rest
    some (.generalKey length data, rest)
  | 7 :: rest => some (.onlyChild, rest)
  | 9 :: rest => do
    let (network, rest) ← readNetwork rest
    let network ← network
    some (.globalConsensus network, rest)
  | _ => none

/-- The decoder of a junction, of which nothing may be left over. -/
def decodeJunction (input : Bytes) : Option Junction :=
  (readJunction input).bind fun (junction, rest) ↦ if rest = [] then some junction else none

/-- The decoder undoes the format, whatever follows. -/
theorem readJunction_format {junction : Junction} (hfits : junction.Fits) {bytes : Bytes}
    (hformat : formatJunction junction = some bytes) (rest : Bytes) :
    readJunction (bytes ++ rest) = some (junction, rest) := by
  cases junction <;> cases hformat
  case parachain paraId =>
    have hid : readUint 4 (beBytes 4 paraId ++ rest) = some (paraId, rest) :=
      readUint_eq_some.mpr ⟨hfits, rfl⟩
    rw [List.cons_append, readJunction, hid, Option.map_some]
  case accountId32 network id =>
    have hid : readHash (hashBytes id ++ (encodeNetworkId network ++ rest)) =
      some (id, encodeNetworkId network ++ rest) := readHash_eq_some.mpr rfl
    simp only [List.cons_append, List.append_assoc, readJunction, hid, readNetwork_encode hfits,
      Option.bind_eq_bind, Option.bind_some]
  case accountIndex64 network index =>
    have hindex : readUint 8 (beBytes 8 index ++ (encodeNetworkId network ++ rest)) =
      some (index, encodeNetworkId network ++ rest) := readUint_eq_some.mpr ⟨hfits.1, rfl⟩
    simp only [List.cons_append, List.append_assoc, readJunction, hindex, readNetwork_encode hfits.2,
      Option.bind_eq_bind, Option.bind_some]
  case accountKey20 network key =>
    have hkey : readKey (beBytes 20 key.val ++ (encodeNetworkId network ++ rest)) =
      some (key, encodeNetworkId network ++ rest) := readKey_eq_some.mpr rfl
    simp only [List.cons_append, List.append_assoc, readJunction, hkey, readNetwork_encode hfits,
      Option.bind_eq_bind, Option.bind_some]
  case palletInstance index =>
    have hindex : readUint 1 (beBytes 1 index ++ rest) = some (index, rest) :=
      readUint_eq_some.mpr ⟨hfits, rfl⟩
    rw [List.cons_append, readJunction, hindex, Option.map_some]
  case generalIndex index =>
    have hindex : readUint 16 (beBytes 16 index ++ rest) = some (index, rest) :=
      readUint_eq_some.mpr ⟨hfits, rfl⟩
    rw [List.cons_append, readJunction, hindex, Option.map_some]
  case generalKey length data =>
    have hlength : readUint 1 (beBytes 1 length ++ (hashBytes data ++ rest)) =
      some (length, hashBytes data ++ rest) := readUint_eq_some.mpr ⟨hfits, rfl⟩
    have hdata : readHash (hashBytes data ++ rest) = some (data, rest) := readHash_eq_some.mpr rfl
    simp only [List.cons_append, List.append_assoc, readJunction, hlength, hdata, Option.bind_eq_bind,
      Option.bind_some]
  case globalConsensus network =>
    simp only [List.cons_append, readJunction, readNetwork_encode hfits, Option.bind_eq_bind,
      Option.bind_some]
  case onlyChild => rfl

/-- What the decoder accepts starts with the format of the junction it returns. -/
theorem format_of_readJunction {input : Bytes} {junction : Junction} {rest : Bytes}
    (h : readJunction input = some (junction, rest)) :
    junction.Fits ∧ ∃ bytes, formatJunction junction = some bytes ∧ input = bytes ++ rest := by
  unfold readJunction at h
  split at h <;>
    simp only [Option.map_eq_some_iff, Option.bind_eq_bind, Option.bind_eq_some_iff, Option.some_inj,
      Prod.exists, Prod.mk.injEq, reduceCtorEq, readHash_eq_some, readKey_eq_some, readUint_eq_some,
      readNetwork_eq_some] at h
  · obtain ⟨paraId, _, ⟨hfits, rfl⟩, rfl, rfl⟩ := h
    exact ⟨hfits, _, rfl, rfl⟩
  · obtain ⟨id, _, rfl, network, _, ⟨hfits, rfl⟩, rfl, rfl⟩ := h
    exact ⟨hfits, _, rfl, by simp only [List.cons_append, List.append_assoc]⟩
  · obtain ⟨index, _, ⟨hindex, rfl⟩, network, _, ⟨hfits, rfl⟩, rfl, rfl⟩ := h
    exact ⟨⟨hindex, hfits⟩, _, rfl, by simp only [List.cons_append, List.append_assoc]⟩
  · obtain ⟨key, _, rfl, network, _, ⟨hfits, rfl⟩, rfl, rfl⟩ := h
    exact ⟨hfits, _, rfl, by simp only [List.cons_append, List.append_assoc]⟩
  · obtain ⟨index, _, ⟨hfits, rfl⟩, rfl, rfl⟩ := h
    exact ⟨hfits, _, rfl, rfl⟩
  · obtain ⟨index, _, ⟨hfits, rfl⟩, rfl, rfl⟩ := h
    exact ⟨hfits, _, rfl, rfl⟩
  · obtain ⟨length, _, ⟨hfits, rfl⟩, data, _, rfl, rfl, rfl⟩ := h
    exact ⟨hfits, _, rfl, by simp only [List.cons_append, List.append_assoc]⟩
  · obtain ⟨rfl, rfl⟩ := h
    exact ⟨trivial, _, rfl, rfl⟩
  · obtain ⟨_, _, ⟨hfits, rfl⟩, network, rfl, rfl, rfl⟩ := h
    exact ⟨hfits, _, rfl, rfl⟩

/-- The decoder accepts the format of every junction whose numbers fit, and nothing else. -/
theorem decodeJunction_eq_some {input : Bytes} {junction : Junction} :
    decodeJunction input = some junction ↔
      junction.Fits ∧ formatJunction junction = some input := by
  unfold decodeJunction
  rw [Option.bind_eq_some_iff]
  constructor
  · rintro ⟨⟨found, rest⟩, hread, h⟩
    dsimp only at h
    split at h
    · next hempty =>
      cases h
      obtain ⟨hfits, bytes, hformat, hinput⟩ := format_of_readJunction hread
      rw [hinput, hempty, List.append_nil]
      exact ⟨hfits, hformat⟩
    · cases h
  · rintro ⟨hfits, hformat⟩
    have hread := readJunction_format hfits hformat []
    rw [List.append_nil] at hread
    exact ⟨(junction, []), hread, rfl⟩

/-! ## The pallet's encoder -/

/-- The junction is a 20-byte account on a network. -/
def Junction.IsKeyOnNetwork : Junction → Prop
  | .accountKey20 (some _) _ => True
  | _ => False

/-- The derived encoding of a network is never the format's. -/
theorem scaleNetwork_ne (network : NetworkId) :
    scaleNetwork (some network) ≠ encodeNetworkId (some network) := by
  intro heq
  cases network
  case byGenesis id =>
    -- both start with a one, but the derived encoding has the variant's index behind it
    have hlength := congrArg List.length heq
    simp only [scaleNetwork, encodeNetworkId, hashBytes, List.length_cons, beBytes_length] at hlength
    omega
  all_goals
    have hhead := congrArg List.head? heq
    simp [scaleNetwork, encodeNetworkId] at hhead

/-- `encode_junction` follows the format except for a 20-byte account on a network. -/
theorem encodeJunction_eq_format_iff {junction : Junction} :
    encodeJunction junction = formatJunction junction ↔ ¬junction.IsKeyOnNetwork := by
  cases junction
  case accountKey20 network key =>
    cases network with
    | none => exact ⟨fun _ ↦ id, fun _ ↦ rfl⟩
    | some network =>
      constructor
      · intro h
        have hnetwork := List.append_cancel_left (Option.some.inj h)
        exact absurd hnetwork (scaleNetwork_ne network)
      · intro h
        exact absurd trivial h
  case generalKey length data =>
    have hlength : beBytes 1 length = [UInt8.ofNat length] := beBytes_succ 0 length
    rw [encodeJunction, formatJunction, hlength]
    exact ⟨fun _ ↦ id, fun _ ↦ rfl⟩
  all_goals exact ⟨fun _ ↦ id, fun _ ↦ rfl⟩

/-- For every junction but a plurality, `encode_junction` writes the format, and the format's decoder
returns the junction, exactly when the junction is not a 20-byte account on a network. -/
theorem decodeJunction_encodeJunction_iff (junction : Junction) (hfits : junction.Fits)
    (hplurality : junction ≠ .plurality) :
    ((encodeJunction junction).bind decodeJunction = some junction ↔ ¬junction.IsKeyOnNetwork) ∧
    (encodeJunction junction = formatJunction junction ↔ ¬junction.IsKeyOnNetwork) := by
  refine ⟨?_, encodeJunction_eq_format_iff⟩
  rw [← encodeJunction_eq_format_iff, Option.bind_eq_some_iff]
  simp only [decodeJunction_eq_some]
  constructor
  · rintro ⟨bytes, hencode, -, hformat⟩
    rw [hencode, hformat]
  · intro hencode
    have hsome : (encodeJunction junction).isSome := by
      cases junction
      case plurality => exact absurd rfl hplurality
      all_goals rfl
    obtain ⟨bytes, hbytes⟩ := Option.isSome_iff_exists.mp hsome
    exact ⟨bytes, hbytes, hfits, hencode ▸ hbytes⟩

/-- For a 32-byte account on Ethereum. -/
theorem decodeJunction_encodeJunction_accountId32 :
    (encodeJunction (.accountId32 (some (.ethereum 1284)) 7)).bind decodeJunction =
      some (.accountId32 (some (.ethereum 1284)) 7) :=
  (decodeJunction_encodeJunction_iff (.accountId32 (some (.ethereum 1284)) 7)
    (by norm_num [Junction.Fits, NetworkFits]) nofun).1.mpr nofun

/-- A 20-byte account on Polkadot is not read back: the format has the network as the bytes 2 and 2, the
pallet writes 1 and 2. -/
theorem encodeJunction_accountKey20 :
    Junction.Fits (.accountKey20 (some .polkadot) 7) ∧
      (encodeJunction (.accountKey20 (some .polkadot) 7)).bind decodeJunction = none ∧
      encodeJunction (.accountKey20 (some .polkadot) 7) = some (3 :: beBytes 20 7 ++ [1, 2]) ∧
      encodeNetworkId (some .polkadot) = [2, 2] :=
  ⟨trivial, by decide +kernel⟩

end TellorPallet
