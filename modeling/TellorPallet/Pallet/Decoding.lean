import TellorPallet.Pallet.Config

/-!
# Decoding reported values

A reported value is a number in big-endian bytes. `BytesToU256` reads it with checked arithmetic: it
returns the number when a word of 256 bits holds it, and nothing otherwise.
-/

namespace TellorPallet

/-- The number with the given big-endian bytes. -/
def ofBigEndian (bytes : Bytes) : ℕ := Nat.ofDigits 256 (bytes.reverse.map UInt8.toNat)

/-- The number read byte by byte. -/
theorem ofBigEndian_eq_foldl (bytes : Bytes) :
    ofBigEndian bytes = bytes.foldl (fun number byte ↦ number * 256 + byte.toNat) 0 := by
  rw [ofBigEndian, Nat.ofDigits_eq_foldr, List.foldr_map, List.foldr_reverse]
  congr 1
  funext number byte
  rw [Nat.cast_id, Nat.mul_comm, Nat.add_comm]

/-- Reading on only adds to a number. -/
theorem le_foldl_bytes (bytes : Bytes) (number : ℕ) :
    number ≤ bytes.foldl (fun number byte ↦ number * 256 + byte.toNat) number := by
  induction bytes generalizing number with
  | nil => exact le_rfl
  | cons byte rest ih =>
    have hfirst : number ≤ number * 256 + byte.toNat := by omega
    exact hfirst.trans (ih _)

/-- What `BytesToU256` makes of one more byte. -/
def readByte (number : Option ℕ) (byte : UInt8) : Option ℕ :=
  (number.bind fun n ↦ Checked.mul u256Max n 256).bind fun n ↦ Checked.add u256Max n byte.toNat

theorem readByte_some (number : ℕ) (byte : UInt8) : readByte (some number) byte =
    if number * 256 + byte.toNat ≤ u256Max then some (number * 256 + byte.toNat) else none := by
  unfold readByte Checked.mul Checked.add
  rw [Option.bind_some]
  split
  · rfl
  · next hmul =>
    have hsum : ¬number * 256 + byte.toNat ≤ u256Max :=
      fun hsum ↦ hmul ((Nat.le_add_right _ _).trans hsum)
    rw [if_neg hsum]
    rfl

theorem foldl_readByte_none (bytes : Bytes) : bytes.foldl readByte none = none := by
  induction bytes with
  | nil => rfl
  | cons byte rest ih => exact ih

theorem foldl_readByte_eq_some {bytes : Bytes} {number n : ℕ} (h : number ≤ u256Max) :
    bytes.foldl readByte (some number) = some n ↔
      bytes.foldl (fun number byte ↦ number * 256 + byte.toNat) number = n ∧ n ≤ u256Max := by
  induction bytes generalizing number with
  | nil =>
    rw [List.foldl_nil, List.foldl_nil, Option.some_inj]
    constructor
    · rintro rfl
      exact ⟨rfl, h⟩
    · exact And.left
  | cons byte rest ih =>
    rw [List.foldl_cons, List.foldl_cons, readByte_some]
    split
    · next hfits => exact ih hfits
    · next hlarge =>
      rw [foldl_readByte_none]
      constructor
      · exact nofun
      · rintro ⟨rfl, hle⟩
        exact absurd ((le_foldl_bytes rest _).trans hle) hlarge

/-- `BytesToU256` returns the number whose bytes it reads, when it fits. -/
theorem bytesToU256_eq_some {bytes : Bytes} {n : ℕ} :
    bytesToU256 bytes = some n ↔ ofBigEndian bytes = n ∧ n ≤ u256Max := by
  rw [ofBigEndian_eq_foldl]
  exact foldl_readByte_eq_some (Nat.zero_le _)

theorem bytesToU256_eq_none {bytes : Bytes} :
    bytesToU256 bytes = none ↔ u256Max < ofBigEndian bytes := by
  rw [Option.eq_none_iff_forall_ne_some]
  constructor
  · intro h
    exact not_le.mp fun hle ↦ h _ (bytesToU256_eq_some.mpr ⟨rfl, hle⟩)
  · intro h n hn
    obtain ⟨rfl, hle⟩ := bytesToU256_eq_some.mp hn
    exact absurd hle (not_le.mpr h)

theorem le_u256Max_iff {n : ℕ} : n ≤ u256Max ↔ n < 2 ^ 256 := by
  have hmax : u256Max + 1 = 2 ^ 256 := by decide
  rw [← hmax]
  exact Nat.lt_succ_iff.symm

/-! ## Bytes of a number -/

theorem ofBigEndian_append (bytes rest : Bytes) :
    ofBigEndian (bytes ++ rest) = ofBigEndian bytes * 256 ^ rest.length + ofBigEndian rest := by
  rw [ofBigEndian, List.reverse_append, List.map_append, Nat.ofDigits_append, List.length_map,
    List.length_reverse, Nat.add_comm, Nat.mul_comm]
  rfl

theorem ofBigEndian_replicate_zero (count : ℕ) : ofBigEndian (List.replicate count 0) = 0 := by
  rw [ofBigEndian, List.reverse_replicate, List.map_replicate]
  exact Nat.ofDigits_replicate_zero

@[simp]
theorem beBytes_length (width n : ℕ) : (beBytes width n).length = width := by
  rw [beBytes, List.length_map, List.length_range]

/-- The last byte is the number's remainder, those before it are the bytes of its quotient. -/
theorem beBytes_succ (width n : ℕ) :
    beBytes (width + 1) n = beBytes width (n / 256) ++ [UInt8.ofNat n] := by
  unfold beBytes
  rw [List.range_succ, List.map_append, List.map_singleton, Nat.add_sub_cancel, Nat.sub_self,
    Nat.pow_zero, Nat.div_one]
  congr 1
  apply List.map_congr_left
  intro i hi
  rw [List.mem_range] at hi
  have hexponent : width - i = width - 1 - i + 1 := by omega
  rw [hexponent, Nat.pow_succ', Nat.div_div_eq_div_mul]

/-- As many bytes as there are hold the number up to multiples of their range. -/
theorem ofBigEndian_beBytes (width n : ℕ) : ofBigEndian (beBytes width n) = n % 256 ^ width := by
  induction width generalizing n with
  | zero => rw [Nat.pow_zero, Nat.mod_one]; rfl
  | succ width ih =>
    have hbyte : ofBigEndian [UInt8.ofNat n] = n % 256 := by
      rw [ofBigEndian, List.reverse_singleton, List.map_singleton, Nat.ofDigits_singleton,
        UInt8.toNat_ofNat']
    rw [beBytes_succ, ofBigEndian_append, ih, hbyte, List.length_singleton, Nat.pow_one,
      Nat.pow_succ', Nat.mod_mul, Nat.mul_comm, Nat.add_comm]

theorem ofBigEndian_lt (bytes : Bytes) : ofBigEndian bytes < 256 ^ bytes.length := by
  have hdigits : ∀ digit ∈ bytes.reverse.map UInt8.toNat, digit < 256 := by
    intro digit hdigit
    obtain ⟨byte, -, rfl⟩ := List.mem_map.mp hdigit
    exact byte.toNat_lt
  have hlt := Nat.ofDigits_lt_base_pow_length (by norm_num) hdigits
  rwa [List.length_map, List.length_reverse] at hlt

/-- A number written in as many bytes as it was read from has the same bytes. -/
theorem beBytes_ofBigEndian (bytes : Bytes) : beBytes bytes.length (ofBigEndian bytes) = bytes := by
  induction bytes using List.reverseRecOn with
  | nil => rfl
  | append_singleton bytes byte ih =>
    have hbyte : ofBigEndian [byte] = byte.toNat := Nat.ofDigits_singleton
    have hlt := byte.toNat_lt
    have hquotient : (ofBigEndian bytes * 256 + byte.toNat) / 256 = ofBigEndian bytes := by omega
    have hlast : UInt8.ofNat (ofBigEndian bytes * 256 + byte.toNat) = byte := by
      apply UInt8.toNat_inj.mp
      rw [UInt8.toNat_ofNat']
      omega
    rw [ofBigEndian_append, hbyte, List.length_append, List.length_singleton, Nat.pow_one, beBytes_succ,
      hquotient, hlast, ih]

/-- `BytesToU256` reads big-endian bytes of any length: it returns their number exactly when the
number is below `2 ^ 256`. It reads back the 32 bytes of every such number, and zero bytes in front
change nothing. -/
theorem bytesToU256_bigEndian :
    (∀ bytes, bytesToU256 bytes =
      if ofBigEndian bytes < 2 ^ 256 then some (ofBigEndian bytes) else none) ∧
    (∀ n, n < 2 ^ 256 → bytesToU256 (beBytes 32 n) = some n) ∧
    ∀ count bytes, bytesToU256 (List.replicate count 0 ++ bytes) = bytesToU256 bytes := by
  have hread (bytes : Bytes) : bytesToU256 bytes =
      if ofBigEndian bytes < 2 ^ 256 then some (ofBigEndian bytes) else none := by
    split
    · next hfits => exact bytesToU256_eq_some.mpr ⟨rfl, le_u256Max_iff.mpr hfits⟩
    · next hlarge => exact bytesToU256_eq_none.mpr (not_le.mp fun hle ↦ hlarge (le_u256Max_iff.mp hle))
  refine ⟨hread, fun n hn ↦ ?_, fun count bytes ↦ ?_⟩
  · have hvalue : ofBigEndian (beBytes 32 n) = n := by
      rw [ofBigEndian_beBytes]
      exact Nat.mod_eq_of_lt hn
    rw [hread, hvalue, if_pos hn]
  · have hvalue : ofBigEndian (List.replicate count 0 ++ bytes) = ofBigEndian bytes := by
      rw [ofBigEndian_append, ofBigEndian_replicate_zero, Nat.zero_mul, Nat.zero_add]
    rw [hread, hread, hvalue]

end TellorPallet
