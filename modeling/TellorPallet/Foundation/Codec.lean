import Mathlib.Tactic

/-!
# Prefix codecs

A codec writes a value as bytes and reads a value from the front of its input. Its one law is that it
reads a value, and leaves some bytes over, exactly from the value's own bytes followed by those. So
reading undoes writing, no other bytes are read as the same value, and codecs compose: pairs, values
with a tag, alternatives, restrictions, numbers of fixed width, the compact numbers of the SCALE
format, and sequences with a compact length in front.
-/

/-- A writer and a reader of the values of a type that belong together. -/
structure Codec (α : Type) where
  encode : α → List UInt8
  decode : List UInt8 → Option (α × List UInt8)
  decode_eq_some : ∀ {input : List UInt8} {value : α} {rest : List UInt8},
    decode input = some (value, rest) ↔ input = encode value ++ rest

namespace Codec

variable {α β : Type}

/-- What is written is read back, whatever follows. -/
theorem decode_encode (c : Codec α) (value : α) (rest : List UInt8) :
    c.decode (c.encode value ++ rest) = some (value, rest) :=
  c.decode_eq_some.mpr rfl

/-! ## Combinations -/

/-- Nothing is written. -/
def unit : Codec Unit where
  encode _ := []
  decode input := some ((), input)
  decode_eq_some := by
    intro input value rest
    rw [Option.some_inj, Prod.mk.injEq, List.nil_append]
    exact and_iff_right rfl

/-- One value after the other. -/
def pair (c : Codec α) (d : Codec β) : Codec (α × β) where
  encode value := c.encode value.1 ++ d.encode value.2
  decode input := (c.decode input).bind fun first ↦
    (d.decode first.2).map fun second ↦ ((first.1, second.1), second.2)
  decode_eq_some := by
    intro input value rest
    rw [Option.bind_eq_some_iff, List.append_assoc]
    constructor
    · rintro ⟨⟨left, middle⟩, hfirst, hsecond⟩
      obtain ⟨⟨right, last⟩, hread, hvalue⟩ := Option.map_eq_some_iff.mp hsecond
      cases hvalue
      rw [c.decode_eq_some.mp hfirst]
      exact congrArg (c.encode left ++ ·) (d.decode_eq_some.mp hread)
    · rintro rfl
      refine ⟨_, c.decode_encode _ _, ?_⟩
      rw [d.decode_encode, Option.map_some]

/-- The values of an equivalent type. -/
def map (c : Codec α) (e : α ≃ β) : Codec β where
  encode value := c.encode (e.symm value)
  decode input := (c.decode input).map fun read ↦ (e read.1, read.2)
  decode_eq_some := by
    intro input value rest
    rw [Option.map_eq_some_iff]
    constructor
    · rintro ⟨⟨found, last⟩, hread, hvalue⟩
      cases hvalue
      rw [e.symm_apply_apply]
      exact c.decode_eq_some.mp hread
    · intro h
      exact ⟨_, c.decode_eq_some.mpr h, by rw [e.apply_symm_apply]⟩

/-- A tag byte in front. -/
def tagged (tag : UInt8) (c : Codec α) : Codec α where
  encode value := tag :: c.encode value
  decode
    | [] => none
    | byte :: input => if byte = tag then c.decode input else none
  decode_eq_some := by
    intro input value rest
    cases input with
    | nil => exact ⟨nofun, nofun⟩
    | cons byte input =>
      dsimp only
      rw [List.cons_append, List.cons_eq_cons, ← c.decode_eq_some]
      split
      · next htag => exact (and_iff_right htag).symm
      · next htag => exact ⟨nofun, fun h ↦ absurd h.1 htag⟩

/-- The values with a property. -/
def restrict (c : Codec α) (p : α → Prop) [DecidablePred p] : Codec {value // p value} where
  encode value := c.encode value.val
  decode input := (c.decode input).bind fun read ↦
    if h : p read.1 then some (⟨read.1, h⟩, read.2) else none
  decode_eq_some := by
    intro input value rest
    rw [Option.bind_eq_some_iff]
    constructor
    · rintro ⟨⟨found, last⟩, hread, hvalue⟩
      dsimp only at hvalue
      split at hvalue
      · cases hvalue
        exact c.decode_eq_some.mp hread
      · cases hvalue
    · intro h
      exact ⟨_, c.decode_eq_some.mpr h, dif_pos value.property⟩

/-- No bytes are read by both codecs. -/
def Disjoint (c : Codec α) (d : Codec β) : Prop :=
  ∀ input, (c.decode input).isSome = true → d.decode input = none

/-- A value of either type. -/
def sum (c : Codec α) (d : Codec β) (h : Disjoint c d) : Codec (α ⊕ β) where
  encode := Sum.elim c.encode d.encode
  decode input := ((c.decode input).map fun read ↦ (Sum.inl read.1, read.2)).or
    ((d.decode input).map fun read ↦ (Sum.inr read.1, read.2))
  decode_eq_some := by
    intro input value rest
    cases hleft : c.decode input with
    | some read =>
      have hinput := c.decode_eq_some.mp hleft
      have hright : d.decode input = none := h input (by rw [hleft]; rfl)
      rw [Option.map_some, Option.some_or, Option.some_inj, Prod.mk.injEq]
      cases value with
      | inl value =>
        rw [Sum.inl.injEq, Sum.elim_inl, ← c.decode_eq_some, hleft, Option.some_inj, Prod.ext_iff]
      | inr value =>
        rw [Sum.elim_inr, ← d.decode_eq_some, hright]
        exact ⟨fun hsame ↦ absurd hsame.1 Sum.inl_ne_inr, nofun⟩
    | none =>
      rw [Option.map_none, Option.none_or, Option.map_eq_some_iff]
      cases value with
      | inl value =>
        rw [Sum.elim_inl, ← c.decode_eq_some, hleft]
        constructor
        · rintro ⟨read, -, hread⟩
          exact absurd (Prod.mk.inj hread).1 Sum.inr_ne_inl
        · exact nofun
      | inr value =>
        rw [Sum.elim_inr, ← d.decode_eq_some]
        constructor
        · rintro ⟨⟨found, last⟩, hread, hvalue⟩
          cases hvalue
          exact hread
        · exact fun hread ↦ ⟨_, hread, rfl⟩

theorem disjoint_tagged {tag tag' : UInt8} (h : tag ≠ tag') (c : Codec α) (d : Codec β) :
    Disjoint (tagged tag c) (tagged tag' d) := by
  intro input hread
  cases input with
  | nil => rfl
  | cons byte input =>
    dsimp only [tagged] at hread ⊢
    split at hread
    · next htag => rw [if_neg fun htag' ↦ h (htag.symm.trans htag')]
    · cases hread

/-- Alternatives told apart by a tag byte. -/
def either (tag tag' : UInt8) (h : tag ≠ tag') (c : Codec α) (d : Codec β) : Codec (α ⊕ β) :=
  sum (tagged tag c) (tagged tag' d) (disjoint_tagged h c d)

/-- A value that may be missing. -/
def option (c : Codec α) : Codec (Option α) :=
  (either 1 0 (by decide) c unit).map (Equiv.optionEquivSumPUnit α).symm

/-! ## Sequences -/

/-- A given number of values in a row. -/
def row (c : Codec α) : (count : ℕ) → Codec {items : List α // items.length = count}
  | 0 => unit.map
    { toFun := fun _ ↦ ⟨[], rfl⟩
      invFun := fun _ ↦ ()
      left_inv := fun _ ↦ rfl
      right_inv := fun items ↦ Subtype.ext (List.length_eq_zero_iff.mp items.property).symm }
  | count + 1 => (pair c (row c count)).map
    { toFun := fun items ↦ ⟨items.1 :: items.2.val, congrArg Nat.succ items.2.property⟩
      invFun := fun items ↦ (items.val.head (List.ne_nil_of_length_eq_add_one items.property),
        ⟨items.val.tail, by rw [List.length_tail, items.property, Nat.add_sub_cancel]⟩)
      left_inv := fun _ ↦ rfl
      right_inv := fun items ↦ Subtype.ext (List.cons_head_tail _) }

/-- A value that says how the rest is to be read. -/
def sigma {γ : α → Type} (c : Codec α) (d : (value : α) → Codec (γ value)) :
    Codec (Σ value, γ value) where
  encode value := c.encode value.1 ++ (d value.1).encode value.2
  decode input := (c.decode input).bind fun first ↦
    ((d first.1).decode first.2).map fun second ↦ (⟨first.1, second.1⟩, second.2)
  decode_eq_some := by
    intro input value rest
    rw [Option.bind_eq_some_iff, List.append_assoc]
    constructor
    · rintro ⟨⟨left, middle⟩, hfirst, hsecond⟩
      obtain ⟨⟨right, last⟩, hread, hvalue⟩ := Option.map_eq_some_iff.mp hsecond
      cases hvalue
      rw [c.decode_eq_some.mp hfirst]
      exact congrArg (c.encode left ++ ·) ((d left).decode_eq_some.mp hread)
    · rintro rfl
      refine ⟨_, c.decode_encode _ _, ?_⟩
      dsimp only
      rw [(d value.1).decode_encode, Option.map_some]

/-! ## Numbers -/

/-- The bytes of a number, least significant first. -/
def littleEndian : (width n : ℕ) → List UInt8
  | 0, _ => []
  | width + 1, n => UInt8.ofNat n :: littleEndian width (n / 256)

/-- The number with the given bytes, least significant first. -/
def ofLittleEndian : List UInt8 → ℕ
  | [] => 0
  | byte :: bytes => byte.toNat + 256 * ofLittleEndian bytes

@[simp]
theorem length_littleEndian (width n : ℕ) : (littleEndian width n).length = width := by
  induction width generalizing n with
  | zero => rfl
  | succ width ih => rw [littleEndian, List.length_cons, ih]

theorem ofLittleEndian_littleEndian (width n : ℕ) :
    ofLittleEndian (littleEndian width n) = n % 256 ^ width := by
  induction width generalizing n with
  | zero => rw [Nat.pow_zero, Nat.mod_one]; rfl
  | succ width ih =>
    have hbyte : (UInt8.ofNat n).toNat = n % 256 := UInt8.toNat_ofNat'
    have hrange : 256 ^ (width + 1) = 256 * 256 ^ width := Nat.pow_succ'
    rw [littleEndian, ofLittleEndian, ih, hbyte, hrange, Nat.mod_mul]

theorem ofLittleEndian_lt (bytes : List UInt8) : ofLittleEndian bytes < 256 ^ bytes.length := by
  induction bytes with
  | nil => exact Nat.one_pos
  | cons byte bytes ih =>
    have hbyte := byte.toNat_lt
    rw [ofLittleEndian, List.length_cons, Nat.pow_succ']
    omega

theorem littleEndian_ofLittleEndian (bytes : List UInt8) :
    littleEndian bytes.length (ofLittleEndian bytes) = bytes := by
  induction bytes with
  | nil => rfl
  | cons byte bytes ih =>
    have hbyte := byte.toNat_lt
    have hlow : UInt8.ofNat (byte.toNat + 256 * ofLittleEndian bytes) = byte := by
      apply UInt8.toNat_inj.mp
      rw [UInt8.toNat_ofNat']
      omega
    have hhigh : (byte.toNat + 256 * ofLittleEndian bytes) / 256 = ofLittleEndian bytes := by omega
    rw [List.length_cons, ofLittleEndian, littleEndian, hlow, hhigh, ih]

/-- A number of fixed width, its bytes arranged in some order. -/
def fixed (width : ℕ) (arrange : List UInt8 → List UInt8)
    (hlength : ∀ bytes, (arrange bytes).length = bytes.length)
    (harrange : Function.Involutive arrange) : Codec (Fin (256 ^ width)) where
  encode n := arrange (littleEndian width n.val)
  decode input :=
    if h : (input.take width).length = width then
      some (⟨ofLittleEndian (arrange (input.take width)),
        (ofLittleEndian_lt _).trans_eq (congrArg (256 ^ ·) ((hlength _).trans h))⟩, input.drop width)
    else none
  decode_eq_some := by
    intro input n rest
    constructor
    · intro h
      split at h
      · next hwidth =>
        cases h
        have hbytes := littleEndian_ofLittleEndian (arrange (input.take width))
        rw [hlength, hwidth] at hbytes
        dsimp only
        rw [hbytes, harrange, List.take_append_drop]
      · cases h
    · rintro rfl
      have hwidth : (arrange (littleEndian width n.val)).length = width := by
        rw [hlength, length_littleEndian]
      have hbytes : (arrange (littleEndian width n.val) ++ rest).take width =
          arrange (littleEndian width n.val) := List.take_left' hwidth
      have hrest : (arrange (littleEndian width n.val) ++ rest).drop width = rest :=
        List.drop_left' hwidth
      have hvalue : ofLittleEndian (littleEndian width n.val) = n.val := by
        rw [ofLittleEndian_littleEndian, Nat.mod_eq_of_lt n.isLt]
      rw [dif_pos (by rw [hbytes, hwidth]), hrest]
      simp only [hbytes, harrange (littleEndian width n.val), hvalue, Fin.eta]

/-- A number of fixed width, least significant byte first. -/
def uint (width : ℕ) : Codec (Fin (256 ^ width)) :=
  fixed width id (fun _ ↦ rfl) fun _ ↦ rfl

/-- A number of fixed width, most significant byte first. -/
def hash (width : ℕ) : Codec (Fin (256 ^ width)) :=
  fixed width List.reverse (fun _ ↦ List.length_reverse) List.reverse_reverse

/-- A single byte. -/
def byte : Codec UInt8 where
  encode value := [value]
  decode
    | [] => none
    | value :: rest => some (value, rest)
  decode_eq_some := by
    intro input value rest
    cases input with
    | nil => exact ⟨nofun, nofun⟩
    | cons first input =>
      rw [Option.some_inj, Prod.mk.injEq, List.singleton_append, List.cons_eq_cons]

/-! ## Compact numbers -/

/-- The numbers from a bound up to another. -/
abbrev Between (low high : ℕ) := {n : ℕ // low ≤ n ∧ n < high}

/-- A number of a range, above two bits for how it is written. -/
def mode (width bits low high : ℕ) (hbits : bits < 4) (hfits : 4 * high ≤ 256 ^ width) :
    Codec (Between low high) :=
  ((uint width).restrict fun n ↦ n.val % 4 = bits ∧ low ≤ n.val / 4 ∧ n.val / 4 < high).map
    { toFun := fun n ↦ ⟨n.val.val / 4, n.property.2⟩
      invFun := fun n ↦ ⟨⟨4 * n.val + bits, by have hn := n.property.2; omega⟩, by
        have hn := n.property
        dsimp only
        omega⟩
      left_inv := fun n ↦ by
        have hn := n.property.1
        apply Subtype.ext
        apply Fin.ext
        dsimp only
        omega
      right_inv := fun n ↦ by
        apply Subtype.ext
        dsimp only
        omega }

/-- The two low bits of the first byte. -/
def lowBits (input : List UInt8) : ℕ := (input.headD 0).toNat % 4

theorem lowBits_mode {width bits low high : ℕ} {hbits : bits < 4}
    {hfits : 4 * high ≤ 256 ^ (width + 1)} (n : Between low high) (rest : List UInt8) :
    lowBits ((mode (width + 1) bits low high hbits hfits).encode n ++ rest) = bits := by
  change (UInt8.ofNat (4 * n.val + bits)).toNat % 4 = bits
  rw [UInt8.toNat_ofNat']
  omega

/-- Two neighbouring ranges are one. -/
def joinRanges {low middle high : ℕ} (hlow : low ≤ middle) (hhigh : middle ≤ high) :
    Between low middle ⊕ Between middle high ≃ Between low high where
  toFun := Sum.elim (fun n ↦ ⟨n.val, n.property.1, n.property.2.trans_le hhigh⟩)
    (fun n ↦ ⟨n.val, hlow.trans n.property.1, n.property.2⟩)
  invFun n := if h : n.val < middle then .inl ⟨n.val, n.property.1, h⟩
    else .inr ⟨n.val, not_lt.mp h, n.property.2⟩
  left_inv := by
    rintro (n | n)
    · exact dif_pos n.property.2
    · exact dif_neg (not_lt.mpr n.property.1)
  right_inv n := by
    dsimp only
    split <;> rfl

/-- The next range of numbers is written in a mode of its own. -/
def extend {low middle high : ℕ} (c : Codec (Between low middle)) (d : Codec (Between middle high))
    (bits : ℕ) (hc : ∀ n rest, lowBits (c.encode n ++ rest) < bits)
    (hd : ∀ n rest, lowBits (d.encode n ++ rest) = bits) (hlow : low ≤ middle)
    (hhigh : middle ≤ high) : Codec (Between low high) :=
  (sum c d (by
    intro input hread
    obtain ⟨read, hread⟩ := Option.isSome_iff_exists.mp hread
    rw [Option.eq_none_iff_forall_ne_some]
    intro other hother
    have hfirst := hc read.1 read.2
    rw [← c.decode_eq_some.mp hread, d.decode_eq_some.mp hother, hd] at hfirst
    exact lt_irrefl _ hfirst)).map (joinRanges hlow hhigh)

theorem lowBits_extend {low middle high bits : ℕ} {c : Codec (Between low middle)}
    {d : Codec (Between middle high)} {hc : ∀ n rest, lowBits (c.encode n ++ rest) < bits}
    {hd : ∀ n rest, lowBits (d.encode n ++ rest) = bits} {hlow : low ≤ middle}
    {hhigh : middle ≤ high} (n : Between low high) (rest : List UInt8) :
    lowBits ((extend c d bits hc hd hlow hhigh).encode n ++ rest) < bits + 1 := by
  change lowBits (Sum.elim c.encode d.encode ((joinRanges hlow hhigh).symm n) ++ rest) < bits + 1
  cases (joinRanges hlow hhigh).symm n with
  | inl m => exact (hc m rest).trans (Nat.lt_succ_self _)
  | inr m => exact (hd m rest).trans_lt (Nat.lt_succ_self _)

/-- Numbers of 32 bits, the small ones in fewer bytes. -/
def compact : Codec (Between 0 (2 ^ 32)) :=
  let one := mode 1 0 0 (2 ^ 6) (by norm_num) (by norm_num)
  let two := mode 2 1 (2 ^ 6) (2 ^ 14) (by norm_num) (by norm_num)
  let four := mode 4 2 (2 ^ 14) (2 ^ 30) (by norm_num) (by norm_num)
  let large := tagged 3 (((uint 4).restrict fun n ↦ 2 ^ 30 ≤ n.val ∧ n.val < 2 ^ 32).map
    { toFun := fun n ↦ ⟨n.val.val, n.property⟩
      invFun := fun n ↦ ⟨⟨n.val, n.property.2⟩, n.property⟩
      left_inv := fun _ ↦ rfl
      right_inv := fun _ ↦ rfl })
  extend (extend (extend one two 1 (fun n rest ↦ (lowBits_mode n rest).trans_lt Nat.one_pos)
    lowBits_mode (by norm_num) (by norm_num)) four 2 lowBits_extend lowBits_mode (by norm_num)
    (by norm_num)) large 3 lowBits_extend (fun _ _ ↦ rfl) (by norm_num) (by norm_num)

/-- A sequence with its compact length in front. -/
def sequence (c : Codec α) : Codec {items : List α // items.length < 2 ^ 32} :=
  (sigma compact fun count ↦ row c count.val).map
    { toFun := fun items ↦ ⟨items.2.val, items.2.property.trans_lt items.1.property.2⟩
      invFun := fun items ↦ ⟨⟨items.val.length, Nat.zero_le _, items.property⟩, items.val, rfl⟩
      left_inv := by
        rintro ⟨⟨count, hcount⟩, items, hlength⟩
        dsimp only at hlength
        subst hlength
        rfl
      right_inv := fun _ ↦ rfl }

end Codec
