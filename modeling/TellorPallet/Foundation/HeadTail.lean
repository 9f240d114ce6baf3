import TellorPallet.Foundation.Codec

/-!
# Head and tail encoding

The layout of structured values in the contract ABI. A value is a word of 32 bytes, a byte string, a
sequence of values of one shape, or a record of values. The parts of a record or sequence are laid out
in two regions: a part whose size is fixed by its shape stands in the head, of any other the head holds
the offset at which it starts in the tail. Reading follows the shape alone, and ignores what comes after
the value.
-/

namespace HeadTail

inductive Shape where
  | word
  | bytes
  | sequence (item : Shape)
  | record (fields : List Shape)

inductive Item where
  | word (content : List UInt8)
  | bytes (content : List UInt8)
  | sequence (items : List Item)
  | record (fields : List Item)

/-! ## Words -/

/-- The word of a number, most significant byte first. -/
def word (n : ℕ) : List UInt8 := (Codec.littleEndian 32 n).reverse

/-- The number in the first word. -/
def readWord (input : List UInt8) : Option ℕ :=
  if 32 ≤ input.length then some (Codec.ofLittleEndian (input.take 32).reverse) else none

@[simp]
theorem length_word (n : ℕ) : (word n).length = 32 := by
  rw [word, List.length_reverse, Codec.length_littleEndian]

theorem readWord_append {n : ℕ} (h : n < 2 ^ 256) (rest : List UInt8) :
    readWord (word n ++ rest) = some n := by
  have hrange : 256 ^ 32 = 2 ^ 256 := by norm_num
  have htake : (word n ++ rest).take 32 = word n := List.take_left' (length_word n)
  have hlength : 32 ≤ (word n ++ rest).length := by
    rw [List.length_append, length_word]
    exact Nat.le_add_right _ _
  rw [readWord, if_pos hlength, htake, word, List.reverse_reverse,
    Codec.ofLittleEndian_littleEndian, hrange, Nat.mod_eq_of_lt h]

/-! ## Layout -/

/-- A part of a record or sequence, written: whether it goes into the tail, and its bytes. -/
abbrev Part := Bool × List UInt8

/-- The size of a part in the head. -/
def Part.headSize (part : Part) : ℕ := if part.1 then 32 else part.2.length

/-- The heads of parts, when the tail reaches up to an offset. -/
def heads : (offset : ℕ) → List Part → List UInt8
  | _, [] => []
  | offset, (true, bytes) :: rest => word offset ++ heads (offset + bytes.length) rest
  | offset, (false, bytes) :: rest => bytes ++ heads offset rest

/-- The tails of parts. -/
def tails : List Part → List UInt8
  | [] => []
  | (true, bytes) :: rest => bytes ++ tails rest
  | (false, _) :: rest => tails rest

/-- The two regions of a list of parts. -/
def layout (parts : List Part) : List UInt8 :=
  heads (parts.map Part.headSize).sum parts ++ tails parts

@[simp]
theorem length_heads (offset : ℕ) (parts : List Part) :
    (heads offset parts).length = (parts.map Part.headSize).sum := by
  induction parts generalizing offset with
  | nil => rfl
  | cons part rest ih =>
    obtain ⟨dynamic, bytes⟩ := part
    cases dynamic <;>
      simp [heads, Part.headSize, ih]

/-- How to read a part: whether it is in the tail, its size in the head, and how its bytes are read. -/
structure Reader (α : Type) where
  dynamic : Bool
  headSize : ℕ
  read : List UInt8 → Option α

variable {α : Type}

/-- The part whose head is at a position of the record. -/
def Reader.readAt (reader : Reader α) (record : List UInt8) (position : ℕ) : Option α :=
  if reader.dynamic then
    (readWord (record.drop position)).bind fun offset ↦ reader.read (record.drop offset)
  else reader.read (record.drop position)

/-- The parts whose heads start at a position of the record. -/
def readParts : List (Reader α) → (record : List UInt8) → (position : ℕ) → Option (List α)
  | [], _, _ => some []
  | reader :: rest, record, position => do
    let value ← reader.readAt record position
    let values ← readParts rest record (position + reader.headSize)
    some (value :: values)

/-- A reader reads a written part as a value, whatever follows. -/
structure Reader.Reads (reader : Reader α) (part : Part) (value : α) : Prop where
  dynamic_eq : reader.dynamic = part.1
  headSize_eq : reader.headSize = part.headSize
  read_eq : ∀ rest, reader.read (part.2 ++ rest) = some value

/-- A list of readers reads a list of parts. -/
inductive ReadsAll : List (Reader α) → List Part → List α → Prop where
  | nil : ReadsAll [] [] []
  | cons {reader : Reader α} {part : Part} {value : α} {readers : List (Reader α)}
      {parts : List Part} {values : List α} (h : reader.Reads part value)
      (hrest : ReadsAll readers parts values) :
      ReadsAll (reader :: readers) (part :: parts) (value :: values)

/-- Reading finds the head of each part behind those before it, and its tail, if it has one, at the
offset that the head holds. -/
theorem readParts_heads {readers : List (Reader α)} {parts : List Part} {values : List α}
    (h : ReadsAll readers parts values) (before middle rest : List UInt8) {offset : ℕ}
    (hoffset : offset = before.length + (parts.map Part.headSize).sum + middle.length)
    (hbound : offset + (tails parts).length < 2 ^ 256) :
    readParts readers (before ++ (heads offset parts ++ (middle ++ (tails parts ++ rest))))
      before.length = some values := by
  induction h generalizing before middle offset with
  | nil => rfl
  | @cons reader part value readers parts values hreads hrest ih =>
    obtain ⟨dynamic, bytes⟩ := part
    have hdynamic := hreads.dynamic_eq
    have hsize := hreads.headSize_eq
    cases dynamic with
    | true =>
      rw [List.map_cons, List.sum_cons] at hoffset
      change offset = before.length + (32 + (parts.map Part.headSize).sum) + middle.length at hoffset
      change offset + (bytes ++ tails parts).length < 2 ^ 256 at hbound
      rw [List.length_append] at hbound
      -- the next part finds this head before its own, and this tail before the rest of the tail
      have hoffset' : offset + bytes.length = (before ++ word offset).length +
          (parts.map Part.headSize).sum + (middle ++ bytes).length := by
        rw [List.length_append, List.length_append, length_word]
        omega
      have hnext := ih (before ++ word offset) (middle ++ bytes) hoffset' (by omega)
      have hrecord : before ++ (heads offset ((true, bytes) :: parts) ++
          (middle ++ (tails ((true, bytes) :: parts) ++ rest))) =
          before ++ word offset ++ (heads (offset + bytes.length) parts ++
            (middle ++ bytes ++ (tails parts ++ rest))) := by
        simp only [heads, tails, List.append_assoc]
      have htail : (before ++ word offset ++ (heads (offset + bytes.length) parts ++
          (middle ++ bytes ++ (tails parts ++ rest)))).drop offset =
          bytes ++ (tails parts ++ rest) := by
        have hfront : before ++ word offset ++ (heads (offset + bytes.length) parts ++
            (middle ++ bytes ++ (tails parts ++ rest))) =
            (before ++ word offset ++ heads (offset + bytes.length) parts ++ middle) ++
              (bytes ++ (tails parts ++ rest)) := by
          simp only [List.append_assoc]
        rw [hfront]
        apply List.drop_left'
        simp only [List.length_append, length_word, length_heads]
        omega
      have hhead : readWord ((before ++ word offset ++ (heads (offset + bytes.length) parts ++
          (middle ++ bytes ++ (tails parts ++ rest)))).drop before.length) = some offset := by
        rw [List.append_assoc, List.drop_left]
        exact readWord_append (by omega) _
      rw [List.length_append, length_word] at hnext
      rw [hrecord, readParts, Reader.readAt, hdynamic, if_pos rfl, hhead, Option.bind_some, htail,
        hreads.read_eq, hsize]
      change (do let values ← readParts readers _ (before.length + 32); some (value :: values)) = _
      rw [hnext]
      rfl
    | false =>
      rw [List.map_cons, List.sum_cons] at hoffset
      change offset = before.length + (bytes.length + (parts.map Part.headSize).sum) +
        middle.length at hoffset
      have hoffset' : offset = (before ++ bytes).length + (parts.map Part.headSize).sum +
          middle.length := by
        rw [List.length_append]
        omega
      have hnext := ih (before ++ bytes) middle hoffset' hbound
      have hrecord : before ++ (heads offset ((false, bytes) :: parts) ++
          (middle ++ (tails ((false, bytes) :: parts) ++ rest))) =
          before ++ bytes ++ (heads offset parts ++ (middle ++ (tails parts ++ rest))) := by
        simp only [heads, tails, List.append_assoc]
      rw [List.length_append] at hnext
      rw [hrecord, readParts, Reader.readAt, hdynamic, if_neg Bool.false_ne_true, List.append_assoc,
        List.drop_left, hreads.read_eq, hsize, ← List.append_assoc]
      change (do let values ← readParts readers _ (before.length + bytes.length)
                 some (value :: values)) = _
      rw [hnext]
      rfl

/-- What is laid out is read back, whatever follows. -/
theorem readParts_layout {readers : List (Reader α)} {parts : List Part} {values : List α}
    (h : ReadsAll readers parts values) (hbound : (layout parts).length < 2 ^ 256)
    (rest : List UInt8) : readParts readers (layout parts ++ rest) 0 = some values := by
  rw [layout, List.length_append, length_heads] at hbound
  have hoffset : (parts.map Part.headSize).sum = ([] : List UInt8).length +
      (parts.map Part.headSize).sum + ([] : List UInt8).length := by simp
  have hread := readParts_heads h [] [] rest hoffset hbound
  rw [layout, List.append_assoc]
  exact hread

/-! ## Values -/

/-- Fill up to a multiple of 32 bytes. -/
def padded (bytes : List UInt8) : List UInt8 :=
  bytes ++ List.replicate ((32 - bytes.length % 32) % 32) 0

mutual

/-- A value written, and whether its size is not fixed by its shape. -/
def Item.part : Item → Part
  | .word content => (false, content)
  | .bytes content => (true, word content.length ++ padded content)
  | .sequence items => (true, word items.length ++ layout (partsOf items))
  | .record fields => ((partsOf fields).any Prod.fst, layout (partsOf fields))

def partsOf : List Item → List Part
  | [] => []
  | item :: rest => item.part :: partsOf rest

end

/-- The values of a record, written. -/
def encode (fields : List Item) : List UInt8 := layout (partsOf fields)

mutual

/-- Whether the size of a value is not fixed by its shape. -/
def Shape.isDynamic : Shape → Bool
  | .word => false
  | .bytes => true
  | .sequence _ => true
  | .record fields => anyDynamic fields

def anyDynamic : List Shape → Bool
  | [] => false
  | shape :: rest => shape.isDynamic || anyDynamic rest

end

mutual

/-- The size of a value of the shape in the head. -/
def Shape.headSize : Shape → ℕ
  | .word => 32
  | .bytes => 32
  | .sequence _ => 32
  | .record fields => if anyDynamic fields then 32 else headSizes fields

def headSizes : List Shape → ℕ
  | [] => 0
  | shape :: rest => shape.headSize + headSizes rest

end

mutual

/-- The value of a shape at the front of the input. -/
def Shape.read : Shape → List UInt8 → Option Item
  | .word, input => if 32 ≤ input.length then some (.word (input.take 32)) else none
  | .bytes, input => do
    let length ← readWord input
    let content := (input.drop 32).take length
    if content.length = length then some (.bytes content) else none
  | .sequence item, input => do
    let count ← readWord input
    let items ← readParts (List.replicate count ⟨item.isDynamic, item.headSize, item.read⟩)
      (input.drop 32) 0
    some (.sequence items)
  | .record fields, input => do
    let items ← readParts (readersOf fields) input 0
    some (.record items)

def readersOf : List Shape → List (Reader Item)
  | [] => []
  | shape :: rest => ⟨shape.isDynamic, shape.headSize, shape.read⟩ :: readersOf rest

end

/-- The fields of a record of given shapes. -/
def decode (fields : List Shape) (input : List UInt8) : Option (List Item) :=
  readParts (readersOf fields) input 0

mutual

/-- The value has the shape, and its lengths fit into words. -/
def Item.HasShape : Item → Shape → Prop
  | .word content, .word => content.length = 32
  | .bytes content, .bytes => content.length < 2 ^ 256
  | .sequence items, .sequence item => items.length < 2 ^ 256 ∧ HaveShapes items
      (List.replicate items.length item)
  | .record fields, .record shapes => HaveShapes fields shapes
  | _, _ => False

def HaveShapes : List Item → List Shape → Prop
  | [], [] => True
  | item :: items, shape :: shapes => item.HasShape shape ∧ HaveShapes items shapes
  | _, _ => False

end

/-! ## Reading undoes writing -/

def Shape.reader (shape : Shape) : Reader Item := ⟨shape.isDynamic, shape.headSize, shape.read⟩

theorem readersOf_eq_map (shapes : List Shape) : readersOf shapes = shapes.map Shape.reader := by
  induction shapes with
  | nil => rfl
  | cons shape rest ih => rw [readersOf, ih]; rfl

/-- Every part of a layout is shorter than the layout. -/
theorem length_le_layout {parts : List Part} {part : Part} (h : part ∈ parts) :
    part.2.length ≤ (layout parts).length := by
  rw [layout, List.length_append, length_heads]
  induction parts with
  | nil => cases h
  | cons first rest ih =>
    obtain ⟨dynamic, bytes⟩ := first
    rw [List.map_cons, List.sum_cons]
    rcases List.mem_cons.mp h with rfl | hmem
    · cases dynamic with
      | true =>
        change bytes.length ≤ _ + (bytes ++ tails rest).length
        rw [List.length_append]
        omega
      | false =>
        change bytes.length ≤ bytes.length + _ + _
        omega
    · have hrest := ih hmem
      cases dynamic with
      | true =>
        change part.2.length ≤ _ + (bytes ++ tails rest).length
        rw [List.length_append]
        omega
      | false =>
        change part.2.length ≤ _ + (tails rest).length
        omega

theorem tails_eq_nil {parts : List Part} (h : parts.any Prod.fst = false) : tails parts = [] := by
  induction parts with
  | nil => rfl
  | cons part rest ih =>
    obtain ⟨dynamic, bytes⟩ := part
    rw [List.any_cons, Bool.or_eq_false_iff] at h
    change dynamic = false ∧ _ at h
    rw [h.1]
    exact ih h.2

theorem ReadsAll.anyDynamic_eq {shapes : List Shape} {parts : List Part} {values : List Item}
    (h : ReadsAll (readersOf shapes) parts values) : anyDynamic shapes = parts.any Prod.fst := by
  induction shapes generalizing parts values with
  | nil =>
    cases h
    rfl
  | cons shape rest ih =>
    cases h with
    | cons hfirst hrest =>
      have hdynamic : shape.isDynamic = _ := hfirst.dynamic_eq
      rw [anyDynamic, List.any_cons, ih hrest, hdynamic]

theorem ReadsAll.headSizes_eq {shapes : List Shape} {parts : List Part} {values : List Item}
    (h : ReadsAll (readersOf shapes) parts values) :
    headSizes shapes = (parts.map Part.headSize).sum := by
  induction shapes generalizing parts values with
  | nil =>
    cases h
    rfl
  | cons shape rest ih =>
    cases h with
    | cons hfirst hrest =>
      have hsize : shape.headSize = _ := hfirst.headSize_eq
      rw [headSizes, List.map_cons, List.sum_cons, ih hrest, hsize]

theorem mem_partsOf {items : List Item} {item : Item} (h : item ∈ items) :
    item.part ∈ partsOf items := by
  induction items with
  | nil => cases h
  | cons first rest ih =>
    rw [partsOf]
    rcases List.mem_cons.mp h with rfl | hmem
    · exact List.mem_cons_self
    · exact List.mem_cons_of_mem _ (ih hmem)

/-- A word at the front is read, and what follows it is left. -/
theorem bind_readWord_append {β : Type} {n : ℕ} (h : n < 2 ^ 256) (rest : List UInt8)
    (f : ℕ → Option β) : (readWord (word n ++ rest)).bind f = f n := by
  rw [readWord_append h, Option.bind_some]

theorem read_bytes {content : List UInt8} (h : content.length < 2 ^ 256) (rest : List UInt8) :
    Shape.bytes.read (word content.length ++ padded content ++ rest) = some (.bytes content) := by
  have hcontent : ((word content.length ++ (padded content ++ rest)).drop 32).take content.length =
      content := by
    rw [List.drop_left' (length_word _), padded, List.append_assoc, List.take_left]
  rw [Shape.read, List.append_assoc]
  refine (bind_readWord_append h _ _).trans ?_
  rw [hcontent, if_pos rfl]

theorem reads_sequence {items : List Item} {shape : Shape} (hcount : items.length < 2 ^ 256)
    (hbound : (layout (partsOf items)).length < 2 ^ 256)
    (h : ReadsAll (readersOf (List.replicate items.length shape)) (partsOf items) items)
    (rest : List UInt8) :
    (Shape.sequence shape).read (word items.length ++ layout (partsOf items) ++ rest) =
      some (.sequence items) := by
  have hreaders : List.replicate items.length
      (⟨shape.isDynamic, shape.headSize, shape.read⟩ : Reader Item) =
      readersOf (List.replicate items.length shape) := by
    rw [readersOf_eq_map, List.map_replicate]
    rfl
  rw [Shape.read, List.append_assoc]
  refine (bind_readWord_append hcount _ _).trans ?_
  rw [List.drop_left' (length_word _), hreaders, readParts_layout h hbound]
  rfl

theorem reads_record {fields : List Item} {shapes : List Shape}
    (hbound : (layout (partsOf fields)).length < 2 ^ 256)
    (h : ReadsAll (readersOf shapes) (partsOf fields) fields) :
    (Shape.record shapes).reader.Reads (Item.record fields).part (.record fields) where
  dynamic_eq := h.anyDynamic_eq
  headSize_eq := by
    change (if anyDynamic shapes then 32 else headSizes shapes) =
      if (partsOf fields).any Prod.fst then 32 else (layout (partsOf fields)).length
    rw [h.anyDynamic_eq, h.headSizes_eq]
    split
    · rfl
    · next hstatic =>
      rw [layout, tails_eq_nil (Bool.eq_false_of_not_eq_true hstatic), List.append_nil, length_heads]
  read_eq rest := by
    change (do let items ← readParts (readersOf shapes) (layout (partsOf fields) ++ rest) 0
               some (Item.record items)) = _
    rw [readParts_layout h hbound]
    rfl

mutual

/-- The reader of a shape reads every written value of the shape. -/
theorem reads_part : (item : Item) → (shape : Shape) → item.HasShape shape →
    item.part.2.length < 2 ^ 256 → shape.reader.Reads item.part item
  | .word content, .word, hshape, _ => by
    have hlength : content.length = 32 := hshape
    refine ⟨rfl, ?_, fun rest ↦ ?_⟩
    · exact hlength.symm
    · change Shape.word.read (content ++ rest) = _
      have hle : 32 ≤ (content ++ rest).length := by
        rw [List.length_append]
        omega
      rw [Shape.read, if_pos hle, List.take_left' hlength]
  | .bytes content, .bytes, hshape, _ => ⟨rfl, rfl, fun rest ↦ read_bytes hshape rest⟩
  | .sequence items, .sequence shape, hshape, hbound => by
    have hlayout : (layout (partsOf items)).length < 2 ^ 256 := by
      change (word items.length ++ layout (partsOf items)).length < 2 ^ 256 at hbound
      rw [List.length_append] at hbound
      omega
    have hitems := reads_parts items (List.replicate items.length shape) hshape.2
      fun item hitem ↦ (length_le_layout (mem_partsOf hitem)).trans_lt hlayout
    exact ⟨rfl, rfl, fun rest ↦ reads_sequence hshape.1 hlayout hitems rest⟩
  | .record fields, .record shapes, hshape, hbound =>
    have hfields := reads_parts fields shapes hshape
      fun item hitem ↦ (length_le_layout (mem_partsOf hitem)).trans_lt hbound
    reads_record hbound hfields

theorem reads_parts : (items : List Item) → (shapes : List Shape) → HaveShapes items shapes →
    (∀ item ∈ items, item.part.2.length < 2 ^ 256) →
    ReadsAll (readersOf shapes) (partsOf items) items
  | [], [], _, _ => .nil
  | item :: items, shape :: shapes, hshapes, hbound =>
    .cons (reads_part item shape hshapes.1 (hbound item List.mem_cons_self))
      (reads_parts items shapes hshapes.2 fun other hother ↦
        hbound other (List.mem_cons_of_mem _ hother))

end

/-- Values of given shapes are read back from what was written, whatever follows. -/
theorem decode_encode {fields : List Item} {shapes : List Shape} (hshapes : HaveShapes fields shapes)
    (hbound : (encode fields).length < 2 ^ 256) (rest : List UInt8) :
    decode shapes (encode fields ++ rest) = some fields :=
  readParts_layout (reads_parts fields shapes hshapes fun _ hitem ↦
    (length_le_layout (mem_partsOf hitem)).trans_lt hbound) hbound rest

end HeadTail
