import Mathlib.Data.Set.Finite.Lattice
import Mathlib.Order.Bounds.Basic
import Mathlib.Order.Interval.Finset.Nat
import Mathlib.Tactic

/-!
# First and last elements of a set of a linear order

`IsLast S o` says that `o` is the greatest element of `S`, or `none` when `S` is empty;
`IsLastBelow S t o` says the same of the part of `S` strictly below `t`, and `IsFirst S o` says it of
the least element. The update lemmas say what becomes of the first two when one element leaves `S`
and when a new greatest element joins it, which is all that a series of timestamped entries does to
its set of valid entries.
-/

namespace Predecessor

variable {α : Type} [LinearOrder α] {S : Set α}

/-- The greatest element of `S`, if any. -/
def IsLast (S : Set α) : Option α → Prop
  | none => S = ∅
  | some p => IsGreatest S p

/-- The least element of `S`, if any. -/
def IsFirst (S : Set α) : Option α → Prop
  | none => S = ∅
  | some p => IsLeast S p

/-- The greatest element of `S` strictly below `t`, if any. -/
def IsLastBelow (S : Set α) (t : α) (o : Option α) : Prop := IsLast (S ∩ Set.Iio t) o

theorem IsLast.unique {o o' : Option α} (h : IsLast S o) (h' : IsLast S o') : o = o' := by
  cases o with
  | none =>
    cases o' with
    | none => rfl
    | some p' => exact absurd h'.1 (by simp [show S = ∅ from h])
  | some p =>
    cases o' with
    | none => exact absurd h.1 (by simp [show S = ∅ from h'])
    | some p' => rw [IsGreatest.unique h h']

theorem IsLastBelow.unique {t : α} {o o' : Option α} (h : IsLastBelow S t o)
    (h' : IsLastBelow S t o') : o = o' :=
  IsLast.unique h h'

theorem isLastBelow_none {t : α} : IsLastBelow S t none ↔ ∀ x ∈ S, t ≤ x := by
  simp only [IsLastBelow, IsLast, Set.eq_empty_iff_forall_notMem, Set.mem_inter_iff, Set.mem_Iio,
    not_and, not_lt]

theorem isLastBelow_some {t p : α} :
    IsLastBelow S t (some p) ↔ p ∈ S ∧ p < t ∧ ∀ x ∈ S, x < t → x ≤ p := by
  constructor
  · rintro ⟨⟨hp, hpt⟩, hupper⟩
    exact ⟨hp, hpt, fun x hx hxt ↦ hupper ⟨hx, hxt⟩⟩
  · rintro ⟨hp, hpt, hupper⟩
    exact ⟨⟨hp, hpt⟩, fun x hx ↦ hupper x hx.1 hx.2⟩

/-- Below a bound, a set of naturals has a last element unless it is empty. -/
theorem exists_isLastBelow (S : Set ℕ) (t : ℕ) : ∃ o, IsLastBelow S t o := by
  rcases (S ∩ Set.Iio t).eq_empty_or_nonempty with hempty | hnonempty
  · exact ⟨none, hempty⟩
  · have hfinite : (S ∩ Set.Iio t).Finite := (Set.finite_Iio t).subset Set.inter_subset_right
    obtain ⟨p, hp, hmax⟩ := Set.exists_max_image _ id hfinite hnonempty
    exact ⟨some p, hp, hmax⟩

/-- The last element of `S` is its last element below any bound above it. -/
theorem IsLast.isLastBelow {t : α} {o : Option α} (h : IsLast S o) (hbound : ∀ x ∈ S, x < t) :
    IsLastBelow S t o := by
  have hset : S ∩ Set.Iio t = S := Set.inter_eq_left.mpr hbound
  rwa [IsLastBelow, hset]

/-- Only the part of `S` below the bound matters. -/
theorem IsLastBelow.congr {T : Set α} {t : α} {o : Option α} (h : IsLastBelow S t o)
    (hagree : ∀ x, x < t → (x ∈ S ↔ x ∈ T)) : IsLastBelow T t o := by
  have hsame : T ∩ Set.Iio t = S ∩ Set.Iio t := by
    ext x
    simp only [Set.mem_inter_iff, Set.mem_Iio]
    constructor
    · rintro ⟨hx, hxt⟩
      exact ⟨(hagree x hxt).mpr hx, hxt⟩
    · rintro ⟨hx, hxt⟩
      exact ⟨(hagree x hxt).mp hx, hxt⟩
  rwa [IsLastBelow, hsame]

/-- A bound can be raised past points that are not in `S`. -/
theorem IsLastBelow.raise {t t' : α} {o : Option α} (h : IsLastBelow S t o) (hle : t ≤ t')
    (hgap : ∀ x ∈ S, x < t' → x < t) : IsLastBelow S t' o := by
  cases o with
  | none =>
    refine isLastBelow_none.mpr fun x hx ↦ ?_
    by_contra hlt
    exact absurd (hgap x hx (not_le.mp hlt)) (not_lt.mpr (isLastBelow_none.mp h x hx))
  | some p =>
    obtain ⟨hp, hpt, hupper⟩ := isLastBelow_some.mp h
    exact isLastBelow_some.mpr
      ⟨hp, lt_of_lt_of_le hpt hle, fun x hx hxt ↦ hupper x hx (hgap x hx hxt)⟩

/-! ## Removing one element -/

/-- Where the removed element was the last below `t`, its own predecessor takes its place. -/
theorem IsLastBelow.remove_last {x t : α} {o : Option α} (h : IsLastBelow S t (some x))
    (hx : IsLastBelow S x o) : IsLastBelow (S \ {x}) t o := by
  obtain ⟨-, hxt, hupper⟩ := isLastBelow_some.mp h
  have hbelow : IsLastBelow (S \ {x}) x o :=
    hx.congr fun y hy ↦ ⟨fun h ↦ ⟨h, ne_of_lt hy⟩, fun h ↦ h.1⟩
  exact hbelow.raise hxt.le fun y hy hyt ↦ lt_of_le_of_ne (hupper y hy.1 hyt) hy.2

/-- Elsewhere nothing changes. -/
theorem IsLastBelow.remove_other {x t : α} {o : Option α} (h : IsLastBelow S t o)
    (hne : o ≠ some x) : IsLastBelow (S \ {x}) t o := by
  cases o with
  | none => exact isLastBelow_none.mpr fun y hy ↦ isLastBelow_none.mp h y hy.1
  | some p =>
    obtain ⟨hp, hpt, hupper⟩ := isLastBelow_some.mp h
    refine isLastBelow_some.mpr ⟨⟨hp, ?_⟩, hpt, fun y hy ↦ hupper y hy.1⟩
    rintro rfl
    exact hne rfl

theorem IsLast.remove_last {x : α} {o : Option α} (h : IsLast S (some x))
    (hx : IsLastBelow S x o) : IsLast (S \ {x}) o := by
  have hset : S \ {x} = S ∩ Set.Iio x := by
    ext y
    simp only [Set.mem_sdiff, Set.mem_singleton_iff, Set.mem_inter_iff, Set.mem_Iio]
    constructor
    · rintro ⟨hy, hne⟩
      exact ⟨hy, lt_of_le_of_ne (h.2 hy) hne⟩
    · rintro ⟨hy, hlt⟩
      exact ⟨hy, ne_of_lt hlt⟩
  rwa [hset]

theorem IsLast.remove_other {x : α} {o : Option α} (h : IsLast S o) (hne : o ≠ some x) :
    IsLast (S \ {x}) o := by
  cases o with
  | none => simp [IsLast, show S = ∅ from h]
  | some p =>
    refine ⟨⟨h.1, ?_⟩, fun y hy ↦ h.2 hy.1⟩
    rintro rfl
    exact hne rfl

/-! ## Adding a new greatest element -/

theorem isLast_insert {x : α} (h : ∀ y ∈ S, y < x) : IsLast (insert x S) (some x) := by
  refine ⟨Set.mem_insert x S, ?_⟩
  rintro y (rfl | hy)
  · exact le_rfl
  · exact (h y hy).le

theorem IsLastBelow.insert_above {x t : α} {o : Option α} (h : IsLastBelow S t o) (hle : t ≤ x) :
    IsLastBelow (insert x S) t o :=
  h.congr fun _ hy ↦
    ⟨fun h ↦ Set.mem_insert_of_mem x h, fun h ↦ h.resolve_left (ne_of_lt (lt_of_lt_of_le hy hle))⟩

end Predecessor
