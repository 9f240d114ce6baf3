import Mathlib.Data.List.DropRight
import Mathlib.Data.List.Sort
import Mathlib.Tactic

/-!
# Lists that ascend along a key

A list whose elements have strictly ascending keys is determined by its elements. The last elements
of a list, taken with `List.rtake`, commute with a partial map that is defined on all of them.
-/

namespace Ascending

variable {α β : Type} {key : α → ℕ}

/-- The keys of the elements ascend strictly. -/
def Ascends (key : α → ℕ) (items : List α) : Prop := items.Pairwise fun a b ↦ key a < key b

theorem Ascends.nodup {items : List α} (h : Ascends key items) : items.Nodup :=
  List.Pairwise.imp (fun hlt ↦ ne_of_apply_ne key (ne_of_lt hlt)) h

/-- Two ascending lists with the same elements are equal. -/
theorem Ascends.ext {items items' : List α} (h : Ascends key items) (h' : Ascends key items')
    (hmem : ∀ a, a ∈ items ↔ a ∈ items') : items = items' := by
  have hperm : items.Perm items' := (List.perm_ext_iff_of_nodup h.nodup h'.nodup).mpr hmem
  exact hperm.eq_of_pairwise (fun a b _ _ hab hba ↦ absurd hab (lt_asymm hba)) h h'

theorem Ascends.filter {items : List α} (h : Ascends key items) (p : α → Bool) :
    Ascends key (items.filter p) :=
  List.Pairwise.sublist List.filter_sublist h

/-- A partial map whose values have keys in the order of their arguments. -/
theorem Ascends.filterMap {items : List ℕ} (h : items.Pairwise (· < ·)) {f : ℕ → Option α}
    (hf : ∀ i j a b, f i = some a → f j = some b → i < j → key a < key b) :
    Ascends key (items.filterMap f) := by
  rw [Ascends, List.pairwise_filterMap]
  exact h.imp fun hij a ha b hb ↦ hf _ _ a b ha hb hij

/-- The element with the greatest key is the last one. -/
theorem Ascends.getLast?_eq {items : List α} (h : Ascends key items) {a : α} (ha : a ∈ items)
    (hmax : ∀ b ∈ items, key b ≤ key a) : items.getLast? = some a := by
  induction items using List.reverseRecOn with
  | nil => cases ha
  | append_singleton items last _ =>
    rw [List.getLast?_concat]
    rcases List.mem_append.mp ha with hearlier | hlast
    · have hlt := (List.pairwise_append.mp h).2.2 a hearlier last List.mem_cons_self
      exact absurd (hmax last (by simp)) (not_le.mpr hlt)
    · rw [List.mem_singleton.mp hlast]

/-- The element with the least key is the first one. -/
theorem Ascends.head?_eq {items : List α} (h : Ascends key items) {a : α} (ha : a ∈ items)
    (hmin : ∀ b ∈ items, key a ≤ key b) : items.head? = some a := by
  cases items with
  | nil => cases ha
  | cons first rest =>
    rcases List.mem_cons.mp ha with rfl | hlater
    · rfl
    · have hlt := (List.pairwise_cons.mp h).1 a hlater
      exact absurd (hmin first List.mem_cons_self) (not_le.mpr hlt)

theorem filterMap_rtake {f : α → Option β} {items : List α} (n : ℕ)
    (h : ∀ a ∈ items, ∃ b, f a = some b) :
    (items.rtake n).filterMap f = (items.filterMap f).rtake n := by
  induction items using List.reverseRecOn generalizing n with
  | nil => simp
  | append_singleton items a ih =>
    obtain ⟨b, hb⟩ := h a (by simp)
    cases n with
    | zero => simp
    | succ n =>
      have hlast : [a].filterMap f = [b] := by simp [hb]
      rw [List.rtake_concat_succ, List.filterMap_append, List.filterMap_append, hlast,
        List.rtake_concat_succ, ih n fun c hc ↦ h c (List.mem_append_left _ hc)]

end Ascending
