import Mathlib.Data.Finmap
import Mathlib.Data.List.Sort
import Mathlib.Algebra.BigOperators.Group.Finset.Basic
import Mathlib.Algebra.Order.BigOperators.Group.Finset
import Mathlib.Tactic

/-!
# Finite maps with totals and ordered iteration

A storage map is a Mathlib `Finmap` of constant value type. On top of its lookup algebra this file
adds what a ledger kept in such a map needs: the total of a quantity over all entries, the effect of
one insertion on that total, reads with a default, and the enumeration of the entries in ascending
key order.
-/

open scoped BigOperators

/-- A finite map from `K` to `V`. -/
abbrev FiniteMap (K V : Type) := Finmap (fun _ : K ↦ V)

namespace FiniteMap

variable {K V : Type} [DecidableEq K]

theorem lookup_insert_ite (m : FiniteMap K V) (a k : K) (v : V) :
    (m.insert a v).lookup k = if k = a then some v else m.lookup k := by
  split
  · next h => rw [h, Finmap.lookup_insert]
  · next h => exact Finmap.lookup_insert_of_ne m h

theorem lookup_erase_ite (m : FiniteMap K V) (a k : K) :
    (m.erase a).lookup k = if k = a then none else m.lookup k := by
  split
  · next h => rw [h, Finmap.lookup_erase]
  · next h => exact Finmap.lookup_erase_ne h

/-- An insertion at a pair of keys, read at another second key. -/
theorem lookup_insert_snd {L : Type} [DecidableEq L] (m : FiniteMap (K × L) V) (k : K) (j : L) (v : V)
    (i : L) : (m.insert (k, j) v).lookup (k, i) = if i = j then some v else m.lookup (k, i) := by
  rw [lookup_insert_ite]
  simp only [Prod.mk.injEq, true_and]

/-- An insertion at a pair of keys, read at another first key. -/
theorem lookup_insert_of_fst_ne {L : Type} [DecidableEq L] (m : FiniteMap (K × L) V) {k k' : K}
    (h : k' ≠ k) (j : L) (v : V) (i : L) : (m.insert (k, j) v).lookup (k', i) = m.lookup (k', i) :=
  Finmap.lookup_insert_of_ne m fun heq ↦ h (Prod.mk.inj heq).1

/-- Read a key, or the default when it is absent. -/
def read (m : FiniteMap K V) (default : V) (k : K) : V := (m.lookup k).getD default

theorem read_insert (m : FiniteMap K V) (default : V) (a k : K) (v : V) :
    read (m.insert a v) default k = if k = a then v else read m default k := by
  unfold read
  rw [lookup_insert_ite]
  split <;> rfl

@[simp]
theorem read_insert_self (m : FiniteMap K V) (default : V) (a : K) (v : V) :
    read (m.insert a v) default a = v := by
  rw [read_insert, if_pos rfl]

theorem read_eq_default {m : FiniteMap K V} {k : K} (h : k ∉ m.keys) (default : V) :
    read m default k = default := by
  rw [Finmap.mem_keys, ← Finmap.lookup_eq_none] at h
  rw [read, h, Option.getD_none]

@[simp]
theorem read_empty (default : V) (k : K) : read (∅ : FiniteMap K V) default k = default := by
  simp [read]

/-! ## Totals -/

/-- The sum of a quantity over all entries. -/
def total (m : FiniteMap K V) (f : K → V → ℕ) : ℕ :=
  ∑ k ∈ m.keys, (m.lookup k).elim 0 (f k)

@[simp]
theorem total_empty (f : K → V → ℕ) : total (∅ : FiniteMap K V) f = 0 := by
  simp [total]

theorem elim_eq_zero_of_notMem {m : FiniteMap K V} {k : K} (h : k ∉ m.keys) (f : K → V → ℕ) :
    (m.lookup k).elim 0 (f k) = 0 := by
  rw [Finmap.mem_keys, ← Finmap.lookup_eq_none] at h
  rw [h, Option.elim_none]

/-- The total may be taken over any finite set that contains the keys. -/
theorem total_eq_sum {m : FiniteMap K V} {keys : Finset K} (h : m.keys ⊆ keys) (f : K → V → ℕ) :
    total m f = ∑ k ∈ keys, (m.lookup k).elim 0 (f k) :=
  Finset.sum_subset h fun _ _ hk ↦ elim_eq_zero_of_notMem hk f

theorem mem_keys_of_lookup {m : FiniteMap K V} {k : K} {v : V} (h : m.lookup k = some v) :
    k ∈ m.keys :=
  Finmap.mem_keys.mpr (Finmap.mem_of_lookup_eq_some h)

theorem keys_insert (m : FiniteMap K V) (a : K) (v : V) :
    (m.insert a v).keys = Insert.insert a m.keys := by
  ext k
  simp only [Finmap.mem_keys, Finmap.mem_insert, Finset.mem_insert]

/-- One insertion replaces exactly the contribution of its key. -/
theorem total_insert (m : FiniteMap K V) (a : K) (v : V) (f : K → V → ℕ) :
    total (m.insert a v) f + (m.lookup a).elim 0 (f a) = total m f + f a v := by
  have hsub : m.keys ⊆ Insert.insert a m.keys := Finset.subset_insert _ _
  have hmem : a ∈ Insert.insert a m.keys := Finset.mem_insert_self _ _
  rw [total_eq_sum hsub, total, keys_insert, ← Finset.add_sum_erase _ _ hmem,
    ← Finset.add_sum_erase _ (fun k ↦ (m.lookup k).elim 0 (f k)) hmem]
  have hrest : ∑ k ∈ (Insert.insert a m.keys).erase a, ((m.insert a v).lookup k).elim 0 (f k) =
      ∑ k ∈ (Insert.insert a m.keys).erase a, (m.lookup k).elim 0 (f k) := by
    apply Finset.sum_congr rfl
    intro k hk
    rw [Finmap.lookup_insert_of_ne m (Finset.ne_of_mem_erase hk)]
  rw [hrest, Finmap.lookup_insert, Option.elim_some]
  omega

theorem total_insert_new {m : FiniteMap K V} {a : K} (h : m.lookup a = none) (v : V)
    (f : K → V → ℕ) : total (m.insert a v) f = total m f + f a v := by
  have htotal := total_insert m a v f
  rwa [h, Option.elim_none, Nat.add_zero] at htotal

theorem le_total {m : FiniteMap K V} {k : K} {v : V} (h : m.lookup k = some v) (f : K → V → ℕ) :
    f k v ≤ total m f := by
  have hle : (m.lookup k).elim 0 (f k) ≤ total m f :=
    Finset.single_le_sum (f := fun k ↦ (m.lookup k).elim 0 (f k))
      (fun _ _ ↦ Nat.zero_le _) (mem_keys_of_lookup h)
  rwa [h, Option.elim_some] at hle

/-- The total is at least what some of the entries contribute. -/
theorem sum_le_total {m : FiniteMap K V} {f : K → V → ℕ} {w : K → ℕ} {S : Finset K}
    (h : ∀ k ∈ S, ∃ v, m.lookup k = some v ∧ w k ≤ f k v) : ∑ k ∈ S, w k ≤ total m f := by
  have hsub : S ⊆ m.keys := by
    intro k hk
    obtain ⟨v, hv, -⟩ := h k hk
    exact mem_keys_of_lookup hv
  refine (Finset.sum_le_sum fun k hk ↦ ?_).trans (Finset.sum_le_sum_of_subset hsub)
  obtain ⟨v, hv, hle⟩ := h k hk
  rwa [hv, Option.elim_some]

theorem total_congr {m : FiniteMap K V} {f g : K → V → ℕ}
    (h : ∀ k v, m.lookup k = some v → f k v = g k v) : total m f = total m g := by
  apply Finset.sum_congr rfl
  intro k _
  cases hk : m.lookup k with
  | none => rfl
  | some v => exact h k v hk

theorem total_mono {m : FiniteMap K V} {f g : K → V → ℕ}
    (h : ∀ k v, m.lookup k = some v → f k v ≤ g k v) : total m f ≤ total m g := by
  apply Finset.sum_le_sum
  intro k _
  cases hk : m.lookup k with
  | none => exact le_rfl
  | some v => exact h k v hk

/-- Two insertions at the same key differ by the contributions of their values. -/
theorem total_insert_insert (m : FiniteMap K V) (a : K) (v v' : V) (f : K → V → ℕ) :
    total (m.insert a v') f + f a v = total (m.insert a v) f + f a v' := by
  have hnew := total_insert m a v' f
  have hold := total_insert m a v f
  omega

/-- The number of entries whose value satisfies a predicate. -/
def count (m : FiniteMap K V) (p : V → Bool) : ℕ :=
  (m.keys.filter fun k ↦ (m.lookup k).any p).card

theorem count_eq_total (m : FiniteMap K V) (p : V → Bool) :
    count m p = total m fun _ v ↦ (p v).toNat := by
  rw [count, total, Finset.card_filter]
  apply Finset.sum_congr rfl
  intro k _
  cases m.lookup k with
  | none => rfl
  | some v => cases hp : p v <;> simp [hp]

theorem total_add (m : FiniteMap K V) (f g : K → V → ℕ) :
    total m (fun k v ↦ f k v + g k v) = total m f + total m g := by
  unfold total
  rw [← Finset.sum_add_distrib]
  apply Finset.sum_congr rfl
  intro k _
  cases m.lookup k <;> rfl

theorem total_mul (m : FiniteMap K V) (f : K → V → ℕ) (c : ℕ) :
    total m (fun k v ↦ f k v * c) = total m f * c := by
  unfold total
  rw [Finset.sum_mul]
  apply Finset.sum_congr rfl
  intro k _
  cases m.lookup k with
  | none => exact (Nat.zero_mul c).symm
  | some v => rfl

/-- Rounding down every contribution loses at least as much as rounding down the total. -/
theorem total_div_le (m : FiniteMap K V) (f : K → V → ℕ) (c : ℕ) :
    total m (fun k v ↦ f k v / c) ≤ total m f / c := by
  rcases Nat.eq_zero_or_pos c with rfl | hc
  · simp [total]
    intro k _
    cases m.lookup k <;> rfl
  · rw [Nat.le_div_iff_mul_le hc, ← total_mul]
    exact total_mono fun k v _ ↦ Nat.div_mul_le_self (f k v) c

/-- The total of a difference, when nothing is truncated. -/
theorem total_sub_add {m : FiniteMap K V} {f g : K → V → ℕ}
    (h : ∀ k v, m.lookup k = some v → g k v ≤ f k v) :
    total m (fun k v ↦ f k v - g k v) + total m g = total m f := by
  rw [← total_add]
  exact total_congr fun k v hk ↦ Nat.sub_add_cancel (h k v hk)

/-- Two totals over the same keys differ by what the entries of `S` contribute less. -/
theorem total_add_sum {m m' : FiniteMap K V} {f f' : K → V → ℕ} {w : K → ℕ} {S : Finset K}
    (hkeys : m'.keys = m.keys) (hS : S ⊆ m.keys)
    (h : ∀ k ∈ m.keys, (m'.lookup k).elim 0 (f' k) + (if k ∈ S then w k else 0) =
      (m.lookup k).elim 0 (f k)) : total m' f' + ∑ k ∈ S, w k = total m f := by
  have hsum : ∑ k ∈ S, w k = ∑ k ∈ m.keys, if k ∈ S then w k else 0 := by
    rw [← Finset.sum_filter, Finset.filter_mem_eq_inter, Finset.inter_eq_right.mpr hS]
  rw [hsum, total, hkeys, ← Finset.sum_add_distrib, total]
  exact Finset.sum_congr rfl h

/-! ## Selected keys -/

/-- The keys whose entries satisfy a predicate. -/
def keysWhere (m : FiniteMap K V) (p : K → V → Bool) : Finset K :=
  m.keys.filter fun k ↦ (m.lookup k).any (p k)

theorem mem_keysWhere {m : FiniteMap K V} {p : K → V → Bool} {k : K} :
    k ∈ keysWhere m p ↔ ∃ v, m.lookup k = some v ∧ p k v = true := by
  rw [keysWhere, Finset.mem_filter, Option.any_eq_true]
  constructor
  · exact fun h ↦ h.2
  · rintro ⟨v, hv, hp⟩
    exact ⟨mem_keys_of_lookup hv, v, hv, hp⟩

/-- Pairs of a key and a number from one up to what the map holds under the key are at most as many
as the map holds in total. -/
theorem card_le_total {m : FiniteMap K ℕ} {S : Finset (K × ℕ)}
    (h : ∀ k i, (k, i) ∈ S → 1 ≤ i ∧ i ≤ read m 0 k) : S.card ≤ total m fun _ n ↦ n := by
  have hsub : S ⊆ m.keys.biUnion fun k ↦ (Finset.Icc 1 (read m 0 k)).image (Prod.mk k) := by
    rintro ⟨k, i⟩ hmem
    obtain ⟨hpositive, hle⟩ := h k i hmem
    have hkey : k ∈ m.keys := by
      by_contra hnone
      rw [read_eq_default hnone] at hle
      omega
    rw [Finset.mem_biUnion]
    exact ⟨k, hkey, Finset.mem_image_of_mem _ (Finset.mem_Icc.mpr ⟨hpositive, hle⟩)⟩
  calc S.card
      ≤ ∑ k ∈ m.keys, ((Finset.Icc 1 (read m 0 k)).image (Prod.mk k)).card :=
        (Finset.card_le_card hsub).trans Finset.card_biUnion_le
    _ ≤ ∑ k ∈ m.keys, (m.lookup k).elim 0 fun n ↦ n := by
        refine Finset.sum_le_sum fun k _ ↦ Finset.card_image_le.trans ?_
        rw [Nat.card_Icc, Nat.add_sub_cancel, read]
        cases m.lookup k <;> rfl
    _ = total m fun _ n ↦ n := rfl

/-! ## Counters of sets -/

section Counters

variable {β : Type} {m : FiniteMap K ℕ} {S S' : K → Finset β} {a : K} {x : β}

/-- A map of counters holds the number of members of each set, with no counter where there are none. -/
def Counts (m : FiniteMap K ℕ) (S : K → Finset β) : Prop := ∀ k, read m 0 k = (S k).card

/-- One of the sets got a new member, and its counter is one more. -/
theorem Counts.insert (h : Counts m S) (hx : x ∉ S a)
    (hS : ∀ k y, y ∈ S' k ↔ (k = a ∧ y = x) ∨ y ∈ S k) :
    Counts (m.insert a (read m 0 a + 1)) S' := by
  intro k
  rw [read_insert]
  split
  · next heq =>
    subst heq
    have hset : S' k = Finset.cons x (S k) hx := by
      ext y
      rw [hS, Finset.mem_cons]
      simp
    rw [hset, Finset.card_cons, h k]
  · next hne =>
    have hset : S' k = S k := by
      ext y
      rw [hS]
      simp [hne]
    rw [hset, h k]

/-- A set with a member has a counter. -/
theorem Counts.lookup_eq (h : Counts m S) (hx : x ∈ S a) : m.lookup a = some (S a).card := by
  have hpositive := Finset.card_pos.mpr ⟨x, hx⟩
  have hread := h a
  rw [read] at hread
  cases hlookup : m.lookup a with
  | none =>
    rw [hlookup, Option.getD_none] at hread
    omega
  | some n =>
    rw [hlookup, Option.getD_some] at hread
    rw [hread]

/-- One of the sets lost a member, and its counter is one less. -/
theorem Counts.erase (h : Counts m S) (hx : x ∈ S a)
    (hS : ∀ k y, y ∈ S' k ↔ ¬(k = a ∧ y = x) ∧ y ∈ S k) :
    Counts (m.insert a ((S a).card - 1)) S' := by
  intro k
  rw [read_insert]
  split
  · next heq =>
    subst heq
    classical
    have hset : S' k = (S k).erase x := by
      ext y
      rw [hS, Finset.mem_erase]
      simp
    rw [hset, Finset.card_erase_of_mem hx]
  · next hne =>
    have hset : S' k = S k := by
      ext y
      rw [hS]
      simp [hne]
    rw [hset, h k]

end Counters

/-! ## Iteration in key order -/

section Iteration

variable [LinearOrder K]

/-- The keys in ascending order. -/
def sortedKeys (m : FiniteMap K V) : List K :=
  Quot.liftOn m.keys.val (List.insertionSort (· ≤ ·)) fun left right h ↦ by
    apply List.Perm.eq_of_pairwise' (r := (· ≤ ·))
    · exact List.pairwise_insertionSort _ left
    · exact List.pairwise_insertionSort _ right
    · exact (List.perm_insertionSort _ left).trans (h.trans (List.perm_insertionSort _ right).symm)

/-- The entries in ascending key order. -/
def entries (m : FiniteMap K V) : List (K × V) :=
  (sortedKeys m).filterMap fun k ↦ (m.lookup k).map (k, ·)

omit [DecidableEq K] in
theorem coe_sortedKeys (m : FiniteMap K V) : (sortedKeys m : Multiset K) = m.keys.val := by
  unfold sortedKeys
  induction h : m.keys.val using Quot.inductionOn with
  | h keys => exact Multiset.coe_eq_coe.mpr (List.perm_insertionSort _ keys)

omit [DecidableEq K] in
@[simp]
theorem mem_sortedKeys {m : FiniteMap K V} {k : K} : k ∈ sortedKeys m ↔ k ∈ m.keys := by
  rw [← Multiset.mem_coe, coe_sortedKeys, Finset.mem_val]

omit [DecidableEq K] in
theorem nodup_sortedKeys (m : FiniteMap K V) : (sortedKeys m).Nodup := by
  rw [← Multiset.coe_nodup, coe_sortedKeys]
  exact m.keys.nodup

theorem mem_entries {m : FiniteMap K V} {k : K} {v : V} :
    (k, v) ∈ entries m ↔ m.lookup k = some v := by
  simp only [entries, List.mem_filterMap, mem_sortedKeys, Option.map_eq_some_iff, Prod.mk.injEq]
  constructor
  · rintro ⟨k', -, v', hv, rfl, rfl⟩
    exact hv
  · intro h
    exact ⟨k, mem_keys_of_lookup h, v, h, rfl, rfl⟩

/-- Every key is enumerated at most once. -/
theorem nodup_map_fst_entries (m : FiniteMap K V) : ((entries m).map Prod.fst).Nodup := by
  have hsub : List.Sublist ((entries m).map Prod.fst) (sortedKeys m) := by
    unfold entries
    induction sortedKeys m with
    | nil => exact List.Sublist.refl _
    | cons k rest ih =>
      cases hk : m.lookup k with
      | none => simpa [hk] using ih.cons k
      | some v => simpa [hk] using ih.cons_cons k
  exact hsub.nodup (nodup_sortedKeys m)

end Iteration

end FiniteMap
