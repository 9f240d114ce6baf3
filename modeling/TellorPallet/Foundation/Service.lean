import TellorPallet.Foundation.Transition
import Mathlib.Data.List.Sort

/-!
# Queues served at a rate

A machine serves a queue when some of its inputs take a number of the earliest entries off it. What is
due by a time is waited for no longer than the rate allows, provided that no input adds to it.
-/

namespace Transition

/-- Dropping from the front of a list that is sorted by a key drops what lies below a bound first. -/
theorem length_filter_drop_le {α : Type} {key : α → ℕ} {items : List α}
    (hsorted : items.Pairwise fun a b ↦ key a ≤ key b) (bound n : ℕ) :
    ((items.drop n).filter fun a ↦ key a ≤ bound).length ≤
      (items.filter fun a ↦ key a ≤ bound).length - n := by
  induction items generalizing n with
  | nil => simp
  | cons first rest ih =>
    obtain ⟨hfirst, hrest⟩ := List.pairwise_cons.mp hsorted
    cases n with
    | zero => exact le_rfl
    | succ n =>
      rw [List.drop_succ_cons]
      by_cases hbound : key first ≤ bound
      · rw [List.filter_cons_of_pos (by simpa using hbound), List.length_cons, Nat.add_sub_add_right]
        exact ih hrest n
      · -- nothing after the first entry lies below the bound either
        have hnone : ∀ a ∈ rest.drop n, ¬ decide (key a ≤ bound) = true := by
          intro a ha
          rw [decide_eq_true_iff]
          exact fun hle ↦ hbound ((hfirst a (List.mem_of_mem_drop ha)).trans hle)
        rw [List.filter_eq_nil_iff.mpr hnone]
        exact Nat.zero_le _

section Backlog

variable {σ ι : Type} {step : ι → σ → σ} {admits : σ → ι → Prop} {serves : ι → Bool} {rate : ℕ}

/-- Every input that serves the queue takes the rate off the backlog, and none adds to it. -/
theorem backlog_run_le (inv : σ → Prop) (backlog : σ → ℕ)
    (hinv : ∀ s i, inv s → admits s i → inv (step i s))
    (hquiet : ∀ s i, inv s → admits s i → backlog (step i s) ≤ backlog s)
    (hserves : ∀ s i, inv s → admits s i → serves i = true → backlog (step i s) ≤ backlog s - rate)
    {inputs : List ι} {s : σ} (hinputs : AdmitsAll step admits inputs s) (hs : inv s) :
    backlog (run step inputs s) ≤ backlog s - rate * inputs.countP serves := by
  induction inputs generalizing s with
  | nil => exact le_rfl
  | cons i rest ih =>
    have hlater : backlog (run step (i :: rest) s) ≤
        backlog (step i s) - rate * rest.countP serves := ih hinputs.2 (hinv s i hs hinputs.1)
    cases hi : serves i with
    | true =>
      have hserved := hserves s i hs hinputs.1 hi
      rw [List.countP_cons_of_pos hi, Nat.mul_succ, Nat.add_comm, ← Nat.sub_sub]
      exact hlater.trans (Nat.sub_le_sub_right hserved _)
    | false =>
      have hkept := hquiet s i hs hinputs.1
      rw [List.countP_cons_of_neg (by rw [hi]; exact Bool.false_ne_true)]
      exact hlater.trans (Nat.sub_le_sub_right hkept _)

end Backlog

end Transition
