import TellorPallet.Foundation.Transition

/-!
# Amounts along a run

Every input may contribute an amount, in the state it meets. If each step pays out of a potential and of
what it earns, so does a run. What a level rises by in the steps of a run adds up to what it rises by in
all.
-/

namespace Transition

variable {σ ι : Type} {step : ι → σ → σ} {admits : σ → ι → Prop}

/-- What the inputs of a run contribute together. -/
def accrue (step : ι → σ → σ) (amount : σ → ι → ℕ) : List ι → σ → ℕ
  | [], _ => 0
  | i :: rest, s => amount s i + accrue step amount rest (step i s)

theorem AdmitsAll.mono {admits' : σ → ι → Prop} {inputs : List ι} {s : σ}
    (h : AdmitsAll step admits inputs s) (himp : ∀ s i, admits s i → admits' s i) :
    AdmitsAll step admits' inputs s := by
  induction inputs generalizing s with
  | nil => exact trivial
  | cons i rest ih => exact ⟨himp s i h.1, ih h.2⟩

theorem accrue_congr {amount amount' : σ → ι → ℕ} {inputs : List ι} {s : σ}
    (h : AdmitsAll step (fun s i ↦ amount s i = amount' s i) inputs s) :
    accrue step amount inputs s = accrue step amount' inputs s := by
  induction inputs generalizing s with
  | nil => rfl
  | cons i rest ih => rw [accrue, accrue, h.1, ih h.2]

/-- What every admitted step pays out of the potential and of its earnings, the run does. -/
theorem accrue_add_le (potential : σ → ℕ) {paid earned : σ → ι → ℕ} {inv : σ → Prop}
    (hinv : ∀ s i, inv s → admits s i → inv (step i s))
    (hstep : ∀ s i, inv s → admits s i →
      paid s i + potential (step i s) ≤ potential s + earned s i)
    {inputs : List ι} {s : σ} (hinputs : AdmitsAll step admits inputs s) (hs : inv s) :
    accrue step paid inputs s + potential (run step inputs s) ≤
      potential s + accrue step earned inputs s := by
  induction inputs generalizing s with
  | nil => exact (Nat.zero_add _).le
  | cons i rest ih =>
    have hfirst := hstep s i hs hinputs.1
    have hrest := ih hinputs.2 (hinv s i hs hinputs.1)
    change paid s i + accrue step paid rest (step i s) + potential (run step rest (step i s)) ≤
      potential s + (earned s i + accrue step earned rest (step i s))
    omega

/-- The rises of a level that never falls telescope. -/
theorem add_accrue_eq (level : σ → ℕ) {inv : σ → Prop}
    (hinv : ∀ s i, inv s → admits s i → inv (step i s))
    (hrises : ∀ s i, inv s → admits s i → level s ≤ level (step i s))
    {inputs : List ι} {s : σ} (hinputs : AdmitsAll step admits inputs s) (hs : inv s) :
    level s + accrue step (fun s i ↦ level (step i s) - level s) inputs s =
      level (run step inputs s) := by
  induction inputs generalizing s with
  | nil => rfl
  | cons i rest ih =>
    have hfirst := hrises s i hs hinputs.1
    have hrest := ih hinputs.2 (hinv s i hs hinputs.1)
    change level s + (level (step i s) - level s + accrue step _ rest (step i s)) =
      level (run step rest (step i s))
    omega

end Transition
