import Mathlib.Logic.Relation
import Mathlib.Tactic

/-!
# Runs of a deterministic machine under an environment

A machine is a step function on states driven by inputs; the environment admits some inputs in some
states. `Reaches` is the reflexive transitive closure of the admitted steps. The rules below carry
an invariant, and a reflexive transitive relation between an earlier and a later state, from one
step to a whole run. A history recorded beside the state changes nothing about the runs.
-/

namespace Transition

variable {σ ι : Type} {step : ι → σ → σ} {admits admits' : σ → ι → Prop}

/-- One admitted input. -/
def Step (step : ι → σ → σ) (admits : σ → ι → Prop) (s s' : σ) : Prop :=
  ∃ i, admits s i ∧ step i s = s'

/-- Any number of admitted inputs. -/
def Reaches (step : ι → σ → σ) (admits : σ → ι → Prop) : σ → σ → Prop :=
  Relation.ReflTransGen (Step step admits)

theorem Reaches.refl (s : σ) : Reaches step admits s s := Relation.ReflTransGen.refl

theorem Reaches.trans {s s' s'' : σ} (h : Reaches step admits s s')
    (h' : Reaches step admits s' s'') : Reaches step admits s s'' :=
  Relation.ReflTransGen.trans h h'

theorem Reaches.single {s : σ} {i : ι} (h : admits s i) : Reaches step admits s (step i s) :=
  Relation.ReflTransGen.single ⟨i, h, rfl⟩

theorem Reaches.tail {s s' : σ} {i : ι} (h : Reaches step admits s s') (hi : admits s' i) :
    Reaches step admits s (step i s') :=
  h.trans (Reaches.single hi)

/-- Fewer admitted inputs, fewer runs. -/
theorem Reaches.mono (himp : ∀ s i, admits s i → admits' s i) {s s' : σ}
    (h : Reaches step admits s s') : Reaches step admits' s s' := by
  refine Relation.ReflTransGen.mono ?_ s s' h
  rintro a b ⟨i, hi, hb⟩
  exact ⟨i, himp a i hi, hb⟩

/-- What every admitted step preserves holds throughout a run. -/
theorem Reaches.invariant {inv : σ → Prop}
    (hstep : ∀ s i, inv s → admits s i → inv (step i s)) {s s' : σ}
    (h : Reaches step admits s s') (hs : inv s) : inv s' := by
  induction h with
  | refl => exact hs
  | tail _ hlast ih =>
    obtain ⟨i, hi, rfl⟩ := hlast
    exact hstep _ i ih hi

/-- A reflexive transitive relation established by every admitted step, from states that satisfy an
invariant, relates the two ends of a run. -/
theorem Reaches.related {inv : σ → Prop} {rel : σ → σ → Prop}
    (hrefl : ∀ s, rel s s) (htrans : ∀ a b c, rel a b → rel b c → rel a c)
    (hinv : ∀ s i, inv s → admits s i → inv (step i s))
    (hrel : ∀ s i, inv s → admits s i → rel s (step i s)) {s s' : σ}
    (h : Reaches step admits s s') (hs : inv s) : rel s s' := by
  have hboth : rel s s' ∧ inv s' := by
    induction h with
    | refl => exact ⟨hrefl s, hs⟩
    | tail _ hlast ih =>
      obtain ⟨i, hi, rfl⟩ := hlast
      exact ⟨htrans _ _ _ ih.1 (hrel _ i ih.2 hi), hinv _ i ih.2 hi⟩
  exact hboth.1

/-- The state after a list of inputs. -/
def run (step : ι → σ → σ) (inputs : List ι) (s : σ) : σ :=
  inputs.foldl (fun s i ↦ step i s) s

/-- Every input of the list is admitted when its turn comes. -/
def AdmitsAll (step : ι → σ → σ) (admits : σ → ι → Prop) : List ι → σ → Prop
  | [], _ => True
  | i :: rest, s => admits s i ∧ AdmitsAll step admits rest (step i s)

instance AdmitsAll.decidable [∀ s i, Decidable (admits s i)] :
    ∀ (inputs : List ι) (s : σ), Decidable (AdmitsAll step admits inputs s)
  | [], _ => isTrue trivial
  | i :: rest, s =>
    have := AdmitsAll.decidable rest (step i s)
    inferInstanceAs (Decidable (admits s i ∧ AdmitsAll step admits rest (step i s)))

theorem reaches_run (inputs : List ι) (s : σ) (h : AdmitsAll step admits inputs s) :
    Reaches step admits s (run step inputs s) := by
  induction inputs generalizing s with
  | nil => exact Reaches.refl s
  | cons i rest ih => exact (Reaches.single h.1).trans (ih (step i s) h.2)

/-! ## Recorded runs -/

section Recording

variable {γ : Type} {record : σ → ι → γ → γ}

/-- A machine together with a history: what an input adds to the history depends on the state it
meets. -/
def recording (step : ι → σ → σ) (record : σ → ι → γ → γ) (i : ι) (c : σ × γ) : σ × γ :=
  (step i c.1, record c.1 i c.2)

/-- Every run has a history. -/
theorem Reaches.recorded {s s' : σ} (h : Reaches step admits s s') (g : γ) :
    ∃ g', Reaches (recording step record) (fun c i ↦ admits c.1 i) (s, g) (s', g') := by
  induction h with
  | refl => exact ⟨g, Reaches.refl _⟩
  | tail _ hlast ih =>
    obtain ⟨i, hi, rfl⟩ := hlast
    obtain ⟨g', hg'⟩ := ih
    exact ⟨record _ i g', hg'.tail (i := i) hi⟩

/-- A run with a history is a run. -/
theorem Reaches.forget {c c' : σ × γ}
    (h : Reaches (recording step record) (fun c i ↦ admits c.1 i) c c') :
    Reaches step admits c.1 c'.1 := by
  induction h with
  | refl => exact Reaches.refl _
  | tail _ hlast ih =>
    obtain ⟨i, hi, rfl⟩ := hlast
    exact ih.tail hi

end Recording

end Transition
