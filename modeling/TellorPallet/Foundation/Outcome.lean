import Mathlib.Tactic

/-!
# Partial outcomes and bounded arithmetic

Programs that may fail are functions into `Except`. The inversion lemmas below turn "this program
returned `b`" into the facts its successful path established, one bind at a time, so that a caller
never unfolds a callee. The second half is the arithmetic such programs are written in: operations
on naturals that refuse, or clamp, a result above a given bound.
-/

namespace Outcome

variable {ε : Type*} {α β : Type}

/-- Guard a program by a decidable condition. -/
def guard (condition : Prop) [Decidable condition] (error : ε) : Except ε Unit :=
  if condition then .ok () else .error error

/-- Continue with the value of an option, or fail. -/
def okOr (value : Option α) (error : ε) : Except ε α :=
  match value with
  | some a => .ok a
  | none => .error error

@[simp]
theorem bind_eq_ok {program : Except ε α} {next : α → Except ε β} {b : β} :
    (program >>= next) = .ok b ↔ ∃ a, program = .ok a ∧ next a = .ok b := by
  cases program with
  | error e => exact ⟨nofun, nofun⟩
  | ok a => exact ⟨fun h ↦ ⟨a, rfl, h⟩, fun ⟨_, h, hnext⟩ ↦ by cases h; exact hnext⟩

@[simp]
theorem map_eq_ok {program : Except ε α} {f : α → β} {b : β} :
    program.map f = .ok b ↔ ∃ a, program = .ok a ∧ f a = b := by
  cases program with
  | error e => exact ⟨nofun, nofun⟩
  | ok a => exact ⟨fun h ↦ ⟨a, rfl, Except.ok.inj h⟩, fun ⟨_, h, hf⟩ ↦ by cases h; exact congrArg _ hf⟩

@[simp]
theorem pure_eq_ok {a b : α} : (pure a : Except ε α) = .ok b ↔ a = b := by
  simp [pure, Except.pure]

@[simp]
theorem guard_eq_ok {condition : Prop} [Decidable condition] {error : ε} {u : Unit} :
    guard condition error = .ok u ↔ condition := by
  unfold guard
  split <;> simp_all

@[simp]
theorem okOr_eq_ok {value : Option α} {error : ε} {a : α} :
    okOr value error = .ok a ↔ value = some a := by
  cases value <;> simp [okOr]

theorem toOption_eq_some {program : Except ε α} {a : α} : program.toOption = some a ↔ program = .ok a := by
  rcases program with e | b
  · constructor <;> intro h <;> cases h
  · exact ⟨fun h ↦ congrArg Except.ok (Option.some.inj h), fun h ↦ congrArg some (Except.ok.inj h)⟩

/-- A sequence fails where its first program does, or where its second one does after it. -/
theorem bind_eq_error {program : Except ε α} {next : α → Except ε β} {e : ε} :
    (program >>= next) = .error e ↔
      program = .error e ∨ ∃ a, program = .ok a ∧ next a = .error e := by
  cases program with
  | error e' => exact ⟨fun h ↦ Or.inl (by cases h; rfl), fun h ↦ by
      rcases h with h | ⟨_, h, -⟩ <;> cases h
      rfl⟩
  | ok a => exact ⟨fun h ↦ Or.inr ⟨a, rfl, h⟩, fun h ↦ by
      rcases h with h | ⟨_, h, hnext⟩ <;> cases h
      exact hnext⟩

theorem okOr_eq_error {value : Option α} {error e : ε} :
    okOr value error = .error e ↔ value = none ∧ error = e := by
  cases value <;> simp [okOr]

/-- A program that never fails with an error. -/
def Avoids (program : Except ε α) (e : ε) : Prop := program ≠ .error e

@[simp]
theorem avoids_ok {a : α} {e : ε} : Avoids (.ok a : Except ε α) e := nofun

@[simp]
theorem avoids_okOr {value : Option α} {error e : ε} :
    Avoids (okOr value error) e ↔ (value = none → error ≠ e) := by
  rw [Avoids, ne_eq, okOr_eq_error, not_and]

@[simp]
theorem avoids_guard {condition : Prop} [Decidable condition] {error e : ε} :
    Avoids (guard condition error) e ↔ (¬condition → error ≠ e) := by
  unfold guard Avoids
  split <;> simp_all

/-- A sequence avoids an error where both of its programs do. -/
@[simp]
theorem avoids_bind {program : Except ε α} {next : α → Except ε β} {e : ε} :
    Avoids (program >>= next) e ↔
      Avoids program e ∧ ∀ a, program = .ok a → Avoids (next a) e := by
  rw [Avoids, ne_eq, bind_eq_error, not_or, not_exists]
  simp only [not_and]
  rfl

@[simp]
theorem avoids_ite {condition : Prop} [Decidable condition] {program program' : Except ε α} {e : ε} :
    Avoids (if condition then program else program') e ↔
      (condition → Avoids program e) ∧ (¬condition → Avoids program' e) := by
  split <;> simp_all

theorem Avoids.bind_eq_error {program : Except ε α} {next : α → Except ε β} {e : ε}
    (h : Avoids program e) :
    (program >>= next) = .error e ↔ ∃ a, program = .ok a ∧ next a = .error e :=
  Outcome.bind_eq_error.trans (or_iff_right h)

theorem bind_of_ok {program : Except ε α} {next : α → Except ε β} {a : α} (h : program = .ok a) :
    (program >>= next) = next a := by
  rw [h]
  rfl

theorem bind_eq_error_of_avoids {program : Except ε α} {next : α → Except ε β} {e : ε}
    (h : ∀ a, program = .ok a → Avoids (next a) e) :
    (program >>= next) = .error e ↔ program = .error e :=
  bind_eq_error.trans (or_iff_left fun ⟨a, ha, hnext⟩ ↦ h a ha hnext)

theorem exists_eq_ok {program : Except ε α} (h : program.isOk = true) : ∃ a, program = .ok a := by
  cases program with
  | error e => cases h
  | ok a => exact ⟨a, rfl⟩

theorem isOk_iff_exists {program : Except ε α} : program.isOk = true ↔ ∃ a, program = .ok a := by
  refine ⟨exists_eq_ok, ?_⟩
  rintro ⟨a, rfl⟩
  rfl

/-- What a program guarantees of the value it returns, when it returns one. -/
def Ensures (program : Except ε α) (post : α → Prop) : Prop :=
  ∀ a, program = .ok a → post a

@[simp]
theorem ensures_ok {a : α} {post : α → Prop} : Ensures (.ok a : Except ε α) post ↔ post a := by
  simp [Ensures]

theorem Ensures.bind {program : Except ε α} {next : α → Except ε β} {mid : α → Prop}
    {post : β → Prop} (hprogram : Ensures program mid)
    (hnext : ∀ a, mid a → Ensures (next a) post) : Ensures (program >>= next) post := by
  intro b hb
  obtain ⟨a, ha, hab⟩ := bind_eq_ok.mp hb
  exact hnext a (hprogram a ha) b hab

/-- An invariant of one step of a fold is an invariant of the fold. -/
theorem foldlM_invariant {step : β → α → Except ε β} (inv : β → Prop)
    (hstep : ∀ b a b', inv b → step b a = .ok b' → inv b') (items : List α) :
    ∀ b b', inv b → items.foldlM step b = .ok b' → inv b' := by
  have hensures : ∀ b, inv b → Ensures (items.foldlM step b) inv := by
    induction items with
    | nil =>
      intro b hb
      exact ensures_ok.mpr hb
    | cons a rest ih =>
      intro b hb
      rw [List.foldlM_cons]
      exact Ensures.bind (fun mid hmid ↦ hstep b a mid hb hmid) ih
  exact fun b b' hb h ↦ hensures b hb b' h

end Outcome

/-! ## Checked and saturating operations -/

namespace Checked

def add (bound a b : ℕ) : Option ℕ := if a + b ≤ bound then some (a + b) else none

def sub (a b : ℕ) : Option ℕ := if b ≤ a then some (a - b) else none

def mul (bound a b : ℕ) : Option ℕ := if a * b ≤ bound then some (a * b) else none

def div (a b : ℕ) : Option ℕ := if b = 0 then none else some (a / b)

def pow (bound a b : ℕ) : Option ℕ := if a ^ b ≤ bound then some (a ^ b) else none

@[simp]
theorem add_eq_some {bound a b c : ℕ} : add bound a b = some c ↔ a + b ≤ bound ∧ a + b = c := by
  simp [add]

@[simp]
theorem add_eq_none {bound a b : ℕ} : add bound a b = none ↔ bound < a + b := by
  simp [add]

@[simp]
theorem sub_eq_some {a b c : ℕ} : sub a b = some c ↔ b ≤ a ∧ a - b = c := by
  simp [sub]

@[simp]
theorem mul_eq_some {bound a b c : ℕ} : mul bound a b = some c ↔ a * b ≤ bound ∧ a * b = c := by
  simp [mul]

@[simp]
theorem div_eq_some {a b c : ℕ} : div a b = some c ↔ b ≠ 0 ∧ a / b = c := by
  simp [div]

@[simp]
theorem pow_eq_some {bound a b c : ℕ} : pow bound a b = some c ↔ a ^ b ≤ bound ∧ a ^ b = c := by
  simp [pow]

end Checked

namespace Saturating

def add (bound a b : ℕ) : ℕ := min (a + b) bound

def mul (bound a b : ℕ) : ℕ := min (a * b) bound

def pow (bound a b : ℕ) : ℕ := min (a ^ b) bound

theorem add_le (bound a b : ℕ) : add bound a b ≤ a + b := min_le_left _ _

theorem add_le_bound (bound a b : ℕ) : add bound a b ≤ bound := min_le_right _ _

theorem add_eq {bound a b : ℕ} (h : a + b ≤ bound) : add bound a b = a + b := min_eq_left h

theorem le_add {bound a : ℕ} (h : a ≤ bound) (b : ℕ) : a ≤ add bound a b :=
  le_min (Nat.le_add_right a b) h

/-- A running total saturates once. -/
theorem foldl_add {bound a : ℕ} (h : a ≤ bound) (amounts : List ℕ) :
    amounts.foldl (add bound) a = min (a + amounts.sum) bound := by
  induction amounts generalizing a with
  | nil => exact (min_eq_left h).symm
  | cons amount rest ih =>
    rw [List.foldl_cons, ih (add_le_bound _ _ _), List.sum_cons]
    unfold add
    omega

end Saturating
