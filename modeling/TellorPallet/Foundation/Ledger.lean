import Mathlib.Tactic

/-!
# Plain ledgers

Balances by account, and the only operation that changes them: moving an amount from one account to
another. A move never creates or destroys funds and touches no third account.
-/

/-- The balance of each account. -/
abbrev Ledger (Account : Type) := Account → ℕ

namespace Ledger

variable {Account : Type} [DecidableEq Account]

/-- The balances after `amount` went from `source` to `dest`. -/
def move (ledger : Ledger Account) (source dest : Account) (amount : ℕ) : Ledger Account :=
  fun account ↦ ledger account - (if account = source then amount else 0) +
    (if account = dest then amount else 0)

theorem move_source (ledger : Ledger Account) {source dest : Account} (amount : ℕ)
    (h : source ≠ dest) : move ledger source dest amount source = ledger source - amount := by
  simp [move, h]

theorem move_dest (ledger : Ledger Account) {source dest : Account} (amount : ℕ)
    (h : source ≠ dest) : move ledger source dest amount dest = ledger dest + amount := by
  simp [move, h.symm]

theorem move_self (ledger : Ledger Account) (account : Account) {amount : ℕ}
    (h : amount ≤ ledger account) : move ledger account account amount = ledger := by
  funext other
  unfold move
  split
  · next heq => subst heq; omega
  · rfl

theorem move_zero (ledger : Ledger Account) (source dest : Account) :
    move ledger source dest 0 = ledger := by
  funext other
  simp [move]

/-- Only the source loses. -/
theorem le_move (ledger : Ledger Account) {source account : Account} (dest : Account) (amount : ℕ)
    (h : account ≠ source) : ledger account ≤ move ledger source dest amount account := by
  simp [move, h]

/-- What a covered move takes from its source and gives to its destination. -/
theorem move_add (ledger : Ledger Account) {source : Account} (dest account : Account) {amount : ℕ}
    (h : amount ≤ ledger source) :
    move ledger source dest amount account + (if account = source then amount else 0) =
      ledger account + (if account = dest then amount else 0) := by
  unfold move
  split
  · next heq =>
    rw [heq]
    omega
  · omega

/-- No account loses more than the amount moved. -/
theorem le_move_add (ledger : Ledger Account) (source dest account : Account) (amount : ℕ) :
    ledger account ≤ move ledger source dest amount account + amount := by
  unfold move
  split <;> split <;> omega

end Ledger
