import TellorPallet.Foundation.Ledger

/-!
# Journals

A journal lists the moves between accounts in the order in which they were made. Posting it accounts for
every change of a ledger: a balance changes by what came in and what went out, and the accounts together
hold what they held before.
-/

namespace Ledger

variable {Account : Type} [DecidableEq Account]

/-- One move as a journal records it. -/
structure Entry (Account : Type) where
  source : Account
  dest : Account
  amount : ℕ
deriving DecidableEq, Repr

/-- The entries, posted in their order, lead from one ledger to the other, and each is covered by the
balance its source has when it is posted. -/
inductive Posted : Ledger Account → List (Entry Account) → Ledger Account → Prop where
  | nil (ledger : Ledger Account) : Posted ledger [] ledger
  | cons {ledger ledger' : Ledger Account} {entry : Entry Account} {rest : List (Entry Account)}
      (hcovered : entry.amount ≤ ledger entry.source)
      (hrest : Posted (ledger.move entry.source entry.dest entry.amount) rest ledger') :
      Posted ledger (entry :: rest) ledger'

/-- What the entries take from an account. -/
def outgoing (account : Account) (entries : List (Entry Account)) : ℕ :=
  (entries.map fun entry ↦ if account = entry.source then entry.amount else 0).sum

/-- What the entries give to an account. -/
def incoming (account : Account) (entries : List (Entry Account)) : ℕ :=
  (entries.map fun entry ↦ if account = entry.dest then entry.amount else 0).sum

variable {ledger ledger' ledger'' : Ledger Account} {entries later : List (Entry Account)}

theorem Posted.of_eq (h : ledger' = ledger) : Posted ledger [] ledger' := by
  rw [h]
  exact .nil ledger

theorem Posted.single {source dest : Account} {amount : ℕ} (h : amount ≤ ledger source) :
    Posted ledger [⟨source, dest, amount⟩] (ledger.move source dest amount) :=
  .cons h (.nil _)

theorem Posted.append (h : Posted ledger entries ledger') (hlater : Posted ledger' later ledger'') :
    Posted ledger (entries ++ later) ledger'' := by
  induction h with
  | nil => exact hlater
  | cons hcovered _ ih => exact .cons hcovered (ih hlater)

@[simp] theorem outgoing_nil (account : Account) : outgoing account [] = 0 := rfl

theorem outgoing_cons (account : Account) (entry : Entry Account) :
    outgoing account (entry :: later) =
      (if account = entry.source then entry.amount else 0) + outgoing account later := rfl

theorem outgoing_eq_zero {account : Account} (h : ∀ entry ∈ entries, account ≠ entry.source) :
    outgoing account entries = 0 := by
  simp only [outgoing, List.sum_eq_zero_iff, List.mem_map]
  rintro _ ⟨entry, hentry, rfl⟩
  exact if_neg (h entry hentry)

/-- What the entries move from one account to another. -/
def between (source dest : Account) (entries : List (Entry Account)) : ℕ :=
  (entries.map fun entry ↦
    if source = entry.source ∧ dest = entry.dest then entry.amount else 0).sum

@[simp]
theorem between_nil (source dest : Account) : between source dest [] = 0 := rfl

theorem between_cons (source dest : Account) (entry : Entry Account) :
    between source dest (entry :: later) =
      (if source = entry.source ∧ dest = entry.dest then entry.amount else 0) +
        between source dest later := rfl

theorem between_append (source dest : Account) :
    between source dest (entries ++ later) = between source dest entries + between source dest later := by
  simp [between]

theorem between_eq_zero {source dest : Account}
    (h : ∀ entry ∈ entries, source = entry.source → dest ≠ entry.dest) :
    between source dest entries = 0 := by
  simp only [between, List.sum_eq_zero_iff, List.mem_map]
  rintro _ ⟨entry, hentry, rfl⟩
  exact if_neg fun hboth ↦ h entry hentry hboth.1 hboth.2

/-- Every change of a balance is in the journal. -/
theorem Posted.balance (h : Posted ledger entries ledger') (account : Account) :
    ledger' account + outgoing account entries = ledger account + incoming account entries := by
  induction h with
  | nil => rfl
  | @cons ledger ledger' entry rest hcovered _ ih =>
    have hmove := move_add ledger entry.dest account hcovered
    calc ledger' account + outgoing account (entry :: rest)
        = ledger' account + outgoing account rest +
            (if account = entry.source then entry.amount else 0) := by rw [outgoing_cons]; omega
      _ = ledger.move entry.source entry.dest entry.amount account + incoming account rest +
            (if account = entry.source then entry.amount else 0) := by rw [ih]
      _ = ledger account + (if account = entry.dest then entry.amount else 0) +
            incoming account rest := by omega
      _ = ledger account + incoming account (entry :: rest) := by rw [Nat.add_assoc]; rfl

/-- An account loses at most what the entries take from it. -/
theorem Posted.le_add (h : Posted ledger entries ledger') (account : Account) :
    ledger account ≤ ledger' account + outgoing account entries :=
  (Nat.le_add_right _ _).trans (h.balance account).ge

/-- The accounts that the entries name. -/
def parties (entries : List (Entry Account)) : Finset Account :=
  (entries.map Entry.source ++ entries.map Entry.dest).toFinset

theorem source_mem_parties {entry : Entry Account} (h : entry ∈ entries) :
    entry.source ∈ parties entries := by
  rw [parties, List.mem_toFinset, List.mem_append]
  exact Or.inl (List.mem_map_of_mem h)

theorem dest_mem_parties {entry : Entry Account} (h : entry ∈ entries) :
    entry.dest ∈ parties entries := by
  rw [parties, List.mem_toFinset, List.mem_append]
  exact Or.inr (List.mem_map_of_mem h)

theorem parties_subset_cons (entry : Entry Account) : parties later ⊆ parties (entry :: later) := by
  intro account hmem
  rw [parties, List.mem_toFinset, List.mem_append] at hmem ⊢
  exact hmem.imp (List.mem_cons_of_mem _) (List.mem_cons_of_mem _)

/-- Accounts that no entry names keep their balances. -/
theorem Posted.unchanged (h : Posted ledger entries ledger') {account : Account}
    (haccount : account ∉ parties entries) : ledger' account = ledger account := by
  induction h with
  | nil => rfl
  | @cons ledger ledger' entry rest hcovered _ ih =>
    have hsource : account ≠ entry.source := fun heq ↦
      haccount (heq ▸ source_mem_parties List.mem_cons_self)
    have hdest : account ≠ entry.dest := fun heq ↦
      haccount (heq ▸ dest_mem_parties List.mem_cons_self)
    have hrest : account ∉ parties rest := fun hmem ↦ haccount (parties_subset_cons entry hmem)
    rw [ih hrest, move, if_neg hsource, if_neg hdest]
    rfl

theorem sum_move {accounts : Finset Account} {source dest : Account} {amount : ℕ}
    (hcovered : amount ≤ ledger source) (hsource : source ∈ accounts) (hdest : dest ∈ accounts) :
    ∑ account ∈ accounts, ledger.move source dest amount account =
      ∑ account ∈ accounts, ledger account := by
  have hboth : ∑ account ∈ accounts, ledger.move source dest amount account + amount =
      ∑ account ∈ accounts, ledger account + amount := by
    have heach := Finset.sum_congr rfl fun account (_ : account ∈ accounts) ↦
      move_add ledger dest account hcovered
    rwa [Finset.sum_add_distrib, Finset.sum_add_distrib, Finset.sum_ite_eq', Finset.sum_ite_eq',
      if_pos hsource, if_pos hdest] at heach
  exact Nat.add_right_cancel hboth

/-- Posting entries neither creates nor destroys funds. -/
theorem Posted.sum_eq (h : Posted ledger entries ledger') {accounts : Finset Account}
    (hparties : parties entries ⊆ accounts) :
    ∑ account ∈ accounts, ledger' account = ∑ account ∈ accounts, ledger account := by
  induction h with
  | nil => rfl
  | @cons ledger ledger' entry rest hcovered _ ih =>
    have hrest : parties rest ⊆ accounts := (parties_subset_cons entry).trans hparties
    rw [ih hrest, sum_move hcovered (hparties (source_mem_parties List.mem_cons_self))
      (hparties (dest_mem_parties List.mem_cons_self))]

end Ledger
