import TellorPallet.Foundation.Transition
import TellorPallet.Runtime.Calls

/-!
# The pallet as a machine

One input at a time: the next block with its time, the hook at its start, a call, or a change of
balance from outside the pallet. A failing call leaves the state as it was. `Admissible` says what
the surroundings never do: turn the clock back, sign for an account of the pallet, take funds out of
one, or hold more than the asset can represent.
-/

namespace TellorPallet

open Transition

variable {AccountId : Type} [DecidableEq AccountId] (cfg : Config AccountId)

inductive Input (AccountId : Type) where
  | newBlock (blockNumber : ℕ) (now : ℕ)
  | onInitialize (send : Sender)
  | extrinsic (send : Sender) (origin : Origin AccountId) (call : Call AccountId)
  | external (account : AccountId) (balance : ℕ)

/-- The input runs code of the pallet: its hook or a call. -/
def Input.runsPallet : Input AccountId → Bool
  | .onInitialize _ => true
  | .extrinsic .. => true
  | _ => false

/-- A call in its storage transaction: when it fails, the state is as before. -/
def applyCall (send : Sender) (s : State AccountId) (origin : Origin AccountId)
    (call : Call AccountId) : State AccountId :=
  match dispatch cfg send s origin call with
  | .ok s' => s'
  | .error _ => s

/-- The state after an input. -/
def step (input : Input AccountId) (s : State AccountId) : State AccountId :=
  match input with
  | .newBlock blockNumber now => { s with blockNumber := blockNumber, now := now }
  | .onInitialize send => onInitialize cfg send s
  | .extrinsic send origin call => applyCall cfg send s origin call
  | .external account balance => { s with ledger := Function.update s.ledger account balance }

/-- The accounts of the pallet: nobody holds a key to them. -/
def palletAccounts : List AccountId :=
  [cfg.account, cfg.tips, cfg.stakingRewards, cfg.disputeFees]

/-- What the surroundings of the pallet may do. -/
def Admissible (s : State AccountId) : Input AccountId → Prop
  | .newBlock _ now => s.now ≤ now
  | .onInitialize _ => True
  | .extrinsic _ origin _ => ∀ account ∈ palletAccounts cfg, origin ≠ .signed account
  | .external account balance =>
    balance ≤ cfg.balanceMax ∧ (account ∈ palletAccounts cfg → s.ledger account ≤ balance)

instance (s : State AccountId) : (input : Input AccountId) → Decidable (Admissible cfg s input)
  | .newBlock _ now => inferInstanceAs (Decidable (s.now ≤ now))
  | .onInitialize _ => inferInstanceAs (Decidable True)
  | .extrinsic _ origin _ =>
    inferInstanceAs (Decidable (∀ account ∈ palletAccounts cfg, origin ≠ .signed account))
  | .external account balance => inferInstanceAs (Decidable (balance ≤ cfg.balanceMax ∧
      (account ∈ palletAccounts cfg → s.ledger account ≤ balance)))

/-- A state before the first block of a run: nothing is stored yet. -/
def IsGenesis (s : State AccountId) : Prop :=
  ∃ ledger blockNumber now, (∀ account, ledger account ≤ cfg.balanceMax) ∧
    s = State.genesis cfg ledger blockNumber now

/-- The states of the runs from empty storage whose inputs are admitted. -/
def ReachableBy (admits : State AccountId → Input AccountId → Prop) (s : State AccountId) : Prop :=
  ∃ s₀, IsGenesis cfg s₀ ∧ Reaches (step cfg) admits s₀ s

/-- The reachable states. -/
def Reachable (s : State AccountId) : Prop := ReachableBy cfg (Admissible cfg) s

theorem ReachableBy.step {admits : State AccountId → Input AccountId → Prop} {s : State AccountId}
    {input : Input AccountId} (h : ReachableBy cfg admits s) (hadmits : admits s input) :
    ReachableBy cfg admits (step cfg input s) := by
  obtain ⟨s₀, hgenesis, hreaches⟩ := h
  exact ⟨s₀, hgenesis, hreaches.tail hadmits⟩

end TellorPallet
