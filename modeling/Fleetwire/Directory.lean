import Fleetwire.Assoc
import Fleetwire.Line

namespace Fleetwire

structure Directory (Entry Holder : Type) where
  entries : Assoc String Entry := .empty
  transitions : Assoc String (Line Holder) := .empty
deriving Repr

namespace Directory

variable {Entry Holder : Type}

def get? (directory : Directory Entry Holder) (identity : String) : Option Entry :=
  directory.entries.get? identity

def put (directory : Directory Entry Holder) (identity : String) (entry : Entry) :
    Option Entry × Directory Entry Holder :=
  (directory.get? identity, { directory with entries := directory.entries.insert identity entry })

/-- Puts an entry only where there is none, or gives the entry that is there. -/
def putIfFree (directory : Directory Entry Holder) (identity : String) (entry : Entry) :
    Except Entry (Directory Entry Holder) :=
  match directory.get? identity with
  | some holder => .error holder
  | none => .ok { directory with entries := directory.entries.insert identity entry }

def remove (directory : Directory Entry Holder) (identity : String) :
    Option Entry × Directory Entry Holder :=
  (directory.get? identity, { directory with entries := directory.entries.erase identity })

/-- Takes out the entry if it is this very one, so that who was displaced does not take out its
successor. -/
def removeIfHolder [DecidableEq Entry] (directory : Directory Entry Holder) (identity : String)
    (entry : Entry) : Bool × Directory Entry Holder :=
  if directory.get? identity = some entry then
    (true, { directory with entries := directory.entries.erase identity })
  else (false, directory)

theorem get?_put (directory : Directory Entry Holder) (identity other : String) (entry : Entry) :
    (directory.put identity entry).2.get? other =
      if other = identity then some entry else directory.get? other :=
  Assoc.get?_insert ..

theorem get?_remove (directory : Directory Entry Holder) (identity other : String) :
    (directory.remove identity).2.get? other =
      if other = identity then none else directory.get? other :=
  Assoc.get?_erase ..

def size (directory : Directory Entry Holder) : Nat := directory.entries.size

def identities (directory : Directory Entry Holder) : List String :=
  directory.entries.keys.mergeSort fun a b => a ≤ b

theorem mem_identities {directory : Directory Entry Holder} {identity : String} :
    identity ∈ directory.identities ↔ ∃ entry, directory.get? identity = some entry :=
  List.mem_mergeSort.trans Assoc.mem_keys

def agents (directory : Directory Entry Holder) : List Entry := directory.entries.values

theorem mem_agents {directory : Directory Entry Holder} {entry : Entry} :
    entry ∈ directory.agents ↔ ∃ identity, directory.get? identity = some entry :=
  Assoc.mem_values

def transition (directory : Directory Entry Holder) (identity : String) : Line Holder :=
  (directory.transitions.get? identity).getD {}

def joinTransition (directory : Directory Entry Holder) (identity : String) (holder : Holder) :
    Directory Entry Holder :=
  { directory with
    transitions := directory.transitions.insert identity
      ((directory.transition identity).join holder) }

theorem transition_joinTransition (directory : Directory Entry Holder) (identity other : String)
    (holder : Holder) :
    (directory.joinTransition identity holder).transition other =
      if other = identity then (directory.transition identity).join holder
      else directory.transition other := by
  simp only [transition, joinTransition, Assoc.get?_insert]
  split <;> rfl

variable [DecidableEq Holder]

def leaveTransition (directory : Directory Entry Holder) (identity : String) (holder : Holder) :
    Directory Entry Holder :=
  { directory with
    transitions := directory.transitions.insert identity
      ((directory.transition identity).leave holder) }

theorem transition_leaveTransition (directory : Directory Entry Holder) (identity other : String)
    (holder : Holder) :
    (directory.leaveTransition identity holder).transition other =
      if other = identity then (directory.transition identity).leave holder
      else directory.transition other := by
  simp only [transition, leaveTransition, Assoc.get?_insert]
  split <;> rfl

end Directory

end Fleetwire
