import Fleetwire.Bytes
import Fleetwire.Line

namespace Fleetwire

abbrev TaskId := Nat

structure Outbox where
  capacity : Nat
  accepted : List Bytes := []
  takenCount : Nat := 0
  senders : Line TaskId := {}
  isOpen : Bool := true
deriving DecidableEq, Repr

namespace Outbox

def waiting (outbox : Outbox) : List Bytes := outbox.accepted.drop outbox.takenCount

def join (outbox : Outbox) (sender : TaskId) : Outbox :=
  { outbox with senders := outbox.senders.join sender }

def leave (outbox : Outbox) (sender : TaskId) : Outbox :=
  { outbox with senders := outbox.senders.leave sender }

/-- There is room for the sender's envelope, also after those of all who stand before it. -/
def hasRoomFor (outbox : Outbox) (sender : TaskId) : Bool :=
  outbox.senders.admits (outbox.capacity - outbox.waiting.length) sender

def accept (outbox : Outbox) (sender : TaskId) (envelope : Bytes) : Outbox :=
  { outbox.leave sender with accepted := outbox.accepted ++ [envelope] }

def take? (outbox : Outbox) : Option (Bytes × Outbox) :=
  match outbox.waiting with
  | [] => none
  | envelope :: _ => some (envelope, { outbox with takenCount := outbox.takenCount + 1 })

def close (outbox : Outbox) : Outbox := { outbox with isOpen := false }

theorem take?_eq_none {outbox : Outbox} : outbox.take? = none ↔ outbox.waiting = [] := by
  unfold take?
  split <;> simp [*]

theorem take?_eq_some {outbox later : Outbox} {envelope : Bytes} : outbox.take? = some (envelope, later) ↔
    outbox.accepted[outbox.takenCount]? = some envelope ∧
      { outbox with takenCount := outbox.takenCount + 1 } = later := by
  have head : outbox.accepted[outbox.takenCount]? = outbox.waiting.head? := List.head?_drop.symm
  rw [head]
  unfold take?
  split <;> simp [*]

end Outbox

end Fleetwire
