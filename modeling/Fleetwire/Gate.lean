import Fleetwire.Line

namespace Fleetwire

structure Gate (Member : Type) where
  passes : Nat := 0
  line : Line Member := {}
deriving DecidableEq, Repr

namespace Gate

variable {Member : Type}

def release (gate : Gate Member) (count : Nat) : Gate Member :=
  { gate with passes := gate.passes + count }

variable [DecidableEq Member]

def join (gate : Gate Member) (member : Member) : Gate Member :=
  { gate with line := gate.line.join member }

def pass? (gate : Gate Member) (member : Member) : Option (Gate Member) :=
  if gate.line.admits gate.passes member then
    some { passes := gate.passes - 1, line := gate.line.leave member }
  else none

end Gate

end Fleetwire
