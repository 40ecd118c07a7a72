namespace Fleetwire

structure Line (Member : Type) where
  members : List Member := []
deriving DecidableEq, Repr

namespace Line

/-- The largest number of places that a line can give out. -/
def placeLimit : Nat := 0x1FFFFFFFFFFFFFFF

variable {Member : Type} [DecidableEq Member]

def join (line : Line Member) (member : Member) : Line Member := ⟨line.members ++ [member]⟩

def leave (line : Line Member) (member : Member) : Line Member :=
  ⟨line.members.filter fun m => m ≠ member⟩

def admits (line : Line Member) (places : Nat) (member : Member) : Bool :=
  (line.members.take places).contains member

def isHeldBy (line : Line Member) (member : Member) : Bool := line.admits 1 member

def isFree (line : Line Member) : Bool := line.members.isEmpty

theorem isHeldBy_iff (line : Line Member) (member : Member) :
    line.isHeldBy member ↔ line.members.head? = some member := by
  cases h : line.members <;> simp [isHeldBy, admits, h, eq_comm]

theorem isHeldBy_unique {line : Line Member} {a b : Member} (ha : line.isHeldBy a)
    (hb : line.isHeldBy b) : a = b := by
  rw [isHeldBy_iff] at ha hb
  exact Option.some.inj (ha.symm.trans hb)

theorem mem_leave {line : Line Member} {a b : Member} :
    a ∈ (line.leave b).members ↔ a ∈ line.members ∧ a ≠ b := by
  simp [leave]

theorem admits_join {line : Line Member} {places : Nat} {a b : Member} (h : line.admits places a) :
    (line.join b).admits places a := by
  simp only [admits, join, List.contains_iff_mem] at h ⊢
  rw [List.take_append]
  exact List.mem_append_left _ h

end Line

end Fleetwire
