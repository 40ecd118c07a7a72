namespace Fleetwire

inductive Status where
  | success
  | failure
deriving DecidableEq, Repr

namespace Status

def name : Status → String
  | success => "Success"
  | failure => "Failure"

def ofName? (name : String) : Option Status :=
  if name = "Success" then some success else if name = "Failure" then some failure else none

theorem ofName?_name (status : Status) : ofName? status.name = some status := by
  cases status <;> decide

def ofIndex? : Nat → Option Status
  | 0 => some success
  | 1 => some failure
  | _ => none

end Status

end Fleetwire
