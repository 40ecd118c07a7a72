namespace Fleetwire

inductive Level where
  | info
  | warn
  | error
deriving DecidableEq, Repr

def Level.name : Level → String
  | info => "INFO"
  | warn => "WARN"
  | error => "ERROR"

structure LogLine where
  level : Level
  text : String
  fields : List (String × String) := []
deriving DecidableEq, Repr

namespace LogLine

def render (line : LogLine) : String :=
  line.level.name ++ " " ++ line.text ++
    String.join (line.fields.map fun (name, value) => " " ++ name ++ "=" ++ value)

def field? (line : LogLine) (name : String) : Option String := line.fields.lookup name

def addrLE (a b : LogLine) : Bool :=
  match a.field? "addr", b.field? "addr" with
  | none, _ => true
  | some _, none => false
  | some x, some y => x ≤ y

end LogLine

end Fleetwire
