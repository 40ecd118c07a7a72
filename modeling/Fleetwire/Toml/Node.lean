import Fleetwire.Text.Binary64

namespace Fleetwire.Toml

inductive Origin where
  | inline
  | inlineDotted
  | header
  | implied
  | dotted
deriving DecidableEq, Repr

inductive Node where
  | string (s : String)
  | integer (i : Int)
  | float (x : Binary64)
  | boolean (b : Bool)
  | datetime
  | array (items : List Node)
  | table (origin : Origin) (entries : List (String × Node))
  | tables (elements : List (List (String × Node)))

abbrev Entries := List (String × Node)

namespace Entries

def get? (entries : Entries) (key : String) : Option Node :=
  (entries.find? fun e => e.1 = key).map (·.2)

def replace (entries : Entries) (key : String) (node : Node) : Entries :=
  entries.map fun e => if e.1 = key then (key, node) else e

def erase (entries : Entries) (key : String) : Entries := entries.filter fun e => e.1 ≠ key

def add? (entries : Entries) (key : String) (node : Node) : Option Entries :=
  if (entries.get? key).isSome then none else some (entries ++ [(key, node)])

/-- Changes the table at `path` below a table of the document. Tables that are missing on the way are
made, as `dotted` tells, by a dotted key or by a header. -/
def modifyAt (dotted : Bool) (change : Origin → Entries → Option Entries) :
    (path : List String) → Origin → Entries → Option Entries
  | [], origin, entries => change origin entries
  | key :: path, _, entries =>
    let made := if dotted then Origin.dotted else .implied
    match entries.get? key with
    | none => do
      let inner ← modifyAt dotted change path made []
      return entries ++ [(key, .table made inner)]
    | some (.table origin inner) =>
      if origin = .inline ∨ origin = .inlineDotted ∨ (dotted ∧ origin = .header) then none
      else do return entries.replace key (.table origin (← modifyAt dotted change path origin inner))
    | some (.tables elements) =>
      match elements.reverse with
      | [] => none
      | last :: before => do
        let last ← modifyAt dotted change path .header last
        return entries.replace key (.tables (before.reverse ++ [last]))
    | some _ => none

/-- Adds an entry under a dotted key between braces. Only tables made by such keys may be entered. -/
def addInline? : (path : List String) → (key : String) → Node → Entries → Option Entries
  | [], key, node, entries => entries.add? key node
  | first :: path, key, node, entries =>
    match entries.get? first with
    | none => do return entries ++ [(first, .table .inlineDotted (← addInline? path key node []))]
    | some (.table .inlineDotted inner) => do
      return entries.replace first (.table .inlineDotted (← addInline? path key node inner))
    | some _ => none

end Entries

end Fleetwire.Toml
