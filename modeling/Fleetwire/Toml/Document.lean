import Fleetwire.Toml.Scan

namespace Fleetwire.Toml

structure Document where
  root : Entries := []
  current : Entries := []
  place : Option (List String × String) := none
  repeated : Bool := false

namespace Document

def modifyParent (root : Entries) (path : List String) (change : Entries → Option Entries) :
    Option Entries :=
  Entries.modifyAt false (fun _ entries => change entries) path .header root

def settle (doc : Document) : Option Entries :=
  match doc.place with
  | none => some doc.current
  | some (path, last) =>
    modifyParent doc.root path fun entries =>
      if doc.repeated then
        match entries.get? last with
        | some (.tables elements) =>
          some (entries.replace last (.tables (elements ++ [doc.current])))
        | _ => none
      else entries.add? last (.table .header doc.current)

/-- Begins a table. One that only headers inside it have made so far is taken up again. -/
def open? (doc : Document) (path : List String) (last : String) : Option Document := do
  let root ← doc.settle
  let parent ← modifyParent root path some
  let found := Entries.get? (← tableAt parent path) last
  match found with
  | none => return { root := parent, current := [], place := some (path, last) }
  | some (.table .implied inner) =>
    let root ← modifyParent parent path fun entries => some (entries.erase last)
    return { root, current := inner, place := some (path, last) }
  | some _ => none
where
  tableAt (entries : Entries) : List String → Option Entries
    | [] => some entries
    | key :: path =>
      match entries.get? key with
      | some (.table _ inner) => tableAt inner path
      | some (.tables elements) => do tableAt (← elements.getLast?) path
      | _ => none

def openRepeated? (doc : Document) (path : List String) (last : String) : Option Document := do
  let root ← doc.settle
  let root ← modifyParent root path fun entries =>
    match entries.get? last with
    | none => some (entries ++ [(last, .tables [])])
    | some (.tables _) => some entries
    | some _ => none
  return { root, current := [], place := some (path, last), repeated := true }

/-- Adds an entry to the current table. A dotted key may not enter a table that a header made. -/
def add? (doc : Document) (path : List String) (last : String) (node : Node) : Option Document := do
  let insert (origin : Origin) (entries : Entries) : Option Entries :=
    if !path.isEmpty ∧ origin ≠ .dotted then none else entries.add? last node
  return { doc with current := ← Entries.modifyAt true insert path .header doc.current }

open Scan in
def line (doc : Document) : Scan Document := do
  match ← ahead with
  | '#' :: _ =>
    comment
    lineEnd
    return doc
  | '\n' :: _ | '\r' :: _ =>
    newline
    return doc
  | '[' :: '[' :: _ =>
    literal "[["
    let (path, last) ← key
    literal "]]"
    lineRest
    (doc.openRepeated? path last : Option Document)
  | '[' :: _ =>
    char '['
    let (path, last) ← key
    char ']'
    lineRest
    (doc.open? path last : Option Document)
  | _ =>
    let (path, last) ← key
    char '='
    blanks
    let node ← value (nesting - 1)
    lineRest
    (doc.add? path last node : Option Document)

def lines : (fuel : Nat) → Document → List Char → Option Document
  | 0, _, _ => none
  | fuel + 1, doc, cs =>
    match cs.dropWhile Scan.isBlank with
    | [] => some doc
    | cs => do
      let (doc, cs) ← doc.line cs
      lines fuel doc cs

end Document

def parse? (text : String) : Option Entries :=
  let cs := match text.toList with
    | '\uFEFF' :: cs => cs
    | cs => cs
  (Document.lines (cs.length + 1) {} cs).bind Document.settle

end Fleetwire.Toml
