import Fleetwire.Toml.Document

namespace Fleetwire.Toml

def Node.Representable : Node → Prop
  | .integer i => Int64.minValue.toInt ≤ i ∧ i ≤ Int64.maxValue.toInt
  | .string _ | .float _ | .boolean _ | .datetime | .array _ | .table _ _ | .tables _ => True

namespace Scan

variable {α β : Type} {P : α → Prop} {Q : β → Prop}

structure Yields (scan : Scan α) (P : α → Prop) : Prop where
  holds : ∀ {cs value rest}, scan cs = some (value, rest) → P value

theorem yields_any (scan : Scan α) : scan.Yields fun _ => True := ⟨fun _ => trivial⟩

theorem yields_pure {value : α} (h : P value) : Yields (pure value) P := by
  refine ⟨fun result => ?_⟩
  cases result
  exact h

theorem yields_failure : Yields (failure : Scan α) P := ⟨nofun⟩

theorem yields_lift {result : Option α} (h : ∀ value, result = some value → P value) :
    Yields (liftM result : Scan α) P := by
  cases result with
  | none => exact ⟨nofun⟩
  | some value => exact yields_pure (h value rfl)

theorem Yields.bind {scan : Scan α} {f : α → Scan β} (first : scan.Yields P)
    (second : ∀ value, P value → (f value).Yields Q) : Yields (scan >>= f) Q := by
  refine ⟨fun {cs value rest} whole => ?_⟩
  obtain ⟨⟨between, left⟩, found, result⟩ := Option.bind_eq_some_iff.1 whole
  exact (second between (first.holds found)).holds result

theorem Yields.map {scan : Scan α} {f : α → β} (image : ∀ value, Q (f value)) : Yields (f <$> scan) Q :=
  (yields_any scan).bind (f := fun value => pure (f value)) fun value _ => yields_pure (image value)

theorem Yields.either {first second : Scan α} (one : first.Yields P) (other : second.Yields P) :
    (either first second).Yields P := by
  refine ⟨fun {cs value rest} result => ?_⟩
  unfold Scan.either at result
  split at result
  next found =>
    cases result
    exact one.holds found
  · exact other.holds result

theorem yields_inRange (i : Int) : (inRange i).Yields Node.Representable := by
  unfold inRange
  split
  next fits => exact yields_pure fits
  · exact yields_failure

theorem yields_integer : integer.Yields Node.Representable := by
  unfold integer
  have radix (mark : String) (n : Nat) (p : Char → Bool) : Yields (do
      literal mark
      inRange (valueOf n (← digitRun p))) Node.Representable :=
    (yields_any _).bind fun _ _ => (yields_any _).bind fun _ _ => yields_inRange _
  refine (yields_any ahead).bind fun text _ => ?_
  split
  · exact radix ..
  · exact radix ..
  · exact radix ..
  · exact (yields_any _).bind fun _ _ => (yields_any _).bind fun _ _ => yields_inRange _

theorem yields_decimal : decimal.Yields Node.Representable := by
  unfold decimal
  refine (yields_any _).bind fun negative _ => (yields_any _).bind fun whole _ =>
    (yields_any _).bind fun fraction _ => ?_
  dsimp only
  split
  all_goals
    refine (yields_any _).bind fun power _ => ?_
    split
    · exact yields_failure
    · exact yields_pure trivial

theorem yields_namedFloat : namedFloat.Yields Node.Representable := by
  unfold namedFloat
  refine (yields_any _).bind fun negative _ => .either ?_ ?_
  · exact (yields_any _).bind fun _ _ => yields_pure trivial
  · exact (yields_any _).bind fun _ _ => yields_pure trivial

theorem yields_datetime : datetime.Yields Node.Representable := by
  unfold datetime
  refine .either ?_ ?_
  · exact (yields_any _).bind fun _ _ => (yields_any _).bind fun _ _ => yields_pure trivial
  · exact (yields_any _).bind fun _ _ => yields_pure trivial

theorem yields_scalar : scalar.Yields Node.Representable := by
  unfold scalar
  refine (yields_any ahead).bind fun text _ => ?_
  split
  · exact .map fun _ => trivial
  · exact .map fun _ => trivial
  · exact (yields_any _).bind fun _ _ => yields_pure trivial
  · exact (yields_any _).bind fun _ _ => yields_pure trivial
  · exact yields_datetime.either (yields_decimal.either (yields_namedFloat.either yields_integer))

theorem yields_value (depth : Nat) : (value depth).Yields Node.Representable := by
  refine ⟨fun {cs node rest} result => ?_⟩
  cases depth with
  | zero => exact yields_scalar.holds result
  | succ depth =>
    unfold value at result
    split at result
    · exact (Yields.map fun _ => trivial).holds result
    · split at result
      · cases result
        trivial
      · exact (Yields.map fun _ => trivial).holds result
    · exact yields_scalar.holds result

end Scan

namespace Entries

variable {entries later : Entries} {key : String} {node : Node}

def Representable (entries : Entries) : Prop := ∀ entry ∈ entries, entry.2.Representable

theorem Representable.append (kept : entries.Representable) (key : String) (new : node.Representable) :
    Representable (entries ++ [(key, node)]) := by
  intro entry member
  rcases List.mem_append.1 member with before | last
  · exact kept entry before
  · rw [List.mem_singleton.1 last]
    exact new

theorem Representable.replace (kept : entries.Representable) (key : String) (new : node.Representable) :
    Representable (entries.replace key node) := by
  intro entry member
  obtain ⟨former, before, rfl⟩ := List.mem_map.1 member
  split
  · exact new
  · exact kept former before

theorem Representable.erase (kept : entries.Representable) (key : String) : Representable (entries.erase key) :=
  fun entry member => kept entry (List.mem_filter.1 member).1

theorem Representable.add? (kept : entries.Representable) (new : node.Representable)
    (added : entries.add? key node = some later) : later.Representable := by
  unfold Entries.add? at added
  split at added
  · cases added
  · cases added
    exact kept.append key new

theorem Representable.modifyAt {dotted : Bool} {change : Origin → Entries → Option Entries} {path : List String}
    {origin : Origin} (kept : entries.Representable)
    (keeps : ∀ later, change origin entries = some later → later.Representable)
    (changed : modifyAt dotted change path origin entries = some later) : later.Representable := by
  cases path with
  | nil => exact keeps later changed
  | cons key path =>
    unfold Entries.modifyAt at changed
    dsimp only at changed
    split at changed
    · obtain ⟨inner, _, rest⟩ := Option.bind_eq_some_iff.1 changed
      cases rest
      exact kept.append key trivial
    · split at changed
      · cases changed
      · obtain ⟨inner, _, rest⟩ := Option.bind_eq_some_iff.1 changed
        cases rest
        exact kept.replace key trivial
    · split at changed
      · cases changed
      · obtain ⟨inner, _, rest⟩ := Option.bind_eq_some_iff.1 changed
        cases rest
        exact kept.replace key trivial
    · cases changed

end Entries

namespace Document

structure Representable (doc : Document) : Prop where
  root : doc.root.Representable
  current : doc.place = none → doc.current.Representable

variable {doc later : Document} {entries : Entries} {path : List String} {last : String} {node : Node}

theorem Representable.settle (kept : doc.Representable) (settled : doc.settle = some entries) :
    entries.Representable := by
  unfold Document.settle at settled
  split at settled
  next place =>
    cases settled
    exact kept.current place
  · refine kept.root.modifyAt (fun later changed => ?_) settled
    dsimp only at changed
    split at changed
    · split at changed
      · cases changed
        exact kept.root.replace _ trivial
      · cases changed
    · have new : Node.Representable (.table .header doc.current) := trivial
      exact kept.root.add? new changed

theorem Representable.open? (kept : doc.Representable) (opened : doc.open? path last = some later) :
    later.Representable := by
  unfold Document.open? at opened
  obtain ⟨root, settled, opened⟩ := Option.bind_eq_some_iff.1 opened
  have whole := kept.settle settled
  obtain ⟨parent, modified, opened⟩ := Option.bind_eq_some_iff.1 opened
  have above : parent.Representable := whole.modifyAt (fun later same => by cases same; exact whole) modified
  obtain ⟨table, _, opened⟩ := Option.bind_eq_some_iff.1 opened
  dsimp only at opened
  split at opened
  · cases opened
    exact ⟨above, nofun⟩
  · obtain ⟨root, erased, opened⟩ := Option.bind_eq_some_iff.1 opened
    cases opened
    refine ⟨above.modifyAt (fun later same => ?_) erased, nofun⟩
    cases same
    exact above.erase last
  · cases opened

theorem Representable.openRepeated? (kept : doc.Representable) (opened : doc.openRepeated? path last = some later) :
    later.Representable := by
  unfold Document.openRepeated? at opened
  obtain ⟨root, settled, opened⟩ := Option.bind_eq_some_iff.1 opened
  have whole := kept.settle settled
  obtain ⟨root, modified, opened⟩ := Option.bind_eq_some_iff.1 opened
  cases opened
  refine ⟨whole.modifyAt (fun later changed => ?_) modified, nofun⟩
  dsimp only at changed
  split at changed
  · cases changed
    exact whole.append last trivial
  · cases changed
    exact whole
  · cases changed

theorem Representable.add? (kept : doc.Representable) (new : node.Representable)
    (added : doc.add? path last node = some later) : later.Representable := by
  unfold Document.add? at added
  obtain ⟨current, modified, added⟩ := Option.bind_eq_some_iff.1 added
  cases added
  refine ⟨kept.root, fun place => ?_⟩
  have before := kept.current place
  refine before.modifyAt (fun later changed => ?_) modified
  split at changed
  · cases changed
  · exact before.add? new changed

open Scan in
theorem yields_line (kept : doc.Representable) : doc.line.Yields Representable := by
  unfold line
  refine (yields_any ahead).bind fun text _ => ?_
  split
  · exact (yields_any _).bind fun _ _ => (yields_any _).bind fun _ _ => yields_pure kept
  · exact (yields_any _).bind fun _ _ => yields_pure kept
  · exact (yields_any _).bind fun _ _ => yields_pure kept
  · refine (yields_any _).bind fun _ _ => (yields_any _).bind fun name _ => (yields_any _).bind fun _ _ =>
      (yields_any _).bind fun _ _ => yields_lift fun later opened => kept.openRepeated? opened
  · refine (yields_any _).bind fun _ _ => (yields_any _).bind fun name _ => (yields_any _).bind fun _ _ =>
      (yields_any _).bind fun _ _ => yields_lift fun later opened => kept.open? opened
  · refine (yields_any _).bind fun name _ => (yields_any _).bind fun _ _ => (yields_any _).bind fun _ _ =>
      (yields_value _).bind fun node new => (yields_any _).bind fun _ _ =>
      yields_lift fun later added => kept.add? new added

theorem Representable.lines {fuel : Nat} {cs : List Char} (kept : doc.Representable)
    (read : lines fuel doc cs = some later) : later.Representable := by
  induction fuel generalizing doc cs with
  | zero => cases read
  | succ fuel ih =>
    unfold Document.lines at read
    split at read
    · cases read
      exact kept
    · obtain ⟨⟨next, rest⟩, taken, more⟩ := Option.bind_eq_some_iff.1 read
      exact ih ((yields_line kept).holds taken) more

end Document

theorem representable_of_parse? {text : String} {entries : Entries} (parsed : parse? text = some entries) :
    entries.Representable := by
  unfold parse? at parsed
  obtain ⟨doc, read, settled⟩ := Option.bind_eq_some_iff.1 parsed
  have empty : Document.Representable {} := ⟨nofun, fun _ => nofun⟩
  exact (empty.lines read).settle settled

end Fleetwire.Toml
