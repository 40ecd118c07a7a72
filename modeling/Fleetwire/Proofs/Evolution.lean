import Fleetwire.Proofs.Catalog
import Fleetwire.Proofs.MessagePack.Forms

namespace Fleetwire

open MessagePack

namespace Catalog

def record? : Shape → Option Record
  | .record r | .records r => some r
  | .unit | .plain _ | .table => none

def records : List Record :=
  Message.layout :: Command.all.flatMap fun command => [command.request, command.response].filterMap record?

variable {r : Record}

theorem proper_of_record {shape : Shape} (proper : shape.Proper) (consists : record? shape = some r) : r.Proper := by
  cases shape with
  | record | records =>
    cases consists
    exact proper
  | unit | plain | table => cases consists

theorem proper (listed : r ∈ records) : r.Proper := by
  rcases List.mem_cons.1 listed with rfl | inside
  · exact Message.layout_proper
  · obtain ⟨command, member, side⟩ := List.mem_flatMap.1 inside
    obtain ⟨shape, side, consists⟩ := List.mem_filterMap.1 side
    have proper := Command.proper member
    rcases List.mem_pair.1 side with rfl | rfl
    · exact proper_of_record proper.1 consists
    · exact proper_of_record proper.2 consists

theorem spared_fields : ∀ r ∈ records, ∀ f ∈ r.fields, f.absent.isSome →
    r.name = "AgentIdentity" ∧ f = { name := "ip", type := .text, absent := some "" } ∨
    r.name = "ScriptRequest" ∧ f = { name := "args", type := .texts, absent := some ([] : List String) } := by
  decide +kernel

end Catalog

namespace Message

theorem decode_eq_ok {bytes : Bytes} {m : Message} :
    decode bytes = .ok m ↔ ∃ values, (Shape.record layout).decode bytes = .ok values ∧ m = ofFields values := by
  constructor
  · exact exists_fields_of_decode
  · rintro ⟨values, decoded, rfl⟩
    simp only [decode, decoded]

end Message

section Forms

variable {r : Record} {header header' : Bytes} {entries : List Entry} {elements : List Bytes}

theorem decode_map (listed : r ∈ Catalog.records) (spelled : Spells header (.map entries.length))
    (formed : ∀ entry ∈ entries, entry.Formed (depthLimit - 2)) (rest : Bytes) (values : r.Value) :
    (Shape.record r).decode (header ++ entries.flatMap Entry.bytes ++ rest) = .ok values ↔
      FieldValues.Gathered r.fields entries values := by
  have reads : Reader.Reads (Shape.record r).wire.read (depthLimit - 2 + 1) _ _ :=
    Wire.reads_entries (Catalog.proper listed) (by decide) spelled formed
  exact Wire.decode_append_iff reads (by decide) rest

theorem decode_array (spelled : Spells header (.array elements.length))
    (formed : ∀ element ∈ elements, WellFormed (depthLimit - 2) element) (rest : Bytes) (values : r.Value) :
    (Shape.record r).decode (header ++ elements.flatten ++ rest) = .ok values ↔
      FieldValues.Placed r.fields elements values := by
  have reads : Reader.Reads (Shape.record r).wire.read (depthLimit - 2 + 1) _ _ :=
    Wire.reads_elements (by decide) spelled formed
  exact Wire.decode_append_iff reads (by decide) rest

/-- A map with keys that are names or indexes, known or not, and well-formed values is accepted as a record exactly if
no field occurs twice, every field occurs that may not be left out, and each field that occurs has a value of its type.
The fields then have the values that occur; those that do not occur, an empty address or no arguments. So maps that tell
the same of the fields mean the same. A message is such a record. -/
theorem map_forms_accepted (listed : r ∈ Catalog.records) (spelled : Spells header (.map entries.length))
    (formed : ∀ entry ∈ entries, entry.Formed (depthLimit - 2)) (rest : Bytes) :
    let bytes := header ++ entries.flatMap Entry.bytes ++ rest
    ((∃ values, (Shape.record r).decode bytes = .ok values) ↔
      entries.Pairwise (Entry.Apart r.fields) ∧
      (∀ i : Fin r.fields.length, r.fields[i].absent = none → ∃ entry ∈ entries, entry.key.Names r.fields i) ∧
      ∀ entry ∈ entries, ∀ i, entry.key.Names r.fields i →
        ∃ value : r.fields[i].type.Value, (Shape.plain r.fields[i].type).decode entry.value = .ok value) ∧
    (∀ values : r.Value, (Shape.record r).decode bytes = .ok values → ∀ i : Fin r.fields.length,
      (∀ entry ∈ entries, entry.key.Names r.fields i →
        (Shape.plain r.fields[i].type).decode entry.value = .ok (FieldValues.get values i)) ∧
      ((∀ entry ∈ entries, ¬ entry.key.Names r.fields i) →
        r.fields[i].absent = some (FieldValues.get values i) ∧
        (r.name = "AgentIdentity" ∧ r.fields[i] = { name := "ip", type := .text, absent := some "" } ∨
          r.name = "ScriptRequest" ∧
            r.fields[i] = { name := "args", type := .texts, absent := some ([] : List String) }))) ∧
    (∀ (header' : Bytes) (entries' : List Entry) (rest' : Bytes), Spells header' (.map entries'.length) →
      (∀ entry ∈ entries', entry.Formed (depthLimit - 2)) →
      (entries.filterMap (Entry.told r.fields)).Perm (entries'.filterMap (Entry.told r.fields)) →
      ∀ values, (Shape.record r).decode bytes = .ok values ↔
        (Shape.record r).decode (header' ++ entries'.flatMap Entry.bytes ++ rest') = .ok values) ∧
    ∀ m, Message.decode bytes = .ok m ↔
      ∃ values, (Shape.record Message.layout).decode bytes = .ok values ∧ m = Message.ofFields values := by
  have means := decode_map listed spelled formed rest
  refine ⟨?_, fun values decoded i => ⟨?_, fun lacking => ?_⟩, ?_, fun m => Message.decode_eq_ok⟩
  · exact (exists_congr means).trans FieldValues.exists_gathered
  · exact fun entry member names => ((means values).1 decoded).given entry member i names
  · have absent := ((means values).1 decoded).absent i lacking
    exact ⟨absent, Catalog.spared_fields r listed _ (List.getElem_mem i.isLt) (Option.isSome_of_eq_some absent)⟩
  · intro header' entries' rest' spelled' formed' same values
    have alike : FieldValues.Gathered r.fields entries values ↔ _ :=
      FieldValues.gathered_perm (Catalog.proper listed).distinct same
    exact (means values).trans (alike.trans (decode_map listed spelled' formed' rest' values).symm)

def strangeValue : Bytes := [0x81, 0x01, 0x92, 0xC0, 0xD4, 0x05, 0x07]

theorem strangeValue_wellFormed (height : Nat) : WellFormed (height + 3) strangeValue := by
  have nothing : WellFormed (height + 1) [Marker.null.byte] := .plain .null rfl
  have extension : WellFormed (height + 1) ([Marker.fixExt1.byte] ++ 5 :: [7]) := .ext 5 (.fixedExt (by decide))
  have elements : ∀ element ∈ [[Marker.null.byte], [Marker.fixExt1.byte] ++ 5 :: [7]],
      WellFormed (height + 1) element :=
    List.forall_mem_cons.2 ⟨nothing, List.forall_mem_singleton.2 extension⟩
  have sequence : WellFormed (height + 2) [0x92, 0xC0, 0xD4, 0x05, 0x07] :=
    .array (.smallArray (n := 2) (by decide)) elements
  have one : WellFormed (height + 2) [0x01] := .plain (.smallNatural (n := 1) (by decide)) rfl
  have keys : ∀ entry ∈ [(([0x01], [0x92, 0xC0, 0xD4, 0x05, 0x07]) : Bytes × Bytes)], WellFormed (height + 2) entry.1 :=
    List.forall_mem_singleton.2 one
  exact .map (.smallMap (n := 1) (by decide)) keys (List.forall_mem_singleton.2 sequence)

def olderIdentity : List Entry := [
  { key := .name [0x61, 0x67, 0x65, 0x6E, 0x74, 0x5F, 0x75, 0x75, 0x69, 0x64],
    spelling := [0xC4, 0x0A, 0x61, 0x67, 0x65, 0x6E, 0x74, 0x5F, 0x75, 0x75, 0x69, 0x64], value := [0xA1, 0x61] },
  { key := .index 1, spelling := [0x01], value := [0xA1, 0x32] }]

def newerIdentity : List Entry :=
  { key := .name [0x7A, 0x6F, 0x6E, 0x65], spelling := [0xA4, 0x7A, 0x6F, 0x6E, 0x65], value := strangeValue } ::
    olderIdentity.reverse

theorem letter_wellFormed (height : Nat) (letter : UInt8) : WellFormed height [0xA1, letter] :=
  .plain (@Spells.smallStr [letter] (by simp)) rfl

theorem olderIdentity_formed : ∀ entry ∈ olderIdentity, entry.Formed (depthLimit - 2) := by
  refine List.forall_mem_cons.2 ⟨⟨.inr ?_, letter_wellFormed _ _⟩,
    List.forall_mem_singleton.2 ⟨?_, letter_wellFormed _ _⟩⟩
  · exact @Spells.bin .bin8 1 [0x61, 0x67, 0x65, 0x6E, 0x74, 0x5F, 0x75, 0x75, 0x69, 0x64] (by decide) (by decide)
  · exact .smallNatural (by decide)

theorem newerIdentity_formed : ∀ entry ∈ newerIdentity, entry.Formed (depthLimit - 2) := by
  refine List.forall_mem_cons.2 ⟨⟨.inl ?_, strangeValue_wellFormed _⟩, fun entry member => ?_⟩
  · exact @Spells.smallStr [0x7A, 0x6F, 0x6E, 0x65] (by decide)
  · exact olderIdentity_formed entry (List.mem_reverse.1 member)

theorem agentIdentity_listed : Catalog.agentIdentity ∈ Catalog.records := by decide +kernel

theorem map_forms_accepted_of_newer :
    let read := (Shape.record Catalog.agentIdentity).decode
    let values : Catalog.agentIdentity.Value := ("a", "2", "", ())
    (∀ entry ∈ newerIdentity, entry.Formed (depthLimit - 2)) ∧
    newerIdentity.Pairwise (Entry.Apart Catalog.agentIdentity.fields) ∧
    read ([0x83] ++ newerIdentity.flatMap Entry.bytes ++ [0xC1]) = .ok values ∧
    read ([0x82] ++ olderIdentity.flatMap Entry.bytes ++ []) = .ok values := by
  have spelled : Spells [0x83] (.map newerIdentity.length) := .smallMap (n := 3) (by decide)
  have spelled' : Spells [0x82] (.map olderIdentity.length) := .smallMap (n := 2) (by decide)
  have same : (newerIdentity.filterMap (Entry.told Catalog.agentIdentity.fields)).Perm
      (olderIdentity.filterMap (Entry.told Catalog.agentIdentity.fields)) := by decide +kernel
  have decoded : (Shape.record Catalog.agentIdentity).decode ([0x83] ++ newerIdentity.flatMap Entry.bytes ++ [0xC1]) =
      .ok (("a", "2", "", ()) : Catalog.agentIdentity.Value) := by decide +kernel
  obtain ⟨accepted, _, alike, _⟩ := map_forms_accepted agentIdentity_listed spelled newerIdentity_formed [0xC1]
  exact ⟨newerIdentity_formed, (accepted.1 ⟨_, decoded⟩).1, decoded,
    (alike [0x82] _ [] spelled' olderIdentity_formed same _).1 decoded⟩

/-- An array of well-formed elements is accepted as a record exactly if there is a field for each element, those without
an element may be left out, and each element has the type of its field. It then means the same as a map of the
elements under the names of their fields; with more elements than fields it is refused. Inside other containers arrays
and maps are taken for the same records, and nothing of them is left; so a sequence of records holds in each place the
record that stands there, and is refused if one of them is. -/
theorem array_forms_agree (listed : r ∈ Catalog.records) (spelled : Spells header (.array elements.length))
    (formed : ∀ element ∈ elements, WellFormed (depthLimit - 2) element) (rest : Bytes) :
    let bytes := header ++ elements.flatten
    ((∃ values, (Shape.record r).decode (bytes ++ rest) = .ok values) ↔
      elements.length ≤ r.fields.length ∧
      (∀ i : Fin r.fields.length, elements.length ≤ i → r.fields[i].absent ≠ none) ∧
      ∀ (i : Fin r.fields.length) (element : Bytes), elements[i.val]? = some element →
        ∃ value : r.fields[i].type.Value, (Shape.plain r.fields[i].type).decode element = .ok value) ∧
    (∀ (header' : Bytes) (entries : List Entry) (rest' : Bytes), Spells header' (.map entries.length) →
      (∀ entry ∈ entries, entry.Formed (depthLimit - 2)) → Labelled r.fields elements entries →
      ∀ values, (Shape.record r).decode (bytes ++ rest) = .ok values ↔
        (Shape.record r).decode (header' ++ entries.flatMap Entry.bytes ++ rest') = .ok values) ∧
    (r.fields.length < elements.length → ∃ error, (Shape.record r).decode (bytes ++ rest) = .error error) ∧
    (∀ (height : Nat) (form : Bytes), Form height form → height + 1 < depthLimit → ∀ depth, height + 1 < depth →
      ∀ (rest' left : Bytes) (values : r.Value), (Wire.record r).read depth (form ++ rest') = .ok (values, left) ↔
        left = rest' ∧ (Shape.record r).decode form = .ok values) ∧
    ∀ (header' : Bytes) (rows : List Bytes) (rest' : Bytes), Spells header' (.array rows.length) →
      (∀ row ∈ rows, Form (depthLimit - 3) row) →
      ∀ values, (Shape.records r).decode (header' ++ rows.flatten ++ rest') = .ok values ↔
        List.Forall₂ (fun row value => (Shape.record r).decode row = .ok value) rows values := by
  have means := decode_array (r := r) spelled formed rest
  have proper := Catalog.proper listed
  refine ⟨?_, ?_, fun excess => ?_, ?_, ?_⟩
  · exact (exists_congr means).trans FieldValues.exists_placed
  · intro header' entries rest' spelled' formed' labelled values
    have alike : FieldValues.Gathered r.fields entries values ↔ _ :=
      FieldValues.gathered_iff_placed proper.distinct labelled
    exact (means values).trans (alike.symm.trans (decode_map listed spelled' formed' rest' values).symm)
  · cases decoded : (Shape.record r).decode (header ++ elements.flatten ++ rest) with
    | error error => exact ⟨error, rfl⟩
    | ok values => exact absurd ((means values).1 decoded).few (Nat.not_le.2 excess)
  · intro height form formed' shallow depth room rest' left values
    exact (Wire.reads_form proper formed' shallow).iff room
  · intro header' rows rest' spelled' forms values
    have reads := Wire.reads_rows proper forms (by decide) spelled'
    exact Wire.decode_append_iff reads (by decide) rest'

theorem array_forms_agree_of_older :
    let elements := olderIdentity.map Entry.value
    let values : Catalog.agentIdentity.Value := ("a", "2", "", ())
    (∀ element ∈ elements, WellFormed (depthLimit - 2) element) ∧
    Labelled Catalog.agentIdentity.fields elements olderIdentity ∧
    (Shape.record Catalog.agentIdentity).decode ([0x92] ++ elements.flatten ++ []) = .ok values ∧
    (Shape.record Catalog.agentIdentity).decode ([0x82] ++ olderIdentity.flatMap Entry.bytes ++ []) = .ok values ∧
    (Shape.records Catalog.agentIdentity).decode ([0x91] ++ [[0x92] ++ elements.flatten].flatten ++ []) =
      .ok [values] := by
  have formed (height : Nat) : ∀ element ∈ olderIdentity.map Entry.value, WellFormed height element :=
    List.forall_mem_cons.2 ⟨letter_wellFormed _ _, List.forall_mem_singleton.2 (letter_wellFormed _ _)⟩
  have labelled : Labelled Catalog.agentIdentity.fields (olderIdentity.map Entry.value) olderIdentity := by
    refine ⟨rfl, fun n entry there => ?_⟩
    match n with
    | 0 =>
      cases there
      exact ⟨by decide, by decide +kernel⟩
    | 1 =>
      cases there
      exact ⟨by decide, rfl⟩
    | n + 2 => cases there
  have spelled : Spells [0x92] (.array (olderIdentity.map Entry.value).length) := .smallArray (n := 2) (by decide)
  have spelled' : Spells [0x82] (.map olderIdentity.length) := .smallMap (n := 2) (by decide)
  have sequence : Spells [0x91] (.array 1) := .smallArray (n := 1) (by decide)
  have decoded : (Shape.record Catalog.agentIdentity).decode ([0x92] ++ (olderIdentity.map Entry.value).flatten ++ []) =
      .ok (("a", "2", "", ()) : Catalog.agentIdentity.Value) := by decide +kernel
  obtain ⟨_, alike, _, _, rows⟩ := array_forms_agree agentIdentity_listed spelled (formed _) []
  refine ⟨formed _, labelled, decoded,
    (alike [0x82] _ [] spelled' olderIdentity_formed labelled _).1 decoded, ?_⟩
  have row : Form (depthLimit - 3) ([0x92] ++ (olderIdentity.map Entry.value).flatten) :=
    .array spelled (formed _)
  refine (rows [0x91] [_] [] sequence (List.forall_mem_singleton.2 row) _).2 ?_
  rw [List.append_nil] at decoded
  exact .cons decoded .nil

end Forms

end Fleetwire
