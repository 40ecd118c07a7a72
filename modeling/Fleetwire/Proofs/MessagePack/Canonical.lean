import Fleetwire.Proofs.Framing
import Fleetwire.Proofs.MessagePack.Shapes

namespace Fleetwire.MessagePack

namespace Reader

variable {α β : Type}

structure Yields (read : Reader α) (P : α → Prop) : Prop where
  holds : ∀ {bytes value rest}, read bytes = .ok (value, rest) → P value

variable {P : α → Prop} {Q : β → Prop}

theorem Yields.mono {read : Reader α} {P' : α → Prop} (h : read.Yields P) (weaker : ∀ value, P value → P' value) :
    read.Yields P' :=
  ⟨fun result => weaker _ (h.holds result)⟩

theorem yields_any (read : Reader α) : read.Yields fun _ => True := ⟨fun _ => trivial⟩

theorem yields_pure {value : α} (h : P value) : Yields (pure value) P := by
  refine ⟨fun result => ?_⟩
  cases result
  exact h

theorem yields_throw (error : DecodeError) : Yields (throw error : Reader α) P := by
  refine ⟨fun result => ?_⟩
  cases result

theorem yields_lift {result : Except DecodeError α} (h : ∀ value, result = .ok value → P value) :
    Yields (liftM result : Reader α) P := by
  cases result with
  | error error => exact yields_throw error
  | ok value => exact yields_pure (h value rfl)

theorem Yields.bind {read : Reader α} {f : α → Reader β} (first : read.Yields P)
    (second : ∀ value, P value → (f value).Yields Q) : (read >>= f).Yields Q := by
  refine ⟨fun whole => ?_⟩
  obtain ⟨value, rest, found, result⟩ := exists_of_bind_ok whole
  exact (second value (first.holds found)).holds result

theorem Yields.map {read : Reader α} {f : α → β} (h : read.Yields P) (image : ∀ value, P value → Q (f value)) :
    (f <$> read).Yields Q :=
  h.bind (f := fun value => pure (f value)) fun value holds => yields_pure (image value holds)

theorem yields_ite {condition : Prop} [Decidable condition] {yes no : Reader α} (first : yes.Yields P)
    (second : no.Yields P) : (if condition then yes else no : Reader α).Yields P := by
  split
  · exact first
  · exact second

theorem yields_take (n : Nat) (short : DecodeError) : (take n short).Yields fun bytes => bytes.length = n := by
  refine ⟨fun result => ?_⟩
  unfold take at result
  split at result
  · cases result
  next enough =>
    cases result
    exact List.length_take_of_le (Nat.le_of_not_lt enough)

theorem yields_natural (width : Nat) : (natural width).Yields fun n => n < Bytes.span width :=
  (yields_take width _).map fun bytes length => length ▸ Bytes.toNat_lt_span bytes

theorem yields_contents (length : Nat) : (contents length).Yields fun bytes => bytes.length = length :=
  yields_take ..

end Reader

open Fleetwire.MessagePack.Reader

def Marker.Small : Marker → Prop
  | fixStr n | fixArray n | fixMap n => n < lengthLimit
  | _ => True

theorem Marker.small_ofByte (b : UInt8) : (ofByte b).Small := by
  have byte := b.toNat_lt
  unfold ofByte
  dsimp only
  split
  · trivial
  · split
    · show _ < 0x100000000
      omega
    · split
      · show _ < 0x100000000
        omega
      · split
        · show _ < 0x100000000
          omega
        · split <;> trivial

theorem Reader.yields_marker : marker.Yields Marker.Small := by
  refine ⟨fun {bytes m rest} result => ?_⟩
  cases bytes with
  | nil => cases result
  | cons b bytes =>
    cases result
    exact Marker.small_ofByte b

namespace Item

def Countable : Item → Prop
  | str bytes | bin bytes => bytes.length < lengthLimit
  | array n | map n => n < lengthLimit
  | _ => True

theorem yields_lengthed (width : Nat) (narrow : Bytes.span width ≤ lengthLimit) {make : Bytes → Item}
    (countable : ∀ bytes : Bytes, bytes.length < lengthLimit → (make bytes).Countable) :
    Yields (do return make (← contents (← natural width))) Countable :=
  (yields_natural width).bind fun length small => (yields_contents length).bind fun bytes same =>
    yields_pure (countable bytes (same ▸ Nat.lt_of_lt_of_le small narrow))

theorem yields_counted (width : Nat) (narrow : Bytes.span width ≤ lengthLimit) {make : Nat → Item}
    (countable : ∀ n < lengthLimit, (make n).Countable) : (make <$> natural width).Yields Countable :=
  (yields_natural width).map fun n small => countable n (Nat.lt_of_lt_of_le small narrow)

theorem yields_body {m : Marker} (small : m.Small) : (body m).Yields Countable := by
  unfold body
  split
  · exact (yields_any _).map fun _ _ => trivial
  · split
    case h_4 => exact (yields_contents _).map fun _ same => Nat.lt_of_le_of_lt (Nat.le_of_eq same) small
    case h_5 | h_6 | h_7 | h_8 | h_9 | h_10 => exact yields_lengthed _ (by decide) fun _ length => length
    case h_12 | h_13 | h_15 | h_16 => exact yields_counted _ (by decide) fun _ length => length
    case h_11 | h_14 => exact yields_pure small
    case h_22 | h_23 | h_24 => exact yields_counted _ (by decide) fun _ _ => trivial
    case h_25 => exact yields_throw _
    all_goals exact yields_pure trivial

theorem yields_read (depth : Nat) : (read depth).Yields Countable :=
  yields_marker.bind fun _ small => (yields_body small).bind fun _ countable =>
    yields_ite ((yields_any (throw _)).bind fun _ _ => yields_pure countable) (yields_pure countable)

end Item

namespace Wire

variable {α : Type} {depth : Nat}

/-- Whatever is read this way, be it from its own item or from a byte of a binary, is such a value. -/
structure Gives (wire : Wire α) (P : α → Prop) : Prop where
  read : ∀ depth, (wire.read depth).Yields P
  ofByte : ∀ b value, wire.ofByte b = .ok value → P value

theorem textFits_of_decode? {bytes : Bytes} {value : String} (short : bytes.length < lengthLimit)
    (decoded : Utf8.decode? bytes = some value) : TextFits value := by
  rw [TextFits, Utf8.encode_of_decode? decoded]
  exact short

theorem gives_text : text.Gives TextFits := by
  refine ⟨fun depth => ?_, nofun⟩
  refine (Item.yields_read depth).bind fun item countable => ?_
  split
  · split
    next value decoded => exact yields_pure (textFits_of_decode? countable decoded)
    · exact yields_throw _
  · split
    next value decoded => exact yields_pure (textFits_of_decode? countable decoded)
    · exact yields_throw _
  · exact yields_throw _

theorem yields_many {read : Reader α} {P : α → Prop} (h : read.Yields P) (n : Nat) :
    (many read n).Yields fun values => values.length = n ∧ ∀ value ∈ values, P value := by
  induction n with
  | zero => exact yields_pure ⟨rfl, nofun⟩
  | succ n ih =>
    refine h.bind fun value first => ih.bind fun values others => yields_pure ?_
    exact ⟨congrArg Nat.succ others.1, List.forall_mem_cons.2 ⟨first, others.2⟩⟩

theorem yields_mapM {P : α → Prop} {read : UInt8 → Except DecodeError α} (h : ∀ b value, read b = .ok value → P value)
    (bytes : Bytes) : Yields (bytes.mapM fun b => (liftM (read b) : Reader α))
      fun values => values.length = bytes.length ∧ ∀ value ∈ values, P value := by
  induction bytes with
  | nil => exact yields_pure ⟨rfl, nofun⟩
  | cons b bytes ih =>
    rw [List.mapM_cons]
    refine (yields_lift (h b)).bind fun value first => ih.bind fun values others => yields_pure ?_
    exact ⟨congrArg Nat.succ others.1, List.forall_mem_cons.2 ⟨first, others.2⟩⟩

theorem gives_list {item : Wire α} {P : α → Prop} (h : item.Gives P) :
    (list item).Gives fun values => values.length < lengthLimit ∧ ∀ value ∈ values, P value := by
  refine ⟨fun depth => ?_, nofun⟩
  refine (Item.yields_read depth).bind fun found countable => ?_
  split
  · exact (yields_many (h.read _) _).mono fun values all => ⟨all.1 ▸ countable, all.2⟩
  · exact (yields_mapM h.ofByte _).mono fun values all => ⟨all.1 ▸ countable, all.2⟩
  · exact yields_throw _

theorem gives_bytes : bytes.Gives fun value => value.length < lengthLimit := by
  refine ⟨fun depth => ?_, nofun⟩
  refine (Item.yields_read depth).bind fun item countable => ?_
  split
  · exact yields_pure countable
  · exact yields_pure countable
  · refine (yields_many (yields_any _) _).bind fun values all => yields_pure ?_
    rw [List.length_map, all.1]
    exact countable
  · exact yields_throw _

theorem gives_field (t : FieldType) : (field t).Gives t.Fits := by
  cases t with
  | text => exact gives_text
  | bytes => exact gives_bytes
  | texts => exact gives_list gives_text
  | int | float | id | status => exact ⟨fun depth => yields_any _, fun _ _ _ => trivial⟩

theorem length_insertEntry_le (key value : String) (entries : List (String × String)) :
    (Table.insertEntry key value entries).length ≤ entries.length + 1 := by
  induction entries with
  | nil => exact Nat.le_refl 1
  | cons entry entries ih =>
    rw [Table.insertEntry]
    split
    · exact Nat.le_refl _
    · split
      · exact Nat.le_succ _
      · exact Nat.succ_le_succ ih

theorem yields_readEntries (depth n : Nat) {found : Table}
    (fits : ∀ entry ∈ found.entries, TextFits entry.1 ∧ TextFits entry.2) :
    (readEntries depth n found).Yields fun table => table.entries.length ≤ found.entries.length + n ∧
      ∀ entry ∈ table.entries, TextFits entry.1 ∧ TextFits entry.2 := by
  induction n generalizing found with
  | zero => exact yields_pure ⟨Nat.le_refl _, fits⟩
  | succ n ih =>
    refine (gives_text.read depth).bind fun key keyFits => (gives_text.read depth).bind fun value valueFits => ?_
    have inserted : ∀ entry ∈ (found.insert key value).entries, TextFits entry.1 ∧ TextFits entry.2 := by
      intro entry member
      rcases Table.mem_insertEntry member with rfl | old
      · exact ⟨keyFits, valueFits⟩
      · exact fits entry old
    have longer := length_insertEntry_le key value found.entries
    refine (ih inserted).mono fun table whole => ⟨?_, whole.2⟩
    have count := whole.1
    simp only [Table.insert] at count
    omega

theorem yields_table (depth : Nat) : (table.read depth).Yields Shape.table.Fits := by
  refine (Item.yields_read depth).bind fun item countable => ?_
  split
  next n =>
    have none : ∀ entry ∈ Table.empty.entries, TextFits entry.1 ∧ TextFits entry.2 := nofun
    refine (yields_readEntries _ n none).mono fun table whole => ⟨?_, whole.2⟩
    have bound : table.entries.length ≤ 0 + n := whole.1
    rw [Nat.zero_add] at bound
    exact Nat.lt_of_le_of_lt bound countable
  · exact yields_throw _

end Wire

instance : (t : FieldType) → (value : t.Value) → Decidable (t.Fits value)
  | .text, (value : String) => inferInstanceAs (Decidable ((Utf8.encode value).length < lengthLimit))
  | .bytes, (value : Bytes) => inferInstanceAs (Decidable (value.length < lengthLimit))
  | .texts, (values : List String) => inferInstanceAs (Decidable
    (values.length < lengthLimit ∧ ∀ value ∈ values, (Utf8.encode value).length < lengthLimit))
  | .int _, _ | .float, _ | .id, _ | .status, _ => inferInstanceAs (Decidable True)

def FieldsSpared (fields : List Field) : Prop := ∀ f ∈ fields, ∀ value ∈ f.absent, f.type.Fits value

instance (fields : List Field) : Decidable (FieldsSpared fields) :=
  inferInstanceAs (Decidable (∀ f ∈ fields, ∀ value ∈ f.absent, f.type.Fits value))

def Shape.Spared : Shape → Prop
  | .record r | .records r => FieldsSpared r.fields
  | .unit | .plain _ | .table => True

instance : (shape : Shape) → Decidable shape.Spared
  | .record r | .records r => inferInstanceAs (Decidable (FieldsSpared r.fields))
  | .unit | .plain _ | .table => inferInstanceAs (Decidable True)

namespace Wire

def Slots.Fit : (fields : List Field) → Slots fields → Prop
  | [], () => True
  | f :: fields, (value, slots) => (∀ found ∈ value, f.type.Fits found) ∧ Slots.Fit fields slots

theorem Slots.fit_empty (fields : List Field) : Slots.Fit fields (Slots.empty fields) := by
  induction fields with
  | nil => trivial
  | cons f fields ih => exact ⟨nofun, ih⟩

theorem Slots.yields_fill (depth : Nat) {fields : List Field} {slots : Slots fields} (fit : Slots.Fit fields slots)
    (index : Nat) : (Slots.fill depth fields index slots).Yields (Slots.Fit fields) := by
  induction fields generalizing index with
  | nil => exact yields_pure trivial
  | cons f fields ih =>
    obtain ⟨value, slots⟩ := slots
    cases index with
    | zero =>
      cases value with
      | none =>
        refine ((gives_field f.type).read depth).bind fun value fits => yields_pure ⟨?_, fit.2⟩
        rintro _ ⟨⟩
        exact fits
      | some => exact yields_throw _
    | succ index => exact (ih fit.2 index).bind fun slots fits => yields_pure ⟨fit.1, fits⟩

theorem Slots.fits_finish {fields : List Field} (spared : FieldsSpared fields) {slots : Slots fields}
    (fit : Slots.Fit fields slots) {values : FieldValues fields} (finished : Slots.finish fields slots = .ok values) :
    FieldValues.Fits fields values := by
  induction fields with
  | nil => trivial
  | cons f fields ih =>
    obtain ⟨own, others⟩ := List.forall_mem_cons.1 spared
    obtain ⟨value, slots⟩ := slots
    rw [Slots.finish] at finished
    split at finished
    · cases finished
    next found here =>
      cases result : Slots.finish fields slots with
      | error error =>
        rw [result] at finished
        cases finished
      | ok values =>
        rw [result] at finished
        cases finished
        refine ⟨?_, ih others fit.2 result⟩
        cases value with
        | none => exact own found here
        | some value => exact fit.1 found here

theorem yields_readFields (fields : List Field) (depth n : Nat) {slots : Slots fields} (fit : Slots.Fit fields slots) :
    (readFields fields depth n slots).Yields (Slots.Fit fields) := by
  induction n generalizing slots with
  | zero => exact yields_pure fit
  | succ n ih =>
    refine (yields_any _).bind fun key _ => ?_
    split
    · exact (Slots.yields_fill depth fit _).bind fun slots fit => ih fit
    · exact (yields_any _).bind fun _ _ => ih fit

theorem yields_readPositions (r : Record) (depth : Nat) {fields : List Field} (spared : FieldsSpared fields)
    (left : Nat) : (readPositions r depth fields left).Yields fun found => FieldValues.Fits fields found.1 := by
  induction fields generalizing left with
  | nil => exact yields_pure trivial
  | cons f fields ih =>
    obtain ⟨own, others⟩ := List.forall_mem_cons.1 spared
    cases left with
    | zero =>
      rw [readPositions]
      split
      · exact yields_throw _
      next value here => exact (ih others 0).bind fun found fits => yields_pure ⟨own value here, fits⟩
    | succ left =>
      exact ((gives_field f.type).read depth).bind fun value first =>
        (ih others left).bind fun found fits => yields_pure ⟨first, fits⟩

theorem fits_ofBytes (r : Record) {fields : List Field} (spared : FieldsSpared fields) {bytes : Bytes}
    {values : FieldValues fields} (read : ofBytes r fields bytes = .ok values) : FieldValues.Fits fields values := by
  induction fields generalizing bytes with
  | nil => trivial
  | cons f fields ih =>
    obtain ⟨own, others⟩ := List.forall_mem_cons.1 spared
    have behind {value : f.type.Value} {bytes : Bytes} (fits : f.type.Fits value)
        (read : (do return (value, ← ofBytes r fields bytes)) = Except.ok values) :
        FieldValues.Fits (f :: fields) values := by
      cases result : ofBytes r fields bytes with
      | error error =>
        rw [result] at read
        cases read
      | ok found =>
        rw [result] at read
        cases read
        exact ⟨fits, ih others result⟩
    cases bytes with
    | nil =>
      rw [ofBytes] at read
      split at read
      · cases read
      next value here => exact behind (own value here) read
    | cons b bytes =>
      rw [ofBytes] at read
      cases first : (field f.type).ofByte b with
      | error error =>
        rw [first] at read
        cases read
      | ok value =>
        rw [first] at read
        exact behind ((gives_field f.type).ofByte b value first) read

theorem gives_record {r : Record} (spared : FieldsSpared r.fields) :
    (record r).Gives (FieldValues.Fits r.fields) := by
  refine ⟨fun depth => ?_, nofun⟩
  refine (yields_any (Item.read depth)).bind fun item _ => ?_
  cases item with
  | map n =>
    exact (yields_readFields r.fields _ n (Slots.fit_empty _)).bind fun slots fit =>
      yields_lift fun values finished => Slots.fits_finish spared fit finished
  | array n =>
    exact (yields_readPositions r _ spared n).bind fun found fits =>
      yields_ite (yields_pure fits) (yields_throw _)
  | bin bytes => exact yields_lift fun values read => fits_ofBytes r spared read
  | _ => exact yields_throw _

end Wire

/-- Every value that is read can be written. -/
theorem Shape.fits_of_read {shape : Shape} (spared : shape.Spared) (depth : Nat) :
    (shape.wire.read depth).Yields shape.Fits := by
  cases shape with
  | unit => exact yields_any _
  | plain t => exact (Wire.gives_field t).read depth
  | table => exact Wire.yields_table depth
  | record r => exact (Wire.gives_record spared).read depth
  | records r => exact (Wire.gives_list (Wire.gives_record spared)).read depth

end Fleetwire.MessagePack
