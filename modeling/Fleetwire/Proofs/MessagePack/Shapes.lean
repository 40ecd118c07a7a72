import Fleetwire.Proofs.MessagePack

namespace Fleetwire.MessagePack

open Fleetwire.MessagePack.Reader

def lengthLimit : Nat := 0x100000000

def TextFits (text : String) : Prop := (Utf8.encode text).length < lengthLimit

def FieldType.Fits : (t : FieldType) → t.Value → Prop
  | .text, (value : String) => TextFits value
  | .bytes, (value : Bytes) => value.length < lengthLimit
  | .texts, (values : List String) => values.length < lengthLimit ∧ ∀ value ∈ values, TextFits value
  | .int _, _ | .float, _ | .id, _ | .status, _ => True

def FieldValues.Fits : (fields : List Field) → FieldValues fields → Prop
  | [], () => True
  | f :: fields, (value, values) => f.type.Fits value ∧ FieldValues.Fits fields values

def Shape.Fits : (shape : Shape) → shape.Value → Prop
  | .unit, _ => True
  | .plain t, value => t.Fits value
  | .table, (value : Table) =>
    value.entries.length < lengthLimit ∧ ∀ entry ∈ value.entries, TextFits entry.1 ∧ TextFits entry.2
  | .record r, values => FieldValues.Fits r.fields values
  | .records r, (rows : List r.Value) =>
    rows.length < lengthLimit ∧ ∀ row ∈ rows, FieldValues.Fits r.fields row

/-- The fields of the record can be told from each other by their names. -/
structure Record.Proper (r : Record) : Prop where
  few : r.fields.length < lengthLimit
  names : ∀ f ∈ r.fields, (Utf8.encode f.name).length < lengthLimit
  distinct : (r.fields.map fun f => Utf8.encode f.name).Nodup

instance (r : Record) : Decidable r.Proper :=
  decidable_of_iff (r.fields.length < lengthLimit ∧ (∀ f ∈ r.fields, (Utf8.encode f.name).length < lengthLimit) ∧
    (r.fields.map fun f => Utf8.encode f.name).Nodup)
    ⟨fun ⟨few, names, distinct⟩ => ⟨few, names, distinct⟩, fun ⟨few, names, distinct⟩ => ⟨few, names, distinct⟩⟩

def Shape.Proper : Shape → Prop
  | .record r | .records r => r.Proper
  | .unit | .plain _ | .table => True

instance : (shape : Shape) → Decidable shape.Proper
  | .record r | .records r => inferInstanceAs (Decidable r.Proper)
  | .unit | .plain _ | .table => inferInstanceAs (Decidable True)

namespace Wire

variable {depth : Nat}

theorem takes_str_item {text : String} (fits : TextFits text) (depth : Nat) :
    (Item.read depth).Takes (strBytes text) (.str (Utf8.encode text)) :=
  Item.takes_str _ fits depth

theorem takes_text {value : String} (fits : TextFits value) (depth : Nat) :
    (text.read depth).Takes (text.write value) value := by
  intro rest
  have item := takes_str_item fits depth rest
  simp only [text, bind_ok item, Utf8.decode?_encode]
  rfl

theorem takes_bytes {value : Bytes} (fits : value.length < lengthLimit) (depth : Nat) :
    (bytes.read depth).Takes (bytes.write value) value := by
  intro rest
  have item := Item.takes_bin value fits depth rest
  simp only [bytes, bind_ok item]
  rfl

theorem takes_id (value : MessageId) (depth : Nat) : (id.read depth).Takes (id.write value) value := by
  intro rest
  have fits : value.bytes.length < lengthLimit := by
    rw [value.length_bytes]
    decide
  have item := Item.takes_bin value.bytes fits depth rest
  simp only [id, bind_ok item, MessageId.ofBytes?_bytes]
  rfl

theorem takes_status (value : Status) (depth : Nat) :
    (status.read depth).Takes (status.write value) value := by
  intro rest
  have fits : TextFits value.name := by
    unfold TextFits
    cases value <;> decide +kernel
  have item := takes_str_item fits depth rest
  have single : mapLength? (strBytes value.name ++ rest) = none := by
    cases value <;> rfl
  have variant : readVariant depth (strBytes value.name ++ rest) = .ok (value, rest) := by
    simp only [readVariant, bind_ok item, Utf8.decode?_encode, readVariant.named, Status.ofName?_name]
    rfl
  simp only [status, single, variant]

theorem takes_number {m : Marker} {read : Reader Number} {bytes : Bytes} {n : Number}
    (proper : Marker.ofByte m.byte = m) (announced : Item.number? m = some read) (takes : read.Takes bytes n)
    (wanted : String) : (readNumber wanted).Takes (m.byte :: bytes) n := by
  intro rest
  have first : marker (m.byte :: bytes ++ rest) = .ok (m, bytes ++ rest) := takes_marker proper (bytes ++ rest)
  rw [readNumber, bind_ok first]
  simp only [announced]
  exact takes rest

theorem takes_naturalBytes {n : Nat} (fits : n < 0x10000000000000000) (wanted : String) :
    (readNumber wanted).Takes (naturalBytes n) (.natural n) := by
  unfold naturalBytes
  split
  next small => exact takes_number (Marker.ofByte_fixPos small) rfl (takes_pure _) wanted
  · split
    next fits => exact takes_number (m := .u8) rfl rfl ((takes_natural fits).map _) wanted
    · split
      next fits => exact takes_number (m := .u16) rfl rfl ((takes_natural fits).map _) wanted
      · split
        next fits => exact takes_number (m := .u32) rfl rfl ((takes_natural fits).map _) wanted
        · exact takes_number (m := .u64) rfl rfl ((takes_natural fits).map _) wanted

/-- The number as which a whole number is read back. -/
def numberOf (i : Int) : Number := if 0 ≤ i then .natural i.toNat else .signed i

theorem takes_intBytes {i : Int} (least : -0x8000000000000000 ≤ i) (greatest : i ≤ 0xFFFFFFFFFFFFFFFF)
    (wanted : String) : (readNumber wanted).Takes (intBytes i) (numberOf i) := by
  unfold intBytes numberOf
  split
  · exact takes_naturalBytes (by omega) wanted
  next negative =>
    have signed (width : Nat) (bound : -(Bytes.span width : Int) ≤ 2 * i) :
        (Reader.signed width).Takes (Bytes.ofInt width i) i := takes_signed bound (by omega)
    split
    next small =>
      have above : Int.ofNat (i + 32).toNat - 32 = i := by
        rw [Int.ofNat_eq_natCast]
        omega
      have read := takes_pure (Number.signed (Int.ofNat (i + 32).toNat - 32))
      rw [above] at read
      have announced : Item.number? (.fixNeg (i + 32).toNat) = some (pure (.signed i)) := by
        rw [Item.number?, above]
      exact takes_number (Marker.ofByte_fixNeg (by omega)) announced read wanted
    · split
      next fits =>
        have bound : -(Bytes.span 1 : Int) ≤ 2 * i := by simp only [Bytes.span]; omega
        exact takes_number (m := .i8) rfl rfl ((signed 1 bound).map _) wanted
      · split
        next fits =>
          have bound : -(Bytes.span 2 : Int) ≤ 2 * i := by simp only [Bytes.span]; omega
          exact takes_number (m := .i16) rfl rfl ((signed 2 bound).map _) wanted
        · split
          next fits =>
            have bound : -(Bytes.span 4 : Int) ≤ 2 * i := by simp only [Bytes.span]; omega
            exact takes_number (m := .i32) rfl rfl ((signed 4 bound).map _) wanted
          · have bound : -(Bytes.span 8 : Int) ≤ 2 * i := by simp only [Bytes.span]; omega
            exact takes_number (m := .i64) rfl rfl ((signed 8 bound).map _) wanted

theorem intOfNumber_numberOf (t : IntType) (value : t.Value) :
    intOfNumber t (numberOf value.val) = .ok value := by
  unfold numberOf
  split
  next natural =>
    have same : ((value.val.toNat : Nat) : Int) = value.val := Int.toNat_of_nonneg natural
    simp only [intOfNumber, intOfNumber.inRange, same, IntType.ofInt?_val]
  · simp only [intOfNumber, intOfNumber.inRange, IntType.ofInt?_val]

theorem takes_int (t : IntType) (value : t.Value) (depth : Nat) :
    ((int t).read depth).Takes ((int t).write value) value := by
  intro rest
  obtain ⟨least, greatest⟩ := value.property
  have widest : -0x8000000000000000 ≤ t.least ∧ t.greatest ≤ 0xFFFFFFFFFFFFFFFF := by cases t <;> decide
  have number := takes_intBytes (Int.le_trans widest.1 least) (Int.le_trans greatest widest.2) t.name rest
  simp only [int, bind_ok number, intOfNumber_numberOf]
  rfl

theorem takes_float (value : Binary64) (depth : Nat) : (float.read depth).Takes (float.write value) value := by
  intro rest
  have bits : (natural 8).Takes (Bytes.bigEndian 8 value.bits.toNat) value.bits.toNat :=
    takes_natural value.bits.toNat_lt
  have number := takes_number (m := .f64) rfl rfl (bits.map fun n => Number.float ⟨UInt64.ofNat n⟩) "f64" rest
  rw [UInt64.ofNat_toNat] at number
  simp only [float, bind_ok number]
  rfl

theorem takes_many {α : Type} {read : Reader α} {write : α → Bytes} {values : List α}
    (takes : ∀ value ∈ values, read.Takes (write value) value) :
    (many read values.length).Takes (values.flatMap write) values := by
  induction values with
  | nil => exact takes_pure []
  | cons value values ih =>
    intro rest
    have first := takes value List.mem_cons_self (values.flatMap write ++ rest)
    have others := ih (fun value member => takes value (List.mem_cons_of_mem _ member)) rest
    rw [List.flatMap_cons, List.append_assoc, List.length_cons, many, bind_ok first, bind_ok others]
    rfl

theorem takes_list {α : Type} {item : Wire α} {values : List α} (fits : values.length < lengthLimit)
    (room : 1 < depth) (takes : ∀ value ∈ values, (item.read (depth - 1)).Takes (item.write value) value) :
    ((list item).read depth).Takes ((list item).write values) values := by
  intro rest
  have header := Item.takes_array fits room (values.flatMap item.write ++ rest)
  simp only [list, List.append_assoc, bind_ok header]
  exact takes_many takes rest

theorem insertEntry_of_greatest {key value : String} {entries : List (String × String)}
    (greatest : ∀ entry ∈ entries, entry.1 < key) :
    Table.insertEntry key value entries = entries ++ [(key, value)] := by
  induction entries with
  | nil => rfl
  | cons entry entries ih =>
    have less := greatest entry List.mem_cons_self
    have others := ih fun entry member => greatest entry (List.mem_cons_of_mem _ member)
    rw [Table.insertEntry, if_neg (String.not_lt.2 (Std.le_of_lt less)), if_neg (Std.ne_of_lt less).symm, others]
    rfl

theorem takes_entries {entries : List (String × String)} (found whole : Table)
    (split : whole.entries = found.entries ++ entries)
    (fits : ∀ entry ∈ entries, TextFits entry.1 ∧ TextFits entry.2) (depth : Nat) :
    (readEntries depth entries.length found).Takes
      (entries.flatMap fun (key, value) => strBytes key ++ strBytes value) whole := by
  induction entries generalizing found with
  | nil =>
    have same : whole = found := by
      cases whole
      cases found
      simpa using split
    rw [same]
    exact takes_pure found
  | cons entry entries ih =>
    obtain ⟨key, value⟩ := entry
    obtain ⟨keyFits, valueFits⟩ := fits _ List.mem_cons_self
    -- Entries are written in ascending order, so each is inserted behind those that were read.
    have greatest : ∀ entry ∈ found.entries, entry.1 < key := by
      have ascending := whole.ascending
      rw [split, List.pairwise_append] at ascending
      exact fun entry member => ascending.2.2 entry member _ List.mem_cons_self
    have next : whole.entries = (found.insert key value).entries ++ entries := by
      have inserted : (found.insert key value).entries = found.entries ++ [(key, value)] :=
        insertEntry_of_greatest greatest
      rw [split, inserted, List.append_assoc]
      rfl
    have others := ih _ next fun entry member => fits entry (List.mem_cons_of_mem _ member)
    intro rest
    have first (more : Bytes) : text.read depth (strBytes key ++ more) = .ok (key, more) :=
      takes_text keyFits depth more
    have second (more : Bytes) : text.read depth (strBytes value ++ more) = .ok (value, more) :=
      takes_text valueFits depth more
    rw [List.flatMap_cons, List.append_assoc, List.append_assoc, List.length_cons, readEntries,
      bind_ok (first _), bind_ok (second _)]
    exact others rest

theorem takes_table {value : Table} (fits : Shape.table.Fits value) (room : 1 < depth) :
    (table.read depth).Takes (table.write value) value := by
  intro rest
  have header := Item.takes_map fits.1 room
    ((value.entries.flatMap fun (key, text) => strBytes key ++ strBytes text) ++ rest)
  simp only [table, List.append_assoc]
  exact (bind_ok header).trans (takes_entries .empty value rfl fits.2 (depth - 1) rest)

theorem takes_field (t : FieldType) (value : t.Value) (fits : t.Fits value) (room : 1 < depth) :
    ((field t).read depth).Takes ((field t).write value) value := by
  cases t with
  | text => exact takes_text fits depth
  | int t => exact takes_int t value depth
  | float => exact takes_float value depth
  | bytes => exact takes_bytes fits depth
  | id => exact takes_id value depth
  | status => exact takes_status value depth
  | texts => exact takes_list fits.1 room fun text member => takes_text (fits.2 text member) _

def Slots.full : (fields : List Field) → FieldValues fields → Slots fields
  | [], () => ()
  | _ :: fields, (value, values) => (some value, Slots.full fields values)

theorem finish_full (fields : List Field) (values : FieldValues fields) :
    Slots.finish fields (Slots.full fields values) = .ok values := by
  induction fields with
  | nil => rfl
  | cons f fields ih =>
    obtain ⟨value, values⟩ := values
    simp only [Slots.finish, Slots.full, ih]
    rfl

structure Slots.Places {all last : List Field} (depth first : Nat) (place : Slots last → Slots all) : Prop where
  fill : ∀ {index slots bytes found rest}, Slots.fill depth last index slots bytes = .ok (found, rest) →
    Slots.fill depth all (first + index) (place slots) bytes = .ok (place found, rest)

theorem Slots.Places.next {all last : List Field} {f : Field} {first : Nat} {place : Slots (f :: last) → Slots all}
    (h : Slots.Places depth first place) (value : f.type.Value) :
    Slots.Places depth (first + 1) fun slots => place (some value, slots) := by
  refine ⟨fun {index slots bytes found rest} filled => ?_⟩
  have later : Slots.fill depth (f :: last) (index + 1) (some value, slots) bytes =
      .ok ((some value, found), rest) := by
    rw [Slots.fill]
    exact bind_ok filled
  have placed := h.fill later
  rwa [← Nat.add_assoc, Nat.add_right_comm] at placed

theorem takes_readFields {all last : List Field} {first : Nat} {place : Slots last → Slots all}
    (places : Slots.Places depth first place) (room : 1 < depth) (values : FieldValues last)
    (fits : FieldValues.Fits last values) (names : ∀ f ∈ last, (Utf8.encode f.name).length < lengthLimit)
    (named : ∀ index (inside : index < last.length),
      readKey.named all (Utf8.encode last[index].name) = some (first + index)) :
    (readFields all depth last.length (place (Slots.empty last))).Takes (fieldBytes last values)
      (place (Slots.full last values)) := by
  induction last generalizing first with
  | nil => exact takes_pure _
  | cons f last ih =>
    obtain ⟨value, values⟩ := values
    intro rest
    generalize following : fieldBytes last values ++ rest = bytes
    have key : readKey all depth (strBytes f.name ++ ((field f.type).write value ++ bytes)) =
        .ok (some first, (field f.type).write value ++ bytes) := by
      have item := takes_str_item (names f List.mem_cons_self) depth ((field f.type).write value ++ bytes)
      have own : readKey.named all (Utf8.encode f.name) = some first := named 0 (Nat.zero_lt_succ _)
      rw [readKey, bind_ok item]
      simp only [own]
      rfl
    -- The slot at `first` was empty, so its name is no duplicate.
    have filled : Slots.fill depth all first (place (none, Slots.empty last))
        ((field f.type).write value ++ bytes) = .ok (place (some value, Slots.empty last), bytes) := by
      have read := takes_field f.type value fits.1 room bytes
      have first : Slots.fill depth (f :: last) 0 (none, Slots.empty last) ((field f.type).write value ++ bytes) =
          .ok ((some value, Slots.empty last), bytes) := bind_ok read
      exact places.fill first
    have others := ih (places.next value) values fits.2 (fun f member => names f (List.mem_cons_of_mem _ member))
      (fun index inside => by
        have later := named (index + 1) (Nat.succ_lt_succ inside)
        rwa [List.getElem_cons_succ, Nat.add_comm index, ← Nat.add_assoc] at later) rest
    rw [following] at others
    rw [fieldBytes, List.append_assoc, List.append_assoc, following, List.length_cons, readFields, bind_ok key]
    exact (bind_ok filled).trans others

theorem named_of_distinct {fields : List Field} (distinct : (fields.map fun f => Utf8.encode f.name).Nodup)
    (index : Nat) (inside : index < fields.length) :
    readKey.named fields (Utf8.encode fields[index].name) = some index := by
  rw [readKey.named, List.findIdx?_eq_some_iff_getElem]
  refine ⟨inside, decide_eq_true rfl, fun earlier less same => ?_⟩
  have apart := List.pairwise_iff_getElem.1 distinct earlier index (by simp; omega) (by simpa) less
  simp only [List.getElem_map] at apart
  exact apart (of_decide_eq_true same)

theorem takes_record {r : Record} (proper : r.Proper) {values : r.Value} (fits : FieldValues.Fits r.fields values)
    (room : 2 < depth) : ((record r).read depth).Takes ((record r).write values) values := by
  intro rest
  have header := Item.takes_map proper.few (Nat.lt_of_succ_lt room) (fieldBytes r.fields values ++ rest)
  have places : Slots.Places (depth - 1) 0 fun slots : Slots r.fields => slots :=
    ⟨fun filled => by rwa [Nat.zero_add]⟩
  have fields := takes_readFields places (by omega) values fits proper.names
    (fun index inside => by simpa using named_of_distinct proper.distinct index inside) rest
  simp only [record, List.append_assoc, bind_ok header, bind_ok fields]
  exact congrArg (fun found : Except DecodeError r.Value => (liftM found : Reader r.Value) rest)
    (finish_full r.fields values)

end Wire

/-- Every value that fits is taken back from what is written for it. -/
theorem Shape.takes_read {shape : Shape} (proper : shape.Proper) {value : shape.Value} (fits : shape.Fits value)
    {depth : Nat} (room : 3 < depth) : (shape.wire.read depth).Takes (shape.encode value) value := by
  cases shape with
  | unit => exact fun rest => rfl
  | plain t => exact Wire.takes_field t value fits (by omega)
  | table => exact Wire.takes_table fits (by omega)
  | record r => exact Wire.takes_record proper fits (by omega)
  | records r =>
    exact Wire.takes_list fits.1 (by omega) fun row member => Wire.takes_record proper (fits.2 row member) (by omega)

theorem length_le_flatMap {α : Type} {write : α → Bytes} (some : ∀ value, write value ≠ []) (values : List α) :
    values.length ≤ (values.flatMap write).length ∧
      ∀ value ∈ values, (write value).length ≤ (values.flatMap write).length := by
  induction values with
  | nil => exact ⟨Nat.le_refl _, nofun⟩
  | cons first values ih =>
    have positive := List.length_pos_iff.2 (some first)
    simp only [List.flatMap_cons, List.length_append, List.length_cons, List.forall_mem_cons]
    exact ⟨by omega, by omega, fun value member => Nat.le_add_left_of_le (ih.2 value member)⟩

namespace Wire

theorem mapHeader_ne_nil (length : Nat) : mapHeader length ≠ [] := by
  unfold mapHeader
  repeat' split
  all_goals exact List.cons_ne_nil _ _

theorem strBytes_ne_nil (text : String) : strBytes text ≠ [] := by
  intro none
  obtain ⟨header, -⟩ := List.append_eq_nil_iff.1 none
  unfold strHeader at header
  repeat' split at header
  all_goals cases header

theorem textFits_of_length {text : String} (short : (strBytes text).length < lengthLimit) : TextFits text := by
  rw [strBytes, List.length_append] at short
  exact Nat.lt_of_le_of_lt (Nat.le_add_left ..) short

theorem fits_of_length_field {t : FieldType} {value : t.Value}
    (short : ((field t).write value).length < lengthLimit) : t.Fits value := by
  cases t with
  | text => exact textFits_of_length short
  | bytes =>
    have all : ((field .bytes).write value).length = (binHeader (List.length value)).length + List.length value :=
      List.length_append
    exact Nat.lt_of_le_of_lt (all ▸ Nat.le_add_left ..) short
  | texts =>
    have all : ((field .texts).write value).length =
        (arrayHeader (List.length value)).length + (List.flatMap strBytes value).length := List.length_append
    obtain ⟨count, each⟩ := length_le_flatMap strBytes_ne_nil value
    exact ⟨by omega, fun text member => textFits_of_length (Nat.lt_of_le_of_lt (each text member) (by omega))⟩
  | int | float | id | status => trivial

theorem fits_of_length_fields {fields : List Field} {values : FieldValues fields}
    (short : (fieldBytes fields values).length < lengthLimit) : FieldValues.Fits fields values := by
  induction fields with
  | nil => trivial
  | cons f fields ih =>
    obtain ⟨value, values⟩ := values
    simp only [fieldBytes, List.length_append] at short
    exact ⟨fits_of_length_field (by omega), ih (by omega)⟩

theorem fits_of_length_record {r : Record} {values : r.Value}
    (short : ((record r).write values).length < lengthLimit) : FieldValues.Fits r.fields values := by
  have all : ((record r).write values).length =
      (mapHeader r.fields.length).length + (fieldBytes r.fields values).length := List.length_append
  exact fits_of_length_fields (by omega)

end Wire

theorem Shape.fits_of_length {shape : Shape} {value : shape.Value}
    (short : (shape.encode value).length < lengthLimit) : shape.Fits value := by
  cases shape with
  | unit => trivial
  | plain t => exact Wire.fits_of_length_field short
  | table =>
    have all : (Shape.table.encode value).length = (Wire.mapHeader (Table.entries value).length).length +
        ((Table.entries value).flatMap fun entry => Wire.strBytes entry.1 ++ Wire.strBytes entry.2).length :=
      List.length_append
    have some : ∀ entry : String × String, Wire.strBytes entry.1 ++ Wire.strBytes entry.2 ≠ [] :=
      fun entry none => Wire.strBytes_ne_nil entry.1 (List.append_eq_nil_iff.1 none).1
    obtain ⟨count, each⟩ := length_le_flatMap some (Table.entries value)
    refine ⟨by omega, fun entry member => ?_⟩
    have one := each entry member
    rw [List.length_append] at one
    exact ⟨Wire.textFits_of_length (by omega), Wire.textFits_of_length (by omega)⟩
  | record r => exact Wire.fits_of_length_record short
  | records r =>
    have all : ((Shape.records r).encode value).length = (Wire.arrayHeader (List.length value)).length +
        (List.flatMap (Wire.record r).write value).length := List.length_append
    have some : ∀ row, (Wire.record r).write row ≠ [] := fun row none =>
      Wire.mapHeader_ne_nil _ (List.append_eq_nil_iff.1 none).1
    obtain ⟨count, each⟩ := length_le_flatMap some value
    exact ⟨by omega, fun row member =>
      Wire.fits_of_length_record (Nat.lt_of_le_of_lt (each row member) (by omega))⟩

theorem Shape.decode_encode {shape : Shape} (proper : shape.Proper) {value : shape.Value}
    (short : (shape.encode value).length < lengthLimit) : shape.decode (shape.encode value) = .ok value := by
  have read := Shape.takes_read proper (Shape.fits_of_length short) (show 3 < depthLimit by decide) []
  rw [List.append_nil] at read
  simp only [Shape.decode, read]

namespace Wire

variable {depth : Nat}

theorem steady_text (depth : Nat) : (text.read depth).Steady := by
  refine (Item.steady_read depth).bind fun item => ?_
  split
  · split
    · exact steady_pure _
    · exact steady_throw _
  · split
    · exact steady_pure _
    · exact steady_throw _
  · exact steady_throw _

theorem steady_readNumber (wanted : String) : (readNumber wanted).Steady := by
  refine steady_marker.bind fun m => ?_
  split
  next read announced => exact Item.steady_number announced
  · split <;> exact steady_throw _

theorem steady_int (t : IntType) (depth : Nat) : ((int t).read depth).Steady :=
  (steady_readNumber _).bind fun _ => steady_lift _

theorem Steady.many {α : Type} {read : Reader α} (h : read.Steady) (n : Nat) : (many read n).Steady := by
  induction n with
  | zero => exact steady_pure []
  | succ n ih => exact h.bind fun value => ih.bind fun values => steady_pure (value :: values)

theorem steady_mapM {α : Type} (bytes : Bytes) (read : UInt8 → Except DecodeError α) :
    Steady (bytes.mapM fun b => (liftM (read b) : Reader α)) := by
  induction bytes with
  | nil => exact steady_pure []
  | cons b bytes ih =>
    rw [List.mapM_cons]
    exact (steady_lift _).bind fun value => ih.bind fun values => steady_pure (value :: values)

theorem steady_list {α : Type} {item : Wire α} (h : (item.read (depth - 1)).Steady) :
    ((list item).read depth).Steady := by
  refine (Item.steady_read depth).bind fun found => ?_
  split
  · exact Steady.many h _
  · exact steady_mapM _ _
  · exact steady_throw _

theorem steady_bytes (depth : Nat) : (bytes.read depth).Steady := by
  refine (Item.steady_read depth).bind fun item => ?_
  split
  · exact steady_pure _
  · exact steady_pure _
  · exact (Steady.many (steady_int .u8 _) _).bind fun _ => steady_pure _
  · exact steady_throw _

theorem steady_id (depth : Nat) : (id.read depth).Steady := by
  refine (Item.steady_read depth).bind fun item => ?_
  split
  · split
    · exact steady_pure _
    · exact steady_throw _
  · split
    · exact steady_pure _
    · exact steady_throw _
  · exact steady_throw _

theorem steady_named (name : String) : (readVariant.named name).Steady := by
  unfold readVariant.named
  split
  · exact steady_pure _
  · exact steady_throw _

theorem steady_readVariant (depth : Nat) : (readVariant depth).Steady := by
  refine (Item.steady_read depth).bind fun item => ?_
  split
  · split
    · exact steady_named _
    · exact steady_throw _
  · split
    · exact steady_named _
    · exact steady_throw _
  · split
    · exact steady_pure _
    · exact steady_throw _
  · exact steady_throw _

theorem steady_entry (depth : Nat) : (status.entry depth).Steady := by
  refine (steady_readVariant depth).bind fun value => steady_marker.bind fun m => ?_
  split
  · exact steady_pure _
  · exact steady_throw _

theorem mapLength?_append {bytes rest : Bytes} {n : Nat} (found : mapLength? bytes = some (n, rest))
    (more : Bytes) : mapLength? (bytes ++ more) = some (n, rest ++ more) := by
  have counted (width : Nat) (bytes : Bytes) (found : (natural width bytes).toOption = some (n, rest)) :
      (natural width (bytes ++ more)).toOption = some (n, rest ++ more) := by
    cases read : natural width bytes with
    | error error =>
      rw [read] at found
      cases found
    | ok result =>
      rw [read] at found
      cases found
      rw [(steady_natural width).extend read]
      rfl
  cases bytes with
  | nil => cases found
  | cons b bytes =>
    unfold mapLength? at found ⊢
    simp only [marker, List.cons_append] at found ⊢
    generalize Marker.ofByte b = m at found
    cases m with
    | fixMap => cases found; rfl
    | map16 | map32 => exact counted _ _ found
    | _ => cases found

theorem mapLength?_of_variant {bytes rest : Bytes} {value : Status}
    (read : readVariant depth bytes = .ok (value, rest)) (more : Bytes) : mapLength? (bytes ++ more) = none := by
  obtain ⟨item, left, found, result⟩ := exists_of_bind_ok read
  obtain ⟨m, after, first, found⟩ := exists_of_bind_ok found
  obtain ⟨item', left', inside, found⟩ := exists_of_bind_ok found
  have same : item' = item := by
    split at found
    · cases found
    · cases found; rfl
  subst same
  cases bytes with
  | nil => cases first
  | cons b bytes =>
    cases first
    unfold mapLength?
    simp only [marker, List.cons_append]
    generalize Marker.ofByte b = m at inside
    have scalar : ∀ n, item' ≠ .map n := by
      rintro n rfl
      cases result
    cases m with
    | fixMap => cases inside; exact absurd rfl (scalar _)
    | map16 | map32 =>
      obtain ⟨n, _, _, made⟩ := exists_of_bind_ok (f := fun n => pure (Item.map n)) inside
      cases made
      exact absurd rfl (scalar _)
    | _ => rfl

theorem steady_status (depth : Nat) : (status.read depth).Steady := by
  refine ⟨fun {bytes value rest} result more => ?_⟩
  simp only [status] at result ⊢
  split at result
  next left single =>
    rw [mapLength?_append single more]
    exact (steady_entry depth).extend result more
  · cases result
  next none =>
    rw [mapLength?_of_variant result more]
    exact (steady_readVariant depth).extend result more

theorem steady_field (t : FieldType) (depth : Nat) : ((field t).read depth).Steady := by
  cases t with
  | text => exact steady_text depth
  | int t => exact steady_int t depth
  | float => exact (steady_readNumber _).bind fun _ => steady_pure _
  | bytes => exact steady_bytes depth
  | id => exact steady_id depth
  | status => exact steady_status depth
  | texts => exact steady_list (steady_text _)

theorem steady_fill (depth : Nat) (fields : List Field) (index : Nat) (slots : Slots fields) :
    (Slots.fill depth fields index slots).Steady := by
  induction fields generalizing index with
  | nil => exact steady_pure _
  | cons f fields ih =>
    obtain ⟨value, slots⟩ := slots
    cases index with
    | zero =>
      cases value with
      | none => exact (steady_field f.type depth).bind fun value => steady_pure _
      | some => exact steady_throw _
    | succ index => exact (ih index slots).bind fun slots => steady_pure _

theorem steady_readKey (fields : List Field) (depth : Nat) : (readKey fields depth).Steady := by
  refine (Item.steady_read depth).bind fun item => ?_
  split
  · exact steady_pure _
  · exact steady_pure _
  · exact steady_pure _
  · exact steady_throw _

theorem steady_readFields (fields : List Field) (depth n : Nat) (slots : Slots fields) :
    (readFields fields depth n slots).Steady := by
  induction n generalizing slots with
  | zero => exact steady_pure _
  | succ n ih =>
    refine (steady_readKey fields depth).bind fun key => ?_
    split
    · exact (steady_fill depth fields _ slots).bind fun slots => ih slots
    · exact (steady_skip depth).bind fun _ => ih slots

theorem steady_readPositions (r : Record) (depth : Nat) (fields : List Field) (left : Nat) :
    (readPositions r depth fields left).Steady := by
  induction fields generalizing left with
  | nil => exact steady_pure _
  | cons f fields ih =>
    cases left with
    | zero =>
      rw [readPositions]
      split
      · exact steady_throw _
      · exact (ih 0).bind fun _ => steady_pure _
    | succ left =>
      exact (steady_field f.type depth).bind fun _ => (ih left).bind fun _ => steady_pure _

theorem steady_record (r : Record) (depth : Nat) : ((record r).read depth).Steady := by
  refine (Item.steady_read depth).bind fun item => ?_
  cases item with
  | map => exact (steady_readFields ..).bind fun _ => steady_lift _
  | array =>
    exact (steady_readPositions ..).bind fun found => steady_ite (steady_pure found.1) (steady_throw _)
  | bin => exact steady_lift _
  | _ => exact steady_throw _

theorem steady_readEntries (depth n : Nat) (found : Table) : (readEntries depth n found).Steady := by
  induction n generalizing found with
  | zero => exact steady_pure _
  | succ n ih => exact (steady_text depth).bind fun key => (steady_text depth).bind fun value => ih _

theorem steady_table (depth : Nat) : (table.read depth).Steady := by
  refine (Item.steady_read depth).bind fun item => ?_
  split
  · exact steady_readEntries ..
  · exact steady_throw _

theorem steady_unit (depth : Nat) : (unit.read depth).Steady := by
  refine (Item.steady_read depth).bind fun item => ?_
  split
  · exact steady_pure _
  · exact steady_throw _
end Wire

theorem Shape.steady_read (shape : Shape) (depth : Nat) : (shape.wire.read depth).Steady := by
  cases shape with
  | unit => exact Wire.steady_unit depth
  | plain t => exact Wire.steady_field t depth
  | table => exact Wire.steady_table depth
  | record r => exact Wire.steady_record r depth
  | records r => exact Wire.steady_list (Wire.steady_record r _)

end Fleetwire.MessagePack
