import Fleetwire.MessagePack.Wire

namespace Fleetwire.MessagePack

namespace Reader

variable {α β : Type}

/-- The reader reads this value from the front of whatever begins with the bytes, and leaves the rest. -/
def Takes (read : Reader α) (bytes : Bytes) (value : α) : Prop :=
  ∀ rest, read (bytes ++ rest) = .ok (value, rest)

/-- What follows what the reader has read makes no difference to it. -/
structure Steady (read : Reader α) : Prop where
  extend : ∀ {bytes value rest}, read bytes = .ok (value, rest) →
    ∀ more, read (bytes ++ more) = .ok (value, rest ++ more)

theorem Takes.cut {read : Reader α} {bytes : Bytes} {value : α} (takes : read.Takes bytes value)
    (steady : read.Steady) {part : Bytes} (begins : part <+: bytes) (shorter : part ≠ bytes) :
    ∃ error, read part = .error error := by
  cases result : read part with
  | error error => exact ⟨error, rfl⟩
  | ok found =>
    obtain ⟨missing, rfl⟩ := begins
    have whole := takes []
    rw [List.append_nil, steady.extend result missing] at whole
    have none : missing = [] := (List.append_eq_nil_iff.1 (Prod.mk.inj (Except.ok.inj whole)).2).2
    exact absurd (by rw [none, List.append_nil]) shorter

theorem bind_ok {read : Reader α} {f : α → Reader β} {bytes rest : Bytes} {value : α}
    (first : read bytes = .ok (value, rest)) : (read >>= f) bytes = f value rest := by
  simp only [bind, StateT.bind, first, Except.bind]

theorem exists_of_bind_ok {read : Reader α} {f : α → Reader β} {bytes : Bytes} {result : β × Bytes}
    (whole : (read >>= f) bytes = .ok result) :
    ∃ value rest, read bytes = .ok (value, rest) ∧ f value rest = .ok result := by
  cases first : read bytes with
  | error error => simp [bind, StateT.bind, first, Except.bind] at whole
  | ok found => exact ⟨found.1, found.2, rfl, (bind_ok first).symm.trans whole⟩

theorem takes_pure (value : α) : Takes (pure value) [] value := fun _ => rfl

theorem Takes.bind {read : Reader α} {f : α → Reader β} {bytes bytes' : Bytes} {value : α} {value' : β}
    (first : read.Takes bytes value) (second : (f value).Takes bytes' value') :
    (read >>= f).Takes (bytes ++ bytes') value' := by
  intro rest
  rw [List.append_assoc, bind_ok (first _)]
  exact second rest

theorem Takes.map {read : Reader α} {bytes : Bytes} {value : α} (h : read.Takes bytes value) (f : α → β) :
    (f <$> read).Takes bytes (f value) := by
  have mapped : (read >>= fun value => pure (f value)).Takes (bytes ++ []) (f value) := h.bind (takes_pure _)
  rwa [List.append_nil] at mapped

theorem steady_pure (value : α) : Steady (pure value) := by
  refine ⟨fun result more => ?_⟩
  cases result
  rfl

theorem steady_throw (error : DecodeError) : Steady (throw error : Reader α) := by
  refine ⟨fun result => ?_⟩
  cases result

theorem steady_lift (result : Except DecodeError α) : Steady (liftM result : Reader α) := by
  cases result with
  | error error => exact steady_throw error
  | ok value => exact steady_pure value

theorem Steady.bind {read : Reader α} {f : α → Reader β} (first : read.Steady)
    (second : ∀ value, (f value).Steady) : (read >>= f).Steady := by
  refine ⟨fun whole more => ?_⟩
  obtain ⟨value, rest, found, result⟩ := exists_of_bind_ok whole
  rw [bind_ok (first.extend found more)]
  exact (second value).extend result more

theorem Steady.map {read : Reader α} (h : read.Steady) (f : α → β) : (f <$> read).Steady :=
  h.bind (f := fun value => pure (f value)) fun value => steady_pure (f value)

theorem steady_ite {condition : Prop} [Decidable condition] {yes no : Reader α} (first : yes.Steady)
    (second : no.Steady) : (if condition then yes else no : Reader α).Steady := by
  split
  · exact first
  · exact second

theorem takes_marker {m : Marker} (proper : Marker.ofByte m.byte = m) : marker.Takes [m.byte] m := by
  intro rest
  simp [marker, proper]

theorem takes_take {n : Nat} {bytes : Bytes} (length : bytes.length = n) (short : DecodeError) :
    (take n short).Takes bytes bytes := by
  intro rest
  simp [take, ← length]

theorem takes_natural {width n : Nat} (fits : n < Bytes.span width) :
    (natural width).Takes (Bytes.bigEndian width n) n := by
  have taken := (takes_take (Bytes.length_bigEndian width n) .cutField).map Bytes.toNat
  rwa [Bytes.toNat_bigEndian fits] at taken

theorem toInt_ofInt {width : Nat} {i : Int} (least : -(Bytes.span width : Int) ≤ 2 * i)
    (greatest : 2 * i < Bytes.span width) : Bytes.toInt (Bytes.ofInt width i) = i := by
  generalize span : Bytes.span width = m at least greatest
  have positive : 0 < (m : Int) := by omega
  have range : (i % (m : Int)).toNat < m := by
    have bounded := Int.emod_lt_of_pos i positive
    omega
  unfold Bytes.ofInt Bytes.toInt
  rw [span, Bytes.length_bigEndian, span, Bytes.toNat_bigEndian (span ▸ range)]
  have residue : i % (m : Int) = if 0 ≤ i then i else i + m := by
    split
    next natural => exact Int.emod_eq_of_lt natural (by omega)
    next negative =>
      rw [← Int.add_emod_right]
      exact Int.emod_eq_of_lt (by omega) (by omega)
  have natural := Int.toNat_of_nonneg (Int.emod_nonneg i (Int.ne_of_gt positive))
  split at residue <;> dsimp only <;> split <;> omega

theorem takes_signed {width : Nat} {i : Int} (least : -(Bytes.span width : Int) ≤ 2 * i)
    (greatest : 2 * i < Bytes.span width) : (signed width).Takes (Bytes.ofInt width i) i := by
  have taken := (takes_take (Bytes.length_bigEndian width (i % Bytes.span width).toNat) .cutField).map Bytes.toInt
  rwa [← Bytes.ofInt, toInt_ofInt least greatest] at taken

theorem steady_marker : marker.Steady := by
  refine ⟨fun {bytes value rest} result more => ?_⟩
  cases bytes with
  | nil => cases result
  | cons b bytes =>
    cases result
    rfl

theorem steady_take (n : Nat) (short : DecodeError) : (take n short).Steady := by
  refine ⟨fun {bytes value rest} result more => ?_⟩
  unfold take at result
  split at result
  · cases result
  next enough =>
    cases result
    have length : n ≤ bytes.length := Nat.le_of_not_lt enough
    have longer : ¬ (bytes ++ more).length < n := by
      rw [List.length_append]
      omega
    rw [take, if_neg longer, List.take_append_of_le_length length, List.drop_append_of_le_length length]

theorem steady_natural (width : Nat) : (natural width).Steady := (steady_take ..).map Bytes.toNat

theorem steady_signed (width : Nat) : (signed width).Steady := (steady_take ..).map Bytes.toInt

theorem steady_contents (length : Nat) : (contents length).Steady := steady_take ..

theorem Steady.times {read : Reader Unit} (h : read.Steady) (n : Nat) : (times read n).Steady := by
  induction n with
  | zero => exact steady_pure ()
  | succ n ih => exact h.bind fun _ => ih

end Reader

open Fleetwire.MessagePack.Reader

namespace Marker

theorem ofByte_fixPos {n : Nat} (small : n < 0x80) : ofByte (byte (.fixPos n)) = .fixPos n := by
  have all : ∀ n : Fin 0x80, ofByte (byte (.fixPos n.val)) = .fixPos n.val := by decide +kernel
  exact all ⟨n, small⟩

theorem ofByte_fixNeg {n : Nat} (small : n < 32) : ofByte (byte (.fixNeg n)) = .fixNeg n := by
  have all : ∀ n : Fin 32, ofByte (byte (.fixNeg n.val)) = .fixNeg n.val := by decide +kernel
  exact all ⟨n, small⟩

theorem ofByte_fixStr {n : Nat} (small : n < 32) : ofByte (byte (.fixStr n)) = .fixStr n := by
  have all : ∀ n : Fin 32, ofByte (byte (.fixStr n.val)) = .fixStr n.val := by decide +kernel
  exact all ⟨n, small⟩

theorem ofByte_fixArray {n : Nat} (small : n < 16) : ofByte (byte (.fixArray n)) = .fixArray n := by
  have all : ∀ n : Fin 16, ofByte (byte (.fixArray n.val)) = .fixArray n.val := by decide +kernel
  exact all ⟨n, small⟩

theorem ofByte_fixMap {n : Nat} (small : n < 16) : ofByte (byte (.fixMap n)) = .fixMap n := by
  have all : ∀ n : Fin 16, ofByte (byte (.fixMap n.val)) = .fixMap n.val := by decide +kernel
  exact all ⟨n, small⟩

end Marker

namespace Item

variable {m : Marker} {bytes : Bytes} {item : Item} {n depth : Nat}

theorem takes_read (proper : Marker.ofByte m.byte = m) (takes : (body m).Takes bytes item)
    (room : item.isContainer → 1 < depth) : (read depth).Takes (m.byte :: bytes) item := by
  have free : ¬ (item.isContainer = true ∧ depth ≤ 1) := fun ⟨container, low⟩ =>
    absurd (room container) (Nat.not_lt_of_le low)
  intro rest
  have first : marker (m.byte :: bytes ++ rest) = .ok (m, bytes ++ rest) := takes_marker proper (bytes ++ rest)
  rw [read, bind_ok first, bind_ok (takes rest), if_neg free]
  rfl

theorem takes_lengthed (width : Nat) (bytes : Bytes) (fits : bytes.length < Bytes.span width) (make : Bytes → Item) :
    Takes (do return make (← contents (← natural width))) (Bytes.bigEndian width bytes.length ++ bytes)
      (make bytes) := by
  have contained : Takes (do return make (← contents bytes.length)) bytes (make bytes) := by
    have taken := (takes_take (n := bytes.length) rfl .cutContents).map make
    exact taken
  exact (takes_natural fits).bind (f := fun length => do return make (← contents length)) contained

theorem takes_str (bytes : Bytes) (countable : bytes.length < 0x100000000) (depth : Nat) :
    (read depth).Takes (Wire.strHeader bytes.length ++ bytes) (.str bytes) := by
  unfold Wire.strHeader
  split
  next small =>
    exact takes_read (Marker.ofByte_fixStr small) ((takes_take rfl .cutContents).map Item.str) nofun
  · split
    next fits => exact takes_read (m := .str8) rfl (takes_lengthed 1 bytes fits .str) nofun
    · split
      next fits => exact takes_read (m := .str16) rfl (takes_lengthed 2 bytes fits .str) nofun
      · exact takes_read (m := .str32) rfl (takes_lengthed 4 bytes countable .str) nofun

theorem takes_bin (bytes : Bytes) (countable : bytes.length < 0x100000000) (depth : Nat) :
    (read depth).Takes (Wire.binHeader bytes.length ++ bytes) (.bin bytes) := by
  unfold Wire.binHeader
  split
  next fits => exact takes_read (m := .bin8) rfl (takes_lengthed 1 bytes fits .bin) nofun
  · split
    next fits => exact takes_read (m := .bin16) rfl (takes_lengthed 2 bytes fits .bin) nofun
    · exact takes_read (m := .bin32) rfl (takes_lengthed 4 bytes countable .bin) nofun

theorem takes_array (countable : n < 0x100000000) (room : 1 < depth) :
    (read depth).Takes (Wire.arrayHeader n) (.array n) := by
  unfold Wire.arrayHeader
  split
  next small => exact takes_read (Marker.ofByte_fixArray small) (takes_pure _) fun _ => room
  · split
    next fits => exact takes_read (m := .array16) rfl ((takes_natural fits).map Item.array) fun _ => room
    · exact takes_read (m := .array32) rfl ((takes_natural countable).map Item.array) fun _ => room

theorem takes_map (countable : n < 0x100000000) (room : 1 < depth) :
    (read depth).Takes (Wire.mapHeader n) (.map n) := by
  unfold Wire.mapHeader
  split
  next small => exact takes_read (Marker.ofByte_fixMap small) (takes_pure _) fun _ => room
  · split
    next fits => exact takes_read (m := .map16) rfl ((takes_natural fits).map Item.map) fun _ => room
    · exact takes_read (m := .map32) rfl ((takes_natural countable).map Item.map) fun _ => room

theorem steady_number {read : Reader Number} (announced : number? m = some read) : read.Steady := by
  cases m with
  | fixPos | fixNeg =>
    cases announced
    exact steady_pure _
  | u8 | u16 | u32 | u64 | f32 | f64 =>
    cases announced
    exact (steady_natural _).map _
  | i8 | i16 | i32 | i64 =>
    cases announced
    exact (steady_signed _).map _
  | _ => cases announced

theorem steady_lengthed (width : Nat) (make : Bytes → Item) :
    Steady (do return make (← contents (← natural width))) :=
  (steady_natural width).bind fun length => (steady_contents length).bind fun bytes => steady_pure (make bytes)

theorem steady_body (m : Marker) : (body m).Steady := by
  unfold body
  split
  next read announced => exact (steady_number announced).map _
  · split
    case h_4 => exact (steady_contents _).map _
    case h_5 | h_6 | h_7 | h_8 | h_9 | h_10 => exact steady_lengthed ..
    case h_12 | h_13 | h_15 | h_16 | h_22 | h_23 | h_24 => exact (steady_natural _).map _
    case h_25 => exact steady_throw _
    all_goals exact steady_pure _

theorem steady_read (depth : Nat) : (read depth).Steady :=
  steady_marker.bind fun m => (steady_body m).bind fun item => steady_ite
    ((steady_throw _).bind fun _ => steady_pure item) (steady_pure item)

end Item

theorem steady_skip (depth : Nat) : (skip depth).Steady := by
  induction depth with
  | zero => exact steady_throw _
  | succ depth ih =>
    refine (Item.steady_read _).bind fun item => ?_
    split
    · exact ih.times _
    · exact (ih.bind fun _ => ih).times _
    · exact (steady_take ..).bind fun _ => (steady_contents _).bind fun _ => steady_pure ()
    · exact steady_pure ()

end Fleetwire.MessagePack
