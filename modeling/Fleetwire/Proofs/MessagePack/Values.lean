import Mathlib.Data.List.Forall2
import Fleetwire.Proofs.MessagePack.Shapes

namespace Fleetwire.MessagePack

open Fleetwire.MessagePack.Reader

inductive Spells : Bytes → Item → Prop
  | null : Spells [Marker.null.byte] .null
  | bool (b : Bool) : Spells [(if b then Marker.true else Marker.false).byte] (.bool b)
  | smallNatural {n : Nat} (small : n < 0x80) : Spells [Marker.byte (.fixPos n)] (.number (.natural n))
  | natural {m : Marker} {width n : Nat} (wide : (m, width) ∈ [(.u8, 1), (.u16, 2), (.u32, 4), (.u64, 8)])
    (fits : n < Bytes.span width) : Spells (m.byte :: Bytes.bigEndian width n) (.number (.natural n))
  | smallNegative {n : Nat} (small : n < 32) :
    Spells [Marker.byte (.fixNeg n)] (.number (.signed (Int.ofNat n - 32)))
  | signed {m : Marker} {width : Nat} {i : Int} (wide : (m, width) ∈ [(.i8, 1), (.i16, 2), (.i32, 4), (.i64, 8)])
    (least : -(Bytes.span width : Int) ≤ 2 * i) (greatest : 2 * i < Bytes.span width) :
    Spells (m.byte :: Bytes.ofInt width i) (.number (.signed i))
  | single {n : Nat} (fits : n < Bytes.span 4) :
    Spells (Marker.f32.byte :: Bytes.bigEndian 4 n) (.number (.float (.ofBinary32 n)))
  | double {n : Nat} (fits : n < Bytes.span 8) :
    Spells (Marker.f64.byte :: Bytes.bigEndian 8 n) (.number (.float ⟨UInt64.ofNat n⟩))
  | smallStr {bytes : Bytes} (small : bytes.length < 32) :
    Spells (Marker.byte (.fixStr bytes.length) :: bytes) (.str bytes)
  | str {m : Marker} {width : Nat} {bytes : Bytes} (wide : (m, width) ∈ [(.str8, 1), (.str16, 2), (.str32, 4)])
    (fits : bytes.length < Bytes.span width) :
    Spells (m.byte :: (Bytes.bigEndian width bytes.length ++ bytes)) (.str bytes)
  | bin {m : Marker} {width : Nat} {bytes : Bytes} (wide : (m, width) ∈ [(.bin8, 1), (.bin16, 2), (.bin32, 4)])
    (fits : bytes.length < Bytes.span width) :
    Spells (m.byte :: (Bytes.bigEndian width bytes.length ++ bytes)) (.bin bytes)
  | smallArray {n : Nat} (small : n < 16) : Spells [Marker.byte (.fixArray n)] (.array n)
  | array {m : Marker} {width n : Nat} (wide : (m, width) ∈ [(.array16, 2), (.array32, 4)])
    (fits : n < Bytes.span width) : Spells (m.byte :: Bytes.bigEndian width n) (.array n)
  | smallMap {n : Nat} (small : n < 16) : Spells [Marker.byte (.fixMap n)] (.map n)
  | map {m : Marker} {width n : Nat} (wide : (m, width) ∈ [(.map16, 2), (.map32, 4)])
    (fits : n < Bytes.span width) : Spells (m.byte :: Bytes.bigEndian width n) (.map n)
  | fixedExt {m : Marker} {n : Nat}
    (fixed : (m, n) ∈ [(.fixExt1, 1), (.fixExt2, 2), (.fixExt4, 4), (.fixExt8, 8), (.fixExt16, 16)]) :
    Spells [m.byte] (.ext n)
  | ext {m : Marker} {width n : Nat} (wide : (m, width) ∈ [(.ext8, 1), (.ext16, 2), (.ext32, 4)])
    (fits : n < Bytes.span width) : Spells (m.byte :: Bytes.bigEndian width n) (.ext n)

/-- The bytes are one value, in which containers are nested at most `height` deep. -/
inductive WellFormed : (height : Nat) → Bytes → Prop
  | plain {height : Nat} {bytes : Bytes} {item : Item} (spelled : Spells bytes item)
    (plain : item.isContainer = false) : WellFormed height bytes
  | array {height : Nat} {header : Bytes} {elements : List Bytes} (spelled : Spells header (.array elements.length))
    (formed : ∀ element ∈ elements, WellFormed height element) :
    WellFormed (height + 1) (header ++ elements.flatten)
  | map {height : Nat} {header : Bytes} {entries : List (Bytes × Bytes)}
    (spelled : Spells header (.map entries.length)) (keys : ∀ entry ∈ entries, WellFormed height entry.1)
    (values : ∀ entry ∈ entries, WellFormed height entry.2) :
    WellFormed (height + 1) (header ++ entries.flatMap fun entry => entry.1 ++ entry.2)
  | ext {height : Nat} {header data : Bytes} (tag : UInt8) (spelled : Spells header (.ext data.length)) :
    WellFormed (height + 1) (header ++ tag :: data)

theorem Spells.exists_marker {bytes : Bytes} {item : Item} (h : Spells bytes item) :
    ∃ m tail, bytes = m.byte :: tail ∧ Marker.ofByte m.byte = m ∧ (Item.body m).Takes tail item := by
  cases h with
  | null => exact ⟨.null, [], rfl, rfl, takes_pure _⟩
  | bool b => cases b <;> exact ⟨_, [], rfl, rfl, takes_pure _⟩
  | smallNatural small => exact ⟨_, [], rfl, Marker.ofByte_fixPos small, takes_pure _⟩
  | natural wide fits =>
    simp only [List.mem_cons, Prod.mk.injEq, List.not_mem_nil, or_false] at wide
    rcases wide with ⟨rfl, rfl⟩ | ⟨rfl, rfl⟩ | ⟨rfl, rfl⟩ | ⟨rfl, rfl⟩ <;>
      exact ⟨_, _, rfl, rfl, ((takes_natural fits).map Number.natural).map Item.number⟩
  | smallNegative small => exact ⟨_, [], rfl, Marker.ofByte_fixNeg small, takes_pure _⟩
  | signed wide least greatest =>
    simp only [List.mem_cons, Prod.mk.injEq, List.not_mem_nil, or_false] at wide
    rcases wide with ⟨rfl, rfl⟩ | ⟨rfl, rfl⟩ | ⟨rfl, rfl⟩ | ⟨rfl, rfl⟩ <;>
      exact ⟨_, _, rfl, rfl, ((takes_signed least greatest).map Number.signed).map Item.number⟩
  | single fits =>
    exact ⟨.f32, _, rfl, rfl, ((takes_natural fits).map fun n => Number.float (.ofBinary32 n)).map Item.number⟩
  | double fits =>
    exact ⟨.f64, _, rfl, rfl, ((takes_natural fits).map fun n => Number.float ⟨UInt64.ofNat n⟩).map Item.number⟩
  | smallStr small => exact ⟨_, _, rfl, Marker.ofByte_fixStr small, (takes_take rfl .cutContents).map Item.str⟩
  | str wide fits =>
    simp only [List.mem_cons, Prod.mk.injEq, List.not_mem_nil, or_false] at wide
    rcases wide with ⟨rfl, rfl⟩ | ⟨rfl, rfl⟩ | ⟨rfl, rfl⟩ <;>
      exact ⟨_, _, rfl, rfl, Item.takes_lengthed _ _ fits .str⟩
  | bin wide fits =>
    simp only [List.mem_cons, Prod.mk.injEq, List.not_mem_nil, or_false] at wide
    rcases wide with ⟨rfl, rfl⟩ | ⟨rfl, rfl⟩ | ⟨rfl, rfl⟩ <;>
      exact ⟨_, _, rfl, rfl, Item.takes_lengthed _ _ fits .bin⟩
  | smallArray small => exact ⟨_, [], rfl, Marker.ofByte_fixArray small, takes_pure _⟩
  | array wide fits =>
    simp only [List.mem_cons, Prod.mk.injEq, List.not_mem_nil, or_false] at wide
    rcases wide with ⟨rfl, rfl⟩ | ⟨rfl, rfl⟩ <;> exact ⟨_, _, rfl, rfl, (takes_natural fits).map Item.array⟩
  | smallMap small => exact ⟨_, [], rfl, Marker.ofByte_fixMap small, takes_pure _⟩
  | map wide fits =>
    simp only [List.mem_cons, Prod.mk.injEq, List.not_mem_nil, or_false] at wide
    rcases wide with ⟨rfl, rfl⟩ | ⟨rfl, rfl⟩ <;> exact ⟨_, _, rfl, rfl, (takes_natural fits).map Item.map⟩
  | fixedExt fixed =>
    simp only [List.mem_cons, Prod.mk.injEq, List.not_mem_nil, or_false] at fixed
    rcases fixed with ⟨rfl, rfl⟩ | ⟨rfl, rfl⟩ | ⟨rfl, rfl⟩ | ⟨rfl, rfl⟩ | ⟨rfl, rfl⟩ <;>
      exact ⟨_, [], rfl, rfl, takes_pure _⟩
  | ext wide fits =>
    simp only [List.mem_cons, Prod.mk.injEq, List.not_mem_nil, or_false] at wide
    rcases wide with ⟨rfl, rfl⟩ | ⟨rfl, rfl⟩ | ⟨rfl, rfl⟩ <;>
      exact ⟨_, _, rfl, rfl, (takes_natural fits).map Item.ext⟩

theorem Spells.takes {bytes : Bytes} {item : Item} (h : Spells bytes item) {depth : Nat}
    (room : item.isContainer → 1 < depth) : (Item.read depth).Takes bytes item := by
  obtain ⟨m, tail, rfl, proper, takes⟩ := h.exists_marker
  exact Item.takes_read proper takes room

theorem Spells.takes_of_plain {bytes : Bytes} {item : Item} (h : Spells bytes item) (plain : item.isContainer = false)
    (depth : Nat) : (Item.read depth).Takes bytes item :=
  h.takes fun container => by simp [plain] at container

namespace Reader

variable {α β : Type}

/-- From the bytes the reader takes a value that satisfies `P`, or none if there is no such value. What follows the
bytes makes no difference, nor does the depth, as long as it leaves room for so many levels. -/
structure Reads (read : Nat → Reader α) (height : Nat) (bytes : Bytes) (P : α → Prop) : Prop where
  iff : ∀ {depth}, height < depth → ∀ {rest value rest'},
    read depth (bytes ++ rest) = .ok (value, rest') ↔ rest' = rest ∧ P value

/-- The reader makes out what the bytes mean. -/
def Settles (read : Nat → Reader α) (height : Nat) (bytes : Bytes) : Prop := ∃ P, Reads read height bytes P

variable {read : Nat → Reader α} {f : α → Nat → Reader β} {height : Nat} {bytes bytes' : Bytes} {P P' : α → Prop}
  {Q : α → β → Prop}

theorem Reads.settles (h : Reads read height bytes P) : Settles read height bytes := ⟨P, h⟩

theorem Reads.congr (h : Reads read height bytes P) (same : ∀ value, P value ↔ P' value) :
    Reads read height bytes P' :=
  ⟨fun room => (h.iff room).trans (and_congr_right fun _ => same _)⟩

theorem reads_of_takes {value : α} (takes : ∀ {depth}, height < depth → (read depth).Takes bytes value) :
    Reads read height bytes fun found => found = value := by
  refine ⟨fun {depth} room {rest found rest'} => ?_⟩
  rw [takes room rest]
  constructor
  · intro same
    cases same
    exact ⟨rfl, rfl⟩
  · rintro ⟨rfl, rfl⟩
    rfl

theorem reads_marker {m : Marker} (proper : Marker.ofByte m.byte = m) :
    Reads (fun _ => marker) height [m.byte] fun found => found = m :=
  reads_of_takes fun _ => takes_marker proper

theorem reads_pure (value : α) : Reads (fun _ => pure value) height [] fun found => found = value :=
  reads_of_takes fun _ => takes_pure value

theorem reads_throw (error : DecodeError) : Reads (fun _ => (throw error : Reader α)) height bytes fun _ => False :=
  ⟨fun _ {_ _ _} => ⟨fun result => (nomatch result), fun h => h.2.elim⟩⟩

theorem reads_lift (result : Except DecodeError α) :
    Reads (fun _ => (liftM result : Reader α)) height [] fun value => result = .ok value := by
  cases result with
  | error error => exact (reads_throw error).congr fun _ => ⟨False.elim, fun same => (nomatch same)⟩
  | ok value => exact (reads_pure value).congr fun _ => ⟨fun same => same ▸ rfl, fun same => (Except.ok.inj same).symm⟩

theorem Reads.bind (first : Reads read height bytes P)
    (second : ∀ value, P value → Reads (f value) height bytes' (Q value)) :
    Reads (fun depth => read depth >>= fun value => f value depth) height (bytes ++ bytes')
      fun found => ∃ value, P value ∧ Q value found := by
  refine ⟨fun {depth} room {rest found rest'} => ?_⟩
  rw [List.append_assoc]
  constructor
  · intro whole
    obtain ⟨value, left, result, later⟩ := exists_of_bind_ok whole
    obtain ⟨rfl, holds⟩ := (first.iff room).1 result
    obtain ⟨rfl, holds'⟩ := ((second value holds).iff room).1 later
    exact ⟨rfl, value, holds, holds'⟩
  · rintro ⟨rfl, value, holds, holds'⟩
    rw [bind_ok ((first.iff room).2 ⟨rfl, holds⟩)]
    exact ((second value holds).iff room).2 ⟨rfl, holds'⟩

theorem Reads.decide (first : Reads read height bytes P)
    (second : ∀ value, P value → Reads (f value) height [] (Q value)) :
    Reads (fun depth => read depth >>= fun value => f value depth) height bytes
      fun found => ∃ value, P value ∧ Q value found := by
  have whole := first.bind second
  rwa [List.append_nil] at whole

theorem Reads.inside (h : Reads read height bytes P) :
    Reads (fun depth => read (depth - 1)) (height + 1) bytes P :=
  ⟨fun room => h.iff (Nat.lt_sub_of_add_lt room)⟩

theorem Settles.deeper (h : Settles read height bytes) : Settles read (height + 1) bytes :=
  h.imp fun _ reads => ⟨fun room => reads.iff (Nat.lt_of_succ_lt room)⟩

theorem Reads.bind_known {value : α} {R : β → Prop} (first : Reads read height bytes fun found => found = value)
    (second : Reads (f value) height bytes' R) :
    Reads (fun depth => read depth >>= fun value => f value depth) height (bytes ++ bytes') R := by
  refine (first.bind (Q := fun _ => R) fun found same => ?_).congr fun _ => exists_eq_left
  subst same
  exact second

theorem Reads.settles_bind {value : α} (first : Reads read height bytes fun found => found = value)
    (second : Settles (f value) height bytes') :
    Settles (fun depth => read depth >>= fun value => f value depth) height (bytes ++ bytes') := by
  obtain ⟨P, reads⟩ := second
  exact (first.bind_known reads).settles

theorem Settles.bind (first : Settles read height bytes) (second : ∀ value, Settles (f value) height bytes') :
    Settles (fun depth => read depth >>= fun value => f value depth) height (bytes ++ bytes') := by
  obtain ⟨P, reads⟩ := first
  obtain ⟨Q, reads'⟩ := Classical.axiomOfChoice second
  exact (reads.bind fun value _ => reads' value).settles

theorem Settles.inside (h : Settles read height bytes) : Settles (fun depth => read (depth - 1)) (height + 1) bytes :=
  h.imp fun _ reads => reads.inside

inductive Instant : Reader α → Prop
  | pure (value : α) : Instant (pure value)
  | throw (error : DecodeError) : Instant (throw error)

theorem Instant.bind {read : Reader α} {f : α → Reader β} (first : Instant read) (second : ∀ value, Instant (f value)) :
    Instant (read >>= f) := by
  cases first with
  | pure value => exact second value
  | throw error => exact .throw error

theorem instant_lift (result : Except DecodeError α) : Instant (liftM result : Reader α) := by
  cases result with
  | error error => exact .throw error
  | ok value => exact .pure value

theorem instant_mapM (bytes : Bytes) (read : UInt8 → Except DecodeError α) :
    Instant (bytes.mapM fun b => (liftM (read b) : Reader α)) := by
  induction bytes with
  | nil => exact .pure []
  | cons b bytes ih =>
    rw [List.mapM_cons]
    exact (instant_lift _).bind fun value => ih.bind fun values => .pure (value :: values)

theorem Instant.settles {read : Reader α} (h : Instant read) : Settles (fun _ => read) height [] := by
  cases h with
  | pure value => exact (reads_pure value).settles
  | throw error => exact (reads_throw error).settles

theorem Settles.decide {f : α → Reader β} (h : Settles read height bytes) (instant : ∀ value, Instant (f value)) :
    Settles (fun depth => read depth >>= f) height bytes := by
  obtain ⟨P, reads⟩ := h
  obtain ⟨Q, reads'⟩ := Classical.axiomOfChoice fun value => (instant value).settles
  exact (reads.decide (f := fun value _ => f value) fun value _ => reads' value).settles

theorem settles_throw (error : DecodeError) : Settles (fun _ => (throw error : Reader α)) height bytes :=
  (reads_throw error).settles

end Reader

open Fleetwire.MessagePack.Reader

section Value

variable {α : Type} {height : Nat} {bytes bytes' : Bytes} {item : Item}

theorem Spells.reads (h : Spells bytes item) (room : item.isContainer → 0 < height) :
    Reads Item.read height bytes fun found => found = item :=
  reads_of_takes fun inside => h.takes fun container => Nat.lt_of_le_of_lt (room container) inside

theorem Spells.settles {f : Item → Nat → Reader α} (h : Spells bytes item) (room : item.isContainer → 0 < height)
    (later : Settles (f item) height bytes') :
    Settles (fun depth => Item.read depth >>= fun item => f item depth) height (bytes ++ bytes') :=
  (h.reads room).settles_bind later

theorem Spells.settles_refused {f : Item → Nat → Reader α} (h : Spells bytes item)
    (refused : ∃ error, f item = fun _ => throw error) :
    Settles (fun depth => Item.read depth >>= fun item => f item depth) (height + 1) (bytes ++ bytes') := by
  obtain ⟨error, same⟩ := refused
  exact h.settles (fun _ => Nat.succ_pos _) (same ▸ settles_throw error)

theorem Spells.settles_instant {f : Item → Nat → Reader α} (h : Spells bytes item) (plain : item.isContainer = false)
    (instant : ∃ read, Instant read ∧ f item = fun _ => read) :
    Settles (fun depth => Item.read depth >>= fun item => f item depth) height bytes := by
  obtain ⟨read, instant, same⟩ := instant
  have room : item.isContainer → 0 < height := fun container => by simp [plain] at container
  have later : Settles (f item) height [] := same ▸ instant.settles
  have whole := h.settles room later
  rwa [List.append_nil] at whole

theorem WellFormed.settles {f : Item → Nat → Reader α} (formed : WellFormed height bytes)
    (instant : ∀ item, item.isContainer = false → ∃ read, Instant read ∧ f item = fun _ => read)
    (array : ∀ n, ∃ error, f (.array n) = fun _ => throw error)
    (map : ∀ n, ∃ error, f (.map n) = fun _ => throw error)
    (ext : ∀ n, ∃ error, f (.ext n) = fun _ => throw error) :
    Settles (fun depth => Item.read depth >>= fun item => f item depth) height bytes := by
  cases formed with
  | plain spelled plain => exact spelled.settles_instant plain (instant _ plain)
  | array spelled _ => exact spelled.settles_refused (array _)
  | map spelled _ _ => exact spelled.settles_refused (map _)
  | ext _ spelled => exact spelled.settles_refused (ext _)

theorem WellFormed.exists_item (formed : WellFormed height bytes) : ∃ header item tail, bytes = header ++ tail ∧
    Spells header item ∧ (item.isContainer = false → tail = []) := by
  cases formed with
  | plain spelled _ => exact ⟨bytes, _, [], (List.append_nil _).symm, spelled, fun _ => rfl⟩
  | array spelled _ | map spelled _ _ | ext _ spelled => exact ⟨_, _, _, rfl, spelled, nofun⟩

namespace Wire

theorem settles_text (formed : WellFormed height bytes) : Settles text.read height bytes := by
  refine formed.settles (fun item _ => ⟨_, ?_, rfl⟩) (fun _ => ⟨_, rfl⟩) (fun _ => ⟨_, rfl⟩) fun _ => ⟨_, rfl⟩
  split
  · split
    · exact .pure _
    · exact .throw _
  · split
    · exact .pure _
    · exact .throw _
  · exact .throw _

theorem settles_id (formed : WellFormed height bytes) : Settles id.read height bytes := by
  refine formed.settles (fun item _ => ⟨_, ?_, rfl⟩) (fun _ => ⟨_, rfl⟩) (fun _ => ⟨_, rfl⟩) fun _ => ⟨_, rfl⟩
  split
  · split
    · exact .pure _
    · exact .throw _
  · split
    · exact .pure _
    · exact .throw _
  · exact .throw _

theorem instant_named (name : String) : Instant (readVariant.named name) := by
  unfold readVariant.named
  split
  · exact .pure _
  · exact .throw _

theorem settles_readVariant (formed : WellFormed height bytes) : Settles readVariant height bytes := by
  refine formed.settles (fun item _ => ⟨_, ?_, rfl⟩) (fun _ => ⟨_, rfl⟩) (fun _ => ⟨_, rfl⟩) fun _ => ⟨_, rfl⟩
  split
  · split
    · exact instant_named _
    · exact .throw _
  · split
    · exact instant_named _
    · exact .throw _
  · split
    · exact .pure _
    · exact .throw _
  · exact .throw _

theorem takes_of_map {γ : Type} {make : γ → Item} (injective : ∀ {a b}, make a = make b → a = b) {read : Reader γ}
    (takes : (make <$> read).Takes bytes item) : ∃ found, item = make found ∧ read.Takes bytes found := by
  have each (rest : Bytes) : ∃ found, item = make found ∧ read (bytes ++ rest) = .ok (found, rest) := by
    obtain ⟨found, left, result, same⟩ := exists_of_bind_ok (f := fun found => pure (make found)) (takes rest)
    cases same
    exact ⟨found, rfl, result⟩
  obtain ⟨found, rfl, _⟩ := each []
  refine ⟨found, rfl, fun rest => ?_⟩
  obtain ⟨found', same, result⟩ := each rest
  rw [injective same]
  exact result

theorem settles_readNumber (formed : WellFormed height bytes) (wanted : String) :
    Settles (fun _ => readNumber wanted) height bytes := by
  obtain ⟨header, item, tail, rfl, spelled, plain⟩ := formed.exists_item
  obtain ⟨m, after, rfl, proper, takes⟩ := spelled.exists_marker
  change Settles _ height ([m.byte] ++ (after ++ tail))
  refine (reads_marker proper).settles_bind ?_
  cases announced : Item.number? m with
  | none =>
    dsimp only
    split <;> exact settles_throw _
  | some read =>
    have body : Item.body m = Item.number <$> read := by
      unfold Item.body
      rw [announced]
    obtain ⟨n, rfl, taken⟩ := takes_of_map Item.number.inj (body ▸ takes)
    rw [plain rfl, List.append_nil]
    exact (reads_of_takes fun _ => taken).settles

theorem settles_int (formed : WellFormed height bytes) (t : IntType) : Settles (int t).read height bytes :=
  (settles_readNumber formed t.name).decide fun _ => instant_lift _

theorem reads_many {read : Nat → Reader α} {means : Bytes → α → Prop} {elements : List Bytes}
    (each : ∀ element ∈ elements, Reads read height element (means element)) :
    Reads (fun depth => many (read depth) elements.length) height elements.flatten (List.Forall₂ means elements) := by
  induction elements with
  | nil => exact (reads_pure []).congr fun values => by simp
  | cons element elements ih =>
    have others := ih fun element member => each element (List.mem_cons_of_mem _ member)
    have whole := (each element List.mem_cons_self).bind fun value _ =>
      others.decide fun values _ => reads_pure (value :: values)
    refine whole.congr fun values => ?_
    simp only [List.forall₂_cons_left_iff, exists_and_left]

theorem settles_many {read : Nat → Reader α} {elements : List Bytes}
    (each : ∀ element ∈ elements, Settles read height element) :
    Settles (fun depth => many (read depth) elements.length) height elements.flatten := by
  have all : ∀ element, ∃ P, element ∈ elements → Reads read height element P := fun element => by
    by_cases member : element ∈ elements
    · obtain ⟨P, reads⟩ := each element member
      exact ⟨P, fun _ => reads⟩
    · exact ⟨fun _ => True, fun inside => absurd inside member⟩
  obtain ⟨means, reads⟩ := Classical.axiomOfChoice all
  exact (reads_many reads).settles

theorem settles_list {item : Wire α}
    (each : ∀ {height bytes}, WellFormed height bytes → Settles item.read height bytes)
    (formed : WellFormed height bytes) : Settles (list item).read height bytes := by
  cases formed with
  | @plain _ _ found spelled plain =>
    refine spelled.settles_instant plain ?_
    cases found with
    | bin bytes => exact ⟨_, instant_mapM _ _, rfl⟩
    | array | map | ext => cases plain
    | _ => exact ⟨_, .throw _, rfl⟩
  | array spelled elements =>
    have all := settles_many fun element member => each (elements element member)
    exact spelled.settles (fun _ => Nat.succ_pos _) all.inside
  | map spelled _ _ | ext _ spelled => exact spelled.settles_refused ⟨_, rfl⟩

theorem settles_bytes (formed : WellFormed height bytes) : Settles Wire.bytes.read height bytes := by
  cases formed with
  | @plain _ _ found spelled plain =>
    refine spelled.settles_instant plain ?_
    cases found with
    | bin bytes | str bytes => exact ⟨_, .pure _, rfl⟩
    | array | map | ext => cases plain
    | _ => exact ⟨_, .throw _, rfl⟩
  | array spelled elements =>
    refine spelled.settles (fun _ => Nat.succ_pos _) ?_
    exact (settles_many fun element member => settles_int (elements element member) .u8).inside.decide fun _ => .pure _
  | map spelled _ _ | ext _ spelled => exact spelled.settles_refused ⟨_, rfl⟩

theorem mapLength?_of_spells (h : Spells bytes item) : (∃ n, item = .map n ∧ ∀ rest,
    mapLength? (bytes ++ rest) = some (n, rest)) ∨ ∀ rest, mapLength? (bytes ++ rest) = none := by
  obtain ⟨m, tail, rfl, proper, takes⟩ := h.exists_marker
  have first (rest : Bytes) : marker (m.byte :: tail ++ rest) = .ok (m, tail ++ rest) :=
    takes_marker proper (tail ++ rest)
  have counted {width : Nat} (takes : (Item.map <$> Reader.natural width).Takes tail item) :
      ∃ n, item = .map n ∧ ∀ rest, (Reader.natural width (tail ++ rest)).toOption = some (n, rest) := by
    obtain ⟨n, rfl, taken⟩ := takes_of_map Item.map.inj takes
    exact ⟨n, rfl, fun rest => by rw [taken rest]; rfl⟩
  unfold mapLength?
  simp only [first]
  cases m with
  | fixMap n =>
    have whole := takes []
    rw [List.append_nil] at whole
    cases whole
    exact .inl ⟨n, rfl, fun rest => rfl⟩
  | map16 => exact .inl (counted takes)
  | map32 => exact .inl (counted takes)
  | _ => exact .inr fun _ => rfl

theorem settles_nothing (formed : WellFormed height bytes) (value : Status) :
    Settles (fun _ => do
      match ← marker with
      | .null => return value
      | m => throw (.wrongMarker m)) height bytes := by
  obtain ⟨header, item, tail, rfl, spelled, plain⟩ := formed.exists_item
  obtain ⟨m, after, rfl, proper, takes⟩ := spelled.exists_marker
  change Settles _ height ([m.byte] ++ (after ++ tail))
  refine (reads_marker proper).settles_bind ?_
  by_cases nothing : m = .null
  · subst nothing
    have whole := takes []
    rw [List.append_nil] at whole
    cases whole
    rw [plain rfl]
    exact (reads_pure value).settles
  · split
    · contradiction
    · exact settles_throw _

theorem settles_status (formed : WellFormed height bytes) : Settles status.read height bytes := by
  -- What does not begin like a map has to be a variant.
  have variant (none : ∀ rest, mapLength? (bytes ++ rest) = none) : Settles status.read height bytes := by
    obtain ⟨P, reads⟩ := settles_readVariant formed
    refine ⟨P, ⟨fun {_} room {rest value rest'} => ?_⟩⟩
    simp only [status, none]
    exact reads.iff room
  cases formed with
  | plain spelled plain =>
    rcases mapLength?_of_spells spelled with ⟨n, rfl, _⟩ | none
    · cases plain
    · exact variant none
  | array spelled _ | ext _ spelled =>
    rcases mapLength?_of_spells spelled with ⟨n, same, _⟩ | none
    · cases same
    · exact variant fun rest => by rw [List.append_assoc]; exact none _
  | @map height header entries spelled keys values =>
    rcases mapLength?_of_spells spelled with ⟨n, same, counted⟩ | none
    · cases same
      by_cases single : entries.length = 1
      · obtain ⟨⟨key, value⟩, rfl⟩ := List.length_eq_one_iff.1 single
        have key := settles_readVariant (keys _ (List.mem_singleton_self _))
        have value := settles_nothing (values _ (List.mem_singleton_self _))
        obtain ⟨P, reads⟩ := (key.bind value).deeper
        refine ⟨P, ⟨fun {_} room {rest found rest'} => ?_⟩⟩
        rw [List.append_assoc]
        simp only [status, counted]
        rw [List.flatMap_singleton]
        exact reads.iff room
      · refine ⟨fun _ => False, ⟨fun {_} _ {rest found rest'} => ⟨fun result => ?_, fun h => h.2.elim⟩⟩⟩
        rw [List.append_assoc] at result
        simp only [status, counted] at result
        cases result
    · exact variant fun rest => by rw [List.append_assoc]; exact none _

theorem settles_field (formed : WellFormed height bytes) (t : FieldType) : Settles (field t).read height bytes := by
  cases t with
  | text => exact settles_text formed
  | int t => exact settles_int formed t
  | float => exact (settles_readNumber formed _).decide fun _ => .pure _
  | bytes => exact settles_bytes formed
  | id => exact settles_id formed
  | status => exact settles_status formed
  | texts => exact settles_list settles_text formed

theorem decode_append_iff {shape : Shape} {P : shape.Value → Prop} {value : shape.Value}
    (reads : Reads shape.wire.read height bytes P) (shallow : height < depthLimit) (rest : Bytes) :
    shape.decode (bytes ++ rest) = .ok value ↔ P value := by
  constructor
  · intro decoded
    unfold Shape.decode at decoded
    split at decoded
    next read =>
      cases decoded
      exact ((reads.iff shallow).1 read).2
    · cases decoded
  · intro holds
    simp only [Shape.decode, (reads.iff shallow).2 ⟨rfl, holds⟩]

theorem reads_decode {shape : Shape} (settles : Settles shape.wire.read height bytes) (shallow : height < depthLimit) :
    Reads shape.wire.read height bytes fun value => shape.decode bytes = .ok value := by
  obtain ⟨P, reads⟩ := settles
  refine reads.congr fun value => ?_
  have whole : shape.decode (bytes ++ []) = .ok value ↔ P value := decode_append_iff reads shallow []
  rw [List.append_nil] at whole
  exact whole.symm

theorem reads_field (formed : WellFormed height bytes) (shallow : height < depthLimit) (t : FieldType) :
    Reads (field t).read height bytes fun value => (Shape.plain t).decode bytes = .ok value := by
  have settles : Settles (Shape.plain t).wire.read height bytes := settles_field formed t
  exact reads_decode settles shallow

end Wire

theorem takes_times {read : Reader Unit} {elements : List Bytes} (each : ∀ element ∈ elements, read.Takes element ()) :
    (times read elements.length).Takes elements.flatten () := by
  induction elements with
  | nil => exact takes_pure ()
  | cons element elements ih =>
    exact (each element List.mem_cons_self).bind (ih fun element member => each element (List.mem_cons_of_mem _ member))

/-- Whatever a value is, passing over it takes its bytes and no more. -/
theorem WellFormed.takes_skip (formed : WellFormed height bytes) {depth : Nat} (room : height < depth) :
    (skip depth).Takes bytes () := by
  induction formed generalizing depth with
  | @plain height bytes item spelled plain =>
    obtain ⟨depth, rfl⟩ := Nat.exists_eq_add_one_of_ne_zero (Nat.ne_zero_of_lt room)
    intro rest
    rw [skip, bind_ok (spelled.takes_of_plain plain _ rest)]
    cases item with
    | array | map | ext => cases plain
    | _ => rfl
  | @array height header elements spelled _ ih =>
    obtain ⟨depth, rfl⟩ := Nat.exists_eq_add_one_of_ne_zero (Nat.ne_zero_of_lt room)
    have inside := takes_times fun element member => ih element member (Nat.lt_of_succ_lt_succ room)
    exact (spelled.takes fun _ => Nat.lt_of_le_of_lt (Nat.succ_pos _) room).bind inside
  | @map height header entries spelled _ _ ihKeys ihValues =>
    obtain ⟨depth, rfl⟩ := Nat.exists_eq_add_one_of_ne_zero (Nat.ne_zero_of_lt room)
    have inside : (times (do skip depth; skip depth) entries.length).Takes
        (entries.flatMap fun entry => entry.1 ++ entry.2) () := by
      have each : ∀ element ∈ entries.map fun entry => entry.1 ++ entry.2,
          (do skip depth; skip depth : Reader Unit).Takes element () := fun element member => by
        obtain ⟨entry, inside, rfl⟩ := List.mem_map.1 member
        exact (ihKeys entry inside (Nat.lt_of_succ_lt_succ room)).bind
          (ihValues entry inside (Nat.lt_of_succ_lt_succ room))
      have all := takes_times each
      rwa [List.length_map, ← List.flatMap_def] at all
    exact (spelled.takes fun _ => Nat.lt_of_le_of_lt (Nat.succ_pos _) room).bind inside
  | @ext height header data tag spelled =>
    obtain ⟨depth, rfl⟩ := Nat.exists_eq_add_one_of_ne_zero (Nat.ne_zero_of_lt room)
    have first : (take 1 .cutField).Takes [tag] [tag] := takes_take rfl .cutField
    have inside : Takes (do let _ ← take 1 .cutField; let _ ← contents data.length : Reader Unit)
        ([tag] ++ (data ++ [])) () := first.bind ((takes_take rfl .cutContents).bind (takes_pure ()))
    rw [List.append_nil] at inside
    exact (spelled.takes fun _ => Nat.lt_of_le_of_lt (Nat.succ_pos _) room).bind inside

end Value

end Fleetwire.MessagePack
