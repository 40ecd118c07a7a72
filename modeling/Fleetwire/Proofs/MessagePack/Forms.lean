import Mathlib.Data.List.Pairwise
import Fleetwire.Proofs.MessagePack.Values

namespace Fleetwire.MessagePack

open Fleetwire.MessagePack.Reader

inductive Key where
  | name (text : Bytes)
  | index (n : Nat)
deriving DecidableEq, Repr

def Key.Spelled : Key → Bytes → Prop
  | name text, bytes => Spells bytes (.str text) ∨ Spells bytes (.bin text)
  | index n, bytes => Spells bytes (.number (.natural n))

def Key.Names (fields : List Field) (i : Fin fields.length) : Key → Prop
  | name text => Utf8.encode fields[i].name = text
  | index n => n = i

instance (fields : List Field) (i : Fin fields.length) : (key : Key) → Decidable (key.Names fields i)
  | .name _ => inferInstanceAs (Decidable (_ = _))
  | .index _ => inferInstanceAs (Decidable (_ = _))

structure Entry where
  key : Key
  spelling : Bytes
  value : Bytes
deriving DecidableEq, Repr

def Entry.bytes (entry : Entry) : Bytes := entry.spelling ++ entry.value

structure Entry.Formed (height : Nat) (entry : Entry) : Prop where
  key : entry.key.Spelled entry.spelling
  value : WellFormed height entry.value

def Entry.Apart (fields : List Field) (a b : Entry) : Prop := ∀ i, ¬ (a.key.Names fields i ∧ b.key.Names fields i)

instance (fields : List Field) : Std.Symm (Entry.Apart fields) := ⟨fun _ _ apart i both => apart i both.symm⟩

def FieldValues.get : {fields : List Field} → FieldValues fields → (i : Fin fields.length) → fields[i].type.Value
  | _ :: _, (value, _), ⟨0, _⟩ => value
  | _ :: _, (_, values), ⟨i + 1, inside⟩ => FieldValues.get values ⟨i, Nat.lt_of_succ_lt_succ inside⟩

/-- No field occurs twice in the entries, those that occur have the values of their entries, and the others may be left
out. -/
structure FieldValues.Gathered (fields : List Field) (entries : List Entry) (values : FieldValues fields) : Prop where
  once : entries.Pairwise (Entry.Apart fields)
  given : ∀ entry ∈ entries, ∀ i, entry.key.Names fields i →
    (Shape.plain fields[i].type).decode entry.value = .ok (values.get i)
  absent : ∀ i, (∀ entry ∈ entries, ¬ entry.key.Names fields i) → fields[i].absent = some (values.get i)

/-- The first fields have the values of the elements, and the others may be left out. -/
structure FieldValues.Placed (fields : List Field) (elements : List Bytes) (values : FieldValues fields) : Prop where
  few : elements.length ≤ fields.length
  given : ∀ (i : Fin fields.length) (element : Bytes), elements[i.val]? = some element →
    (Shape.plain fields[i].type).decode element = .ok (values.get i)
  absent : ∀ i : Fin fields.length, elements.length ≤ i → fields[i].absent = some (values.get i)

namespace Wire.Slots

variable {fields : List Field}

def get : {fields : List Field} → Slots fields → (i : Fin fields.length) → Option fields[i].type.Value
  | _ :: _, (value, _), ⟨0, _⟩ => value
  | _ :: _, (_, slots), ⟨i + 1, inside⟩ => get slots ⟨i, Nat.lt_of_succ_lt_succ inside⟩

def set : {fields : List Field} → Slots fields → (i : Fin fields.length) → fields[i].type.Value → Slots fields
  | _ :: _, (_, slots), ⟨0, _⟩, value => (some value, slots)
  | _ :: _, (first, slots), ⟨i + 1, inside⟩, value => (first, set slots ⟨i, Nat.lt_of_succ_lt_succ inside⟩ value)

def build : {fields : List Field} → ((i : Fin fields.length) → Option fields[i].type.Value) → Slots fields
  | [], _ => ()
  | _ :: _, value => (value ⟨0, Nat.zero_lt_succ _⟩, build fun i => value i.succ)

theorem get_build (value : (i : Fin fields.length) → Option fields[i].type.Value) (i : Fin fields.length) :
    (build value).get i = value i := by
  induction fields with
  | nil => exact i.elim0
  | cons f fields ih =>
    obtain ⟨i, inside⟩ := i
    cases i with
    | zero => rfl
    | succ i => exact ih (fun i => value i.succ) ⟨i, Nat.lt_of_succ_lt_succ inside⟩

theorem get_set_self (slots : Slots fields) (i : Fin fields.length) (value : fields[i].type.Value) :
    (slots.set i value).get i = some value := by
  induction fields with
  | nil => exact i.elim0
  | cons f fields ih =>
    obtain ⟨i, inside⟩ := i
    cases i with
    | zero => rfl
    | succ i => exact ih slots.2 ⟨i, Nat.lt_of_succ_lt_succ inside⟩ value

theorem get_set_of_ne (slots : Slots fields) {i j : Fin fields.length} (value : fields[i].type.Value) (other : j ≠ i) :
    (slots.set i value).get j = slots.get j := by
  induction fields with
  | nil => exact i.elim0
  | cons f fields ih =>
    obtain ⟨i, inside⟩ := i
    obtain ⟨j, inside'⟩ := j
    cases i with
    | zero =>
      cases j with
      | zero => exact absurd rfl other
      | succ j => rfl
    | succ i =>
      cases j with
      | zero => rfl
      | succ j =>
        refine ih slots.2 (i := ⟨i, Nat.lt_of_succ_lt_succ inside⟩) value fun same => other ?_
        simpa using same

theorem get_empty (i : Fin fields.length) : (Slots.empty fields).get i = none := by
  induction fields with
  | nil => exact i.elim0
  | cons f fields ih =>
    obtain ⟨i, inside⟩ := i
    cases i with
    | zero => rfl
    | succ i => exact ih ⟨i, Nat.lt_of_succ_lt_succ inside⟩

theorem ext {slots slots' : Slots fields} (same : ∀ i, slots.get i = slots'.get i) : slots = slots' := by
  induction fields with
  | nil => rfl
  | cons f fields ih =>
    have first := same ⟨0, Nat.zero_lt_succ _⟩
    have others := ih fun i => same i.succ
    exact Prod.ext first others

theorem finish_eq_ok {slots : Slots fields} {values : FieldValues fields} :
    Slots.finish fields slots = .ok values ↔ ∀ i, (slots.get i <|> fields[i].absent) = some (values.get i) := by
  induction fields with
  | nil => exact ⟨fun _ i => i.elim0, fun _ => rfl⟩
  | cons f fields ih =>
    obtain ⟨found, slots⟩ := slots
    obtain ⟨value, values⟩ := values
    have others : Slots.finish fields slots = .ok values ↔ _ := ih
    have all : (∀ i, (@Slots.get (f :: fields) (found, slots) i <|> (f :: fields)[i].absent) =
        some (@FieldValues.get (f :: fields) (value, values) i)) ↔
        (found <|> f.absent) = some value ∧ ∀ i, (slots.get i <|> fields[i].absent) = some (values.get i) :=
      Fin.forall_fin_succ
    rw [all, ← others, Slots.finish]
    cases (found <|> f.absent) with
    | none =>
      constructor
      · intro result
        cases result
      · rintro ⟨same, _⟩
        cases same
    | some here =>
      cases Slots.finish fields slots with
      | error error =>
        constructor
        · intro result
          cases result
        · rintro ⟨_, same⟩
          cases same
      | ok later =>
        constructor
        · intro result
          cases result
          exact ⟨rfl, rfl⟩
        · rintro ⟨same, same'⟩
          cases same
          cases same'
          rfl

end Wire.Slots

namespace Wire

variable {fields : List Field} {height : Nat} {bytes header : Bytes}

theorem reads_fill (formed : WellFormed height bytes) (shallow : height < depthLimit) (i : Fin fields.length)
    (slots : Slots fields) : Reads (fun depth => Slots.fill depth fields i slots) height bytes fun found =>
      slots.get i = none ∧
        ∃ value, (Shape.plain fields[i].type).decode bytes = .ok value ∧ found = slots.set i value := by
  induction fields with
  | nil => exact i.elim0
  | cons f fields ih =>
    obtain ⟨i, inside⟩ := i
    obtain ⟨first, slots⟩ := slots
    cases i with
    | zero =>
      cases first with
      | some former =>
        exact (reads_throw (.duplicateField f.name)).congr fun found => ⟨False.elim, fun h => (nomatch h.1)⟩
      | none =>
        have whole := (reads_field formed shallow f.type).decide fun value _ =>
          reads_pure ((some value, slots) : Slots (f :: fields))
        exact whole.congr fun found => ⟨fun h => ⟨rfl, h⟩, fun h => h.2⟩
    | succ i =>
      have whole := (ih ⟨i, Nat.lt_of_succ_lt_succ inside⟩ slots).decide fun later _ =>
        reads_pure ((first, later) : Slots (f :: fields))
      refine whole.congr fun found => ?_
      constructor
      · rintro ⟨later, ⟨free, value, decoded, rfl⟩, rfl⟩
        exact ⟨free, value, decoded, rfl⟩
      · rintro ⟨free, value, decoded, rfl⟩
        exact ⟨_, ⟨free, value, decoded, rfl⟩, rfl⟩

theorem names_unique (distinct : (fields.map fun f => Utf8.encode f.name).Nodup) {key : Key} {i j : Fin fields.length}
    (first : key.Names fields i) (second : key.Names fields j) : i = j := by
  cases key with
  | index n => exact Fin.ext (first.symm.trans second)
  | name text =>
    have here := named_of_distinct distinct i i.isLt
    have there := named_of_distinct distinct j j.isLt
    rw [show Utf8.encode fields[i.val].name = text from first] at here
    rw [show Utf8.encode fields[j.val].name = text from second] at there
    exact Fin.ext (Option.some.inj (here.symm.trans there))

theorem reads_key (distinct : (fields.map fun f => Utf8.encode f.name).Nodup) {key : Key}
    (spelled : key.Spelled bytes) (height : Nat) :
    (∃ i, key.Names fields i ∧ Reads (readKey fields) height bytes fun found => found = some i.val) ∨
      (∀ i, ¬ key.Names fields i) ∧ Reads (readKey fields) height bytes fun found => found = none := by
  cases key with
  | name text =>
    have named : Reads (readKey fields) height bytes fun found => found = readKey.named fields text := by
      refine reads_of_takes fun {depth} _ rest => ?_
      rcases spelled with spelled | spelled <;>
      · rw [readKey, bind_ok (spelled.takes_of_plain rfl depth rest)]
        rfl
    by_cases known : ∃ i, Key.Names fields i (.name text)
    · obtain ⟨i, names⟩ := known
      have own := named_of_distinct distinct i i.isLt
      rw [show Utf8.encode fields[i.val].name = text from names] at own
      exact .inl ⟨i, names, own ▸ named⟩
    · have unknown : readKey.named fields text = none := by
        refine List.findIdx?_eq_none_iff.2 fun f member => decide_eq_false fun same => known ?_
        obtain ⟨i, inside, rfl⟩ := List.getElem_of_mem member
        exact ⟨⟨i, inside⟩, same⟩
      exact .inr ⟨fun i names => known ⟨i, names⟩, unknown ▸ named⟩
  | index n =>
    have numbered : Reads (readKey fields) height bytes fun found =>
        found = if n < fields.length then some n else none := by
      refine reads_of_takes fun {depth} _ rest => ?_
      rw [readKey, bind_ok (Spells.takes_of_plain spelled rfl depth rest)]
      rfl
    by_cases known : n < fields.length
    · rw [if_pos known] at numbered
      exact .inl ⟨⟨n, known⟩, rfl, numbered⟩
    · rw [if_neg known] at numbered
      exact .inr ⟨fun i (names : n = i) => known (names ▸ i.isLt), numbered⟩

structure Slots.Collected (entries : List Entry) (slots found : Slots fields) : Prop where
  once : entries.Pairwise (Entry.Apart fields)
  given : ∀ entry ∈ entries, ∀ i, entry.key.Names fields i → slots.get i = none ∧
    ∃ value, (Shape.plain fields[i].type).decode entry.value = .ok value ∧ found.get i = some value
  others : ∀ i, (∀ entry ∈ entries, ¬ entry.key.Names fields i) → found.get i = slots.get i

variable {entry : Entry} {entries : List Entry} {slots found : Slots fields}

theorem Slots.collected_nil : Slots.Collected [] slots found ↔ found = slots := by
  constructor
  · exact fun h => Slots.ext fun i => h.others i nofun
  · rintro rfl
    exact ⟨.nil, nofun, fun _ _ => rfl⟩

theorem Slots.collected_cons_of_unknown (unknown : ∀ i, ¬ entry.key.Names fields i) :
    Slots.Collected (entry :: entries) slots found ↔ Slots.Collected entries slots found := by
  constructor
  · intro h
    refine ⟨h.once.of_cons, fun other member => h.given other (List.mem_cons_of_mem _ member), fun i none => ?_⟩
    exact h.others i (List.forall_mem_cons.2 ⟨unknown i, none⟩)
  · intro h
    refine ⟨List.pairwise_cons.2 ⟨fun _ _ i both => unknown i both.1, h.once⟩, ?_, fun i none => ?_⟩
    · exact List.forall_mem_cons.2 ⟨fun i names => absurd names (unknown i), h.given⟩
    · exact h.others i (List.forall_mem_cons.1 none).2

theorem Slots.collected_cons (distinct : (fields.map fun f => Utf8.encode f.name).Nodup) {i : Fin fields.length}
    (names : entry.key.Names fields i) :
    Slots.Collected (entry :: entries) slots found ↔ slots.get i = none ∧
      ∃ value, (Shape.plain fields[i].type).decode entry.value = .ok value ∧
        Slots.Collected entries (slots.set i value) found := by
  constructor
  · intro h
    obtain ⟨free, value, decoded, here⟩ := h.given entry List.mem_cons_self i names
    obtain ⟨apart, once⟩ := List.pairwise_cons.1 h.once
    refine ⟨free, value, decoded, once, fun other member j names' => ?_, fun j none => ?_⟩
    · have different : j ≠ i := fun same => apart other member i ⟨names, same ▸ names'⟩
      rw [Slots.get_set_of_ne slots value different]
      exact h.given other (List.mem_cons_of_mem _ member) j names'
    · by_cases same : j = i
      · subst same
        rw [here, Slots.get_set_self]
      · rw [Slots.get_set_of_ne slots value same]
        exact h.others j (List.forall_mem_cons.2 ⟨fun names' => same (names_unique distinct names' names), none⟩)
  · rintro ⟨free, value, decoded, h⟩
    -- An entry for the same field would have found its slot filled.
    have apart : ∀ other ∈ entries, ¬ other.key.Names fields i := fun other member names' => by
      have filled := (h.given other member i names').1
      rw [Slots.get_set_self] at filled
      cases filled
    refine ⟨List.pairwise_cons.2 ⟨fun other member j both => ?_, h.once⟩, List.forall_mem_cons.2 ⟨?_, ?_⟩,
      fun j none => ?_⟩
    · exact apart other member (names_unique distinct both.1 names ▸ both.2)
    · intro j names'
      obtain rfl := names_unique distinct names' names
      exact ⟨free, value, decoded, (h.others j apart).trans (Slots.get_set_self slots j value)⟩
    · intro other member j names'
      have different : j ≠ i := fun same => apart other member (same ▸ names')
      have given := h.given other member j names'
      rwa [Slots.get_set_of_ne slots value different] at given
    · obtain ⟨first, later⟩ := List.forall_mem_cons.1 none
      have different : j ≠ i := fun same => first (same ▸ names)
      rw [h.others j later, Slots.get_set_of_ne slots value different]

theorem reads_readFields (distinct : (fields.map fun f => Utf8.encode f.name).Nodup) (shallow : height < depthLimit)
    (formed : ∀ entry ∈ entries, entry.Formed height) (slots : Slots fields) :
    Reads (fun depth => readFields fields depth entries.length slots) height (entries.flatMap Entry.bytes)
      (Slots.Collected entries slots) := by
  induction entries generalizing slots with
  | nil => exact (reads_pure slots).congr fun found => Slots.collected_nil.symm
  | cons entry entries ih =>
    obtain ⟨⟨spelled, value⟩, others⟩ := List.forall_mem_cons.1 formed
    have later := ih others
    rw [List.flatMap_cons, Entry.bytes, List.append_assoc]
    rcases reads_key distinct spelled height with ⟨i, names, key⟩ | ⟨unknown, key⟩
    · have filled := (reads_fill value shallow i slots).bind fun slots _ => later slots
      refine Reads.congr (key.bind_known filled) fun found => ?_
      rw [Slots.collected_cons distinct names]
      constructor
      · rintro ⟨_, ⟨free, value, decoded, rfl⟩, collected⟩
        exact ⟨free, value, decoded, collected⟩
      · rintro ⟨free, value, decoded, collected⟩
        exact ⟨_, ⟨free, value, decoded, rfl⟩, collected⟩
    · have passed := (reads_of_takes value.takes_skip).bind_known
        (f := fun _ depth => readFields fields depth entries.length slots) (later slots)
      exact Reads.congr (key.bind_known passed) fun found => (Slots.collected_cons_of_unknown unknown).symm

theorem gathered_iff_finish {r : Record} {entries : List Entry} {values : r.Value} :
    FieldValues.Gathered r.fields entries values ↔
      ∃ found, Slots.Collected entries (Slots.empty r.fields) found ∧ Slots.finish r.fields found = .ok values := by
  constructor
  · intro h
    -- The slots that the entries fill are those of the fields that occur.
    let found : Slots r.fields := Slots.build fun i =>
      if ∃ entry ∈ entries, entry.key.Names r.fields i then some (values.get i) else none
    have occurs {entry : Entry} {i : Fin r.fields.length} (member : entry ∈ entries)
        (names : entry.key.Names r.fields i) : found.get i = some (values.get i) := by
      rw [Slots.get_build, if_pos ⟨entry, member, names⟩]
    have lacks {i : Fin r.fields.length} (none : ∀ entry ∈ entries, ¬ entry.key.Names r.fields i) :
        found.get i = .none := by
      rw [Slots.get_build, if_neg fun ⟨entry, member, names⟩ => none entry member names]
    refine ⟨found, ⟨h.once, fun entry member i names => ?_, fun i none => ?_⟩, Slots.finish_eq_ok.2 fun i => ?_⟩
    · exact ⟨Slots.get_empty i, _, h.given entry member i names, occurs member names⟩
    · rw [lacks none, Slots.get_empty]
    · by_cases occurring : ∃ entry ∈ entries, entry.key.Names r.fields i
      · obtain ⟨entry, member, names⟩ := occurring
        rw [occurs member names]
        rfl
      · have none : ∀ entry ∈ entries, ¬ entry.key.Names r.fields i := fun entry member names =>
          occurring ⟨entry, member, names⟩
        rw [lacks none, h.absent i none]
        rfl
  · rintro ⟨found, collected, finished⟩
    have each := Slots.finish_eq_ok.1 finished
    refine ⟨collected.once, fun entry member i names => ?_, fun i none => ?_⟩
    · obtain ⟨_, value, decoded, here⟩ := collected.given entry member i names
      have own := each i
      rw [here] at own
      rw [decoded, Option.some.inj own]
    · have own := each i
      rwa [collected.others i none, Slots.get_empty] at own

theorem reads_entries {r : Record} {entries : List Entry} (proper : r.Proper) (shallow : height + 1 < depthLimit)
    (spelled : Spells header (.map entries.length)) (formed : ∀ entry ∈ entries, entry.Formed height) :
    Reads (record r).read (height + 1) (header ++ entries.flatMap Entry.bytes)
      (FieldValues.Gathered r.fields entries) := by
  have inside := (reads_readFields proper.distinct (Nat.lt_of_succ_lt shallow) formed (.empty r.fields)).inside
  have finished := inside.decide fun found _ => reads_lift (Slots.finish r.fields found)
  have opened : Reads Item.read (height + 1) header _ := spelled.reads fun _ => Nat.succ_pos height
  exact Reads.congr (opened.bind_known finished) fun values => gathered_iff_finish.symm

variable {f : Field} {elements : List Bytes}

theorem placed_nil {values : FieldValues []} : FieldValues.Placed [] elements values ↔ elements = [] := by
  constructor
  · exact fun h => List.eq_nil_of_length_eq_zero (Nat.le_zero.1 h.few)
  · rintro rfl
    exact ⟨Nat.le_refl 0, fun i => i.elim0, fun i => i.elim0⟩

theorem placed_cons_nil {value : f.type.Value} {values : FieldValues fields} :
    FieldValues.Placed (f :: fields) [] (value, values) ↔
      f.absent = some value ∧ FieldValues.Placed fields [] values := by
  constructor
  · intro h
    exact ⟨h.absent ⟨0, Nat.zero_lt_succ _⟩ (Nat.zero_le _), Nat.zero_le _, nofun,
      fun i _ => h.absent i.succ (Nat.zero_le _)⟩
  · rintro ⟨first, h⟩
    exact ⟨Nat.zero_le _, nofun, Fin.forall_fin_succ.2 ⟨fun _ => first, fun i _ => h.absent i (Nat.zero_le _)⟩⟩

theorem placed_cons {element : Bytes} {value : f.type.Value} {values : FieldValues fields} :
    FieldValues.Placed (f :: fields) (element :: elements) (value, values) ↔
      (Shape.plain f.type).decode element = .ok value ∧ FieldValues.Placed fields elements values := by
  constructor
  · intro h
    refine ⟨h.given ⟨0, Nat.zero_lt_succ _⟩ element rfl, Nat.le_of_succ_le_succ h.few, fun i other there => ?_,
      fun i after => ?_⟩
    · exact h.given i.succ other there
    · exact h.absent i.succ (Nat.succ_le_succ after)
  · rintro ⟨first, h⟩
    refine ⟨Nat.succ_le_succ h.few, Fin.forall_fin_succ.2 ⟨?_, h.given⟩, Fin.forall_fin_succ.2 ⟨nofun, ?_⟩⟩
    · rintro other there
      cases there
      exact first
    · exact fun i after => h.absent i (Nat.le_of_succ_le_succ after)

theorem reads_readPositions (r : Record) (shallow : height < depthLimit)
    (formed : ∀ element ∈ elements, WellFormed height element) (few : elements.length ≤ fields.length) :
    Reads (fun depth => readPositions r depth fields elements.length) height elements.flatten
      fun found => found.2 = 0 ∧ FieldValues.Placed fields elements found.1 := by
  induction fields generalizing elements with
  | nil =>
    obtain rfl := List.eq_nil_of_length_eq_zero (Nat.le_zero.1 few)
    refine (reads_pure (((), 0) : FieldValues [] × Nat)).congr fun found => ?_
    obtain ⟨values, surplus⟩ := found
    constructor
    · rintro same
      cases same
      exact ⟨rfl, placed_nil.2 rfl⟩
    · rintro ⟨rfl, _⟩
      rfl
  | cons f fields ih =>
    cases elements with
    | nil =>
      cases absent : f.absent with
      | none =>
        have refused : (fun depth => readPositions r depth (f :: fields) 0) = fun _ => throw (DecodeError.tooShort
            (r.fields.length - (fields.length + 1)) r.name r.fields.length) := by
          funext depth
          rw [readPositions, absent]
        rw [List.length_nil, refused]
        refine (reads_throw _).congr fun found => ?_
        obtain ⟨⟨value, values⟩, surplus⟩ := found
        rw [placed_cons_nil, absent]
        exact ⟨False.elim, fun h => by cases h.2.1⟩
      | some here =>
        have rest : Reads (fun depth => readPositions r depth fields 0) height [] _ :=
          ih (List.forall_mem_nil _) (Nat.zero_le _)
        have whole := rest.decide fun found _ =>
          reads_pure (((here, found.1), found.2) : FieldValues (f :: fields) × Nat)
        have unfolded : (fun depth => readPositions r depth (f :: fields) 0) = fun depth =>
            readPositions r depth fields 0 >>= fun found => pure ((here, found.1), found.2) := by
          funext depth
          rw [readPositions, absent]
          rfl
        rw [List.length_nil, unfolded]
        refine Reads.congr whole fun found => ?_
        obtain ⟨⟨value, values⟩, surplus⟩ := found
        rw [placed_cons_nil, absent]
        constructor
        · rintro ⟨⟨later, _⟩, ⟨rfl, placed⟩, same⟩
          cases same
          exact ⟨rfl, rfl, placed⟩
        · rintro ⟨rfl, same, placed⟩
          cases same
          exact ⟨(values, 0), ⟨rfl, placed⟩, rfl⟩
    | cons element elements =>
      obtain ⟨first, others⟩ := List.forall_mem_cons.1 formed
      have later := ih others (Nat.le_of_succ_le_succ few)
      have whole := (reads_field first shallow f.type).bind fun value _ =>
        later.decide fun found _ => reads_pure (((value, found.1), found.2) : FieldValues (f :: fields) × Nat)
      refine Reads.congr whole fun found => ?_
      obtain ⟨⟨value, values⟩, surplus⟩ := found
      rw [placed_cons]
      constructor
      · rintro ⟨_, decoded, ⟨later, _⟩, ⟨rfl, placed⟩, same⟩
        cases same
        exact ⟨rfl, decoded, placed⟩
      · rintro ⟨rfl, decoded, placed⟩
        exact ⟨value, decoded, (values, 0), ⟨rfl, placed⟩, rfl⟩

theorem surplus_of_readPositions {r : Record} {depth left : Nat} {bytes rest : Bytes}
    {found : FieldValues fields × Nat} (read : readPositions r depth fields left bytes = .ok (found, rest)) :
    found.2 = left - fields.length := by
  induction fields generalizing left bytes with
  | nil =>
    cases read
    rfl
  | cons f fields ih =>
    cases left with
    | zero =>
      rw [readPositions] at read
      cases absent : f.absent with
      | none =>
        rw [absent] at read
        cases read
      | some value =>
        rw [absent] at read
        obtain ⟨later, _, result, same⟩ := exists_of_bind_ok read
        cases same
        rw [ih result, Nat.zero_sub, Nat.zero_sub]
    | succ left =>
      obtain ⟨value, _, _, others⟩ := exists_of_bind_ok read
      obtain ⟨later, _, result, same⟩ := exists_of_bind_ok others
      cases same
      rw [ih result, List.length_cons, Nat.succ_sub_succ]

theorem reads_elements {r : Record} (shallow : height + 1 < depthLimit)
    (spelled : Spells header (.array elements.length)) (formed : ∀ element ∈ elements, WellFormed height element) :
    Reads (record r).read (height + 1) (header ++ elements.flatten) (FieldValues.Placed r.fields elements) := by
  have opened : Reads Item.read (height + 1) header _ := spelled.reads fun _ => Nat.succ_pos height
  by_cases few : elements.length ≤ r.fields.length
  · have inside := (reads_readPositions r (Nat.lt_of_succ_lt shallow) formed few).inside
    have closed : ∀ found : FieldValues r.fields × Nat, found.2 = 0 ∧ FieldValues.Placed r.fields elements found.1 →
        Reads (fun _ => (if found.2 = 0 then return found.1 else throw (.lengthMismatch (elements.length - found.2)) :
          Reader (FieldValues r.fields))) (height + 1) [] fun values => values = found.1 := fun found holds => by
      rw [if_pos holds.1]
      exact reads_pure found.1
    have whole := inside.decide closed
    refine Reads.congr (opened.bind_known whole) fun values => ?_
    constructor
    · rintro ⟨found, ⟨_, placed⟩, rfl⟩
      exact placed
    · exact fun placed => ⟨(values, 0), ⟨rfl, placed⟩, rfl⟩
  · refine ⟨fun {depth} room {rest values rest'} => ⟨fun result => ?_, fun h => absurd h.2.few few⟩⟩
    rw [List.append_assoc] at result
    obtain ⟨item, left, header, after⟩ := exists_of_bind_ok result
    obtain ⟨rfl, rfl⟩ := (opened.iff room).1 header
    obtain ⟨⟨placed, surplus⟩, left, positions, last⟩ := exists_of_bind_ok after
    have excess : surplus ≠ 0 := by
      have counted := surplus_of_readPositions positions
      omega
    cases surplus with
    | zero => exact absurd rfl excess
    | succ surplus => cases last

end Wire

section Acceptance

variable {fields : List Field} {entries : List Entry} {elements : List Bytes}

theorem FieldValues.exists_get {P : (i : Fin fields.length) → fields[i].type.Value → Prop}
    (each : ∀ i, ∃ value, P i value) : ∃ values : FieldValues fields, ∀ i, P i (values.get i) := by
  induction fields with
  | nil => exact ⟨(), fun i => i.elim0⟩
  | cons f fields ih =>
    obtain ⟨value, here⟩ := each ⟨0, Nat.zero_lt_succ _⟩
    obtain ⟨values, others⟩ := ih fun i => each i.succ
    exact ⟨(value, values), Fin.forall_fin_succ.2 ⟨here, others⟩⟩

/-- Entries make up a record if no field occurs twice, every field occurs that may not be left out, and the entry of a
field holds a value of its type. -/
theorem FieldValues.exists_gathered : (∃ values, FieldValues.Gathered fields entries values) ↔
    entries.Pairwise (Entry.Apart fields) ∧
    (∀ i : Fin fields.length, fields[i].absent = none → ∃ entry ∈ entries, entry.key.Names fields i) ∧
    ∀ entry ∈ entries, ∀ i, entry.key.Names fields i →
      ∃ value : fields[i].type.Value, (Shape.plain fields[i].type).decode entry.value = .ok value := by
  constructor
  · rintro ⟨values, h⟩
    refine ⟨h.once, fun i needed => ?_, fun entry member i names => ⟨_, h.given entry member i names⟩⟩
    by_contra lacking
    have spared := h.absent i fun entry member names => lacking ⟨entry, member, names⟩
    rw [needed] at spared
    cases spared
  · rintro ⟨once, complete, decodes⟩
    have each (i : Fin fields.length) : ∃ value : fields[i].type.Value, (∀ entry ∈ entries, entry.key.Names fields i →
        (Shape.plain fields[i].type).decode entry.value = .ok value) ∧
        ((∀ entry ∈ entries, ¬ entry.key.Names fields i) → fields[i].absent = some value) := by
      by_cases occurs : ∃ entry ∈ entries, entry.key.Names fields i
      · obtain ⟨entry, member, names⟩ := occurs
        obtain ⟨value, decoded⟩ := decodes entry member i names
        refine ⟨value, fun other inside names' => ?_, fun none => absurd names (none entry member)⟩
        by_cases same : entry = other
        · rwa [← same]
        · exact absurd ⟨names, names'⟩ (once.forall member inside same i)
      · cases absent : fields[i].absent with
        | none => exact absurd (complete i absent) occurs
        | some value => exact ⟨value, fun entry member names => absurd ⟨entry, member, names⟩ occurs, fun _ => rfl⟩
    obtain ⟨values, all⟩ := FieldValues.exists_get each
    exact ⟨values, once, fun entry member i names => (all i).1 entry member names, fun i => (all i).2⟩

theorem FieldValues.exists_placed : (∃ values, FieldValues.Placed fields elements values) ↔
    elements.length ≤ fields.length ∧
    (∀ i : Fin fields.length, elements.length ≤ i → fields[i].absent ≠ none) ∧
    ∀ (i : Fin fields.length) (element : Bytes), elements[i.val]? = some element →
      ∃ value : fields[i].type.Value, (Shape.plain fields[i].type).decode element = .ok value := by
  constructor
  · rintro ⟨values, h⟩
    refine ⟨h.few, fun i after lacking => ?_, fun i element there => ⟨_, h.given i element there⟩⟩
    rw [h.absent i after] at lacking
    cases lacking
  · rintro ⟨few, spared, decodes⟩
    have each (i : Fin fields.length) : ∃ value : fields[i].type.Value, (∀ element, elements[i.val]? = some element →
        (Shape.plain fields[i].type).decode element = .ok value) ∧
        (elements.length ≤ i → fields[i].absent = some value) := by
      by_cases inside : i.val < elements.length
      · have there := List.getElem?_eq_getElem inside
        obtain ⟨value, decoded⟩ := decodes i _ there
        refine ⟨value, fun element there' => ?_, fun after => absurd inside (Nat.not_lt.2 after)⟩
        cases there.symm.trans there'
        exact decoded
      · have after := Nat.le_of_not_lt inside
        obtain ⟨value, absent⟩ := Option.ne_none_iff_exists'.1 (spared i after)
        refine ⟨value, fun element there => ?_, fun _ => absent⟩
        rw [List.getElem?_eq_none after] at there
        cases there
    obtain ⟨values, all⟩ := FieldValues.exists_get each
    exact ⟨values, few, fun i => (all i).1, fun i => (all i).2⟩

end Acceptance

section Told

variable {fields : List Field} {entries entries' : List Entry} {values : FieldValues fields}

/-- The field that an entry is for and the bytes of its value, if there is such a field. -/
def Entry.told (fields : List Field) (entry : Entry) : Option (Fin fields.length × Bytes) :=
  ((List.finRange fields.length).find? fun i => entry.key.Names fields i).map fun i => (i, entry.value)

theorem Entry.told_eq_some (distinct : (fields.map fun f => Utf8.encode f.name).Nodup) {entry : Entry}
    {i : Fin fields.length} {value : Bytes} :
    entry.told fields = some (i, value) ↔ entry.key.Names fields i ∧ entry.value = value := by
  rw [Entry.told, Option.map_eq_some_iff]
  constructor
  · rintro ⟨j, found, same⟩
    cases same
    have names := List.find?_some found
    exact ⟨of_decide_eq_true names, rfl⟩
  · rintro ⟨names, rfl⟩
    cases found : (List.finRange fields.length).find? fun i => entry.key.Names fields i with
    | none =>
      have none := List.find?_eq_none.1 found i (List.mem_finRange i)
      exact absurd (decide_eq_true names) none
    | some j =>
      have first := List.find?_some found
      obtain rfl := Wire.names_unique distinct (of_decide_eq_true first) names
      exact ⟨j, rfl, rfl⟩

theorem FieldValues.gathered_iff_told (distinct : (fields.map fun f => Utf8.encode f.name).Nodup) :
    FieldValues.Gathered fields entries values ↔
      let told := entries.filterMap (Entry.told fields)
      (told.map Prod.fst).Nodup ∧
      (∀ i value, (i, value) ∈ told → (Shape.plain fields[i].type).decode value = .ok (values.get i)) ∧
      ∀ i, i ∉ told.map Prod.fst → fields[i].absent = some (values.get i) := by
  have mem_told (i : Fin fields.length) (value : Bytes) : (i, value) ∈ entries.filterMap (Entry.told fields) ↔
      ∃ entry ∈ entries, entry.key.Names fields i ∧ entry.value = value := by
    simp only [List.mem_filterMap, Entry.told_eq_some distinct]
  have once : ((entries.filterMap (Entry.told fields)).map Prod.fst).Nodup ↔
      entries.Pairwise (Entry.Apart fields) := by
    rw [List.Nodup, List.pairwise_map, List.pairwise_filterMap]
    refine List.Pairwise.iff fun a b => ?_
    constructor
    · intro apart i both
      exact apart (i, a.value) ((Entry.told_eq_some distinct).2 ⟨both.1, rfl⟩) (i, b.value)
        ((Entry.told_eq_some distinct).2 ⟨both.2, rfl⟩) rfl
    · rintro apart ⟨i, _⟩ first ⟨j, _⟩ second rfl
      exact apart i ⟨((Entry.told_eq_some distinct).1 first).1, ((Entry.told_eq_some distinct).1 second).1⟩
  constructor
  · intro h
    refine ⟨once.2 h.once, fun i value member => ?_, fun i unused => h.absent i fun entry member names => unused ?_⟩
    · obtain ⟨entry, inside, names, rfl⟩ := (mem_told i value).1 member
      exact h.given entry inside i names
    · exact List.mem_map.2 ⟨(i, entry.value), (mem_told i _).2 ⟨entry, member, names, rfl⟩, rfl⟩
  · rintro ⟨apart, given, absent⟩
    refine ⟨once.1 apart, fun entry member i names => ?_, fun i none => absent i fun used => ?_⟩
    · exact given i entry.value ((mem_told i _).2 ⟨entry, member, names, rfl⟩)
    · obtain ⟨⟨_, value⟩, member, rfl⟩ := List.mem_map.1 used
      obtain ⟨entry, inside, names, _⟩ := (mem_told _ value).1 member
      exact none entry inside names

theorem FieldValues.gathered_perm (distinct : (fields.map fun f => Utf8.encode f.name).Nodup)
    (same : (entries.filterMap (Entry.told fields)).Perm (entries'.filterMap (Entry.told fields))) :
    FieldValues.Gathered fields entries values ↔ FieldValues.Gathered fields entries' values := by
  rw [gathered_iff_told distinct, gathered_iff_told distinct]
  simp only [(same.map Prod.fst).nodup_iff, same.mem_iff, (same.map Prod.fst).mem_iff]

structure Labelled (fields : List Field) (elements : List Bytes) (entries : List Entry) : Prop where
  values : entries.map Entry.value = elements
  keys : ∀ (n : Nat) (entry : Entry), entries[n]? = some entry → ∃ inside : n < fields.length,
    entry.key.Names fields ⟨n, inside⟩

theorem Labelled.length_le {elements : List Bytes} (labelled : Labelled fields elements entries) :
    entries.length ≤ fields.length := by
  by_contra excess
  obtain ⟨inside, _⟩ := labelled.keys fields.length _ (List.getElem?_eq_getElem (Nat.lt_of_not_le excess))
  exact Nat.lt_irrefl _ inside

theorem FieldValues.gathered_iff_placed {elements : List Bytes}
    (distinct : (fields.map fun f => Utf8.encode f.name).Nodup) (labelled : Labelled fields elements entries) :
    FieldValues.Gathered fields entries values ↔ FieldValues.Placed fields elements values := by
  have place {n : Nat} {entry : Entry} {i : Fin fields.length} (there : entries[n]? = some entry)
      (names : entry.key.Names fields i) : n = i.val := by
    obtain ⟨inside, own⟩ := labelled.keys n entry there
    exact congrArg Fin.val (Wire.names_unique distinct own names)
  have length : entries.length = elements.length := by rw [← labelled.values, List.length_map]
  have element {n : Nat} : elements[n]? = entries[n]?.map Entry.value := by
    rw [← labelled.values, List.getElem?_map]
  constructor
  · intro h
    refine ⟨?_, fun i bytes there => ?_, fun i after => h.absent i fun entry member names => ?_⟩
    · rw [← length]
      exact labelled.length_le
    · rw [element, Option.map_eq_some_iff] at there
      obtain ⟨entry, there, rfl⟩ := there
      obtain ⟨inside, names⟩ := labelled.keys i.val entry there
      exact h.given entry (List.mem_of_getElem? there) i names
    · obtain ⟨n, there⟩ := List.getElem?_of_mem member
      have inside := (List.getElem?_eq_some_iff.1 there).1
      have same := place there names
      omega
  · intro h
    refine ⟨?_, fun entry member i names => ?_, fun i none => h.absent i ?_⟩
    · refine List.pairwise_iff_getElem.2 fun m n first second less i both => ?_
      have here := place (List.getElem?_eq_getElem first) both.1
      have there := place (List.getElem?_eq_getElem second) both.2
      omega
    · obtain ⟨n, there⟩ := List.getElem?_of_mem member
      obtain rfl := place there names
      exact h.given i entry.value (by rw [element, there]; rfl)
    · by_contra before
      have inside : i.val < entries.length := by omega
      obtain ⟨_, names⟩ := labelled.keys i.val _ (List.getElem?_eq_getElem inside)
      exact none _ (List.getElem_mem inside) names

end Told

inductive Form (height : Nat) : Bytes → Prop
  | array {header : Bytes} {elements : List Bytes} (spelled : Spells header (.array elements.length))
    (formed : ∀ element ∈ elements, WellFormed height element) : Form height (header ++ elements.flatten)
  | map {header : Bytes} {entries : List Entry} (spelled : Spells header (.map entries.length))
    (formed : ∀ entry ∈ entries, entry.Formed height) : Form height (header ++ entries.flatMap Entry.bytes)

namespace Wire

variable {height : Nat} {bytes header : Bytes}

theorem reads_form {r : Record} (proper : r.Proper) (form : Form height bytes) (shallow : height + 1 < depthLimit) :
    Reads (record r).read (height + 1) bytes fun values => (Shape.record r).decode bytes = .ok values := by
  have settles : Settles (Shape.record r).wire.read (height + 1) bytes := by
    cases form with
    | array spelled formed => exact (reads_elements shallow spelled formed).settles
    | map spelled formed => exact (reads_entries proper shallow spelled formed).settles
  exact reads_decode settles shallow

theorem reads_rows {r : Record} (proper : r.Proper) {rows : List Bytes} (forms : ∀ row ∈ rows, Form height row)
    (shallow : height + 2 < depthLimit) (spelled : Spells header (.array rows.length)) :
    Reads (Shape.records r).wire.read (height + 2) (header ++ rows.flatten)
      (List.Forall₂ (fun row values => (Shape.record r).decode row = .ok values) rows) := by
  have each : ∀ row ∈ rows, Reads (record r).read (height + 1) row fun values =>
      (Shape.record r).decode row = .ok values := fun row member =>
    reads_form proper (forms row member) (Nat.lt_of_succ_lt shallow)
  have opened : Reads Item.read (height + 2) header _ := spelled.reads fun _ => Nat.succ_pos _
  exact opened.bind_known (reads_many each).inside

end Wire

end Fleetwire.MessagePack
