import Fleetwire.MessagePack.Item
import Fleetwire.Message.Id
import Fleetwire.Message.Status

namespace Fleetwire.MessagePack

inductive IntType where
  | u8
  | u16
  | u32
  | u64
  | i32
  | i64
deriving DecidableEq, Repr

namespace IntType

def name : IntType → String
  | u8 => "u8"
  | u16 => "u16"
  | u32 => "u32"
  | u64 => "u64"
  | i32 => "i32"
  | i64 => "i64"

def least : IntType → Int
  | u8 | u16 | u32 | u64 => 0
  | i32 => -0x80000000
  | i64 => -0x8000000000000000

def greatest : IntType → Int
  | u8 => 0xFF
  | u16 => 0xFFFF
  | u32 => 0xFFFFFFFF
  | u64 => 0xFFFFFFFFFFFFFFFF
  | i32 => 0x7FFFFFFF
  | i64 => 0x7FFFFFFFFFFFFFFF

def Value (t : IntType) : Type := { i : Int // t.least ≤ i ∧ i ≤ t.greatest }

instance (t : IntType) : DecidableEq t.Value := inferInstanceAs (DecidableEq (Subtype _))

def ofInt? (t : IntType) (i : Int) : Option t.Value :=
  if h : t.least ≤ i ∧ i ≤ t.greatest then some ⟨i, h⟩ else none

theorem ofInt?_val (t : IntType) (v : t.Value) : t.ofInt? v.val = some v := dif_pos v.property

end IntType

structure Table where
  entries : List (String × String)
  ascending : entries.Pairwise (fun a b => a.1 < b.1)
deriving DecidableEq, Repr

namespace Table

def empty : Table := ⟨[], .nil⟩

def insertEntry (key value : String) : List (String × String) → List (String × String)
  | [] => [(key, value)]
  | (k, v) :: rest =>
    if key < k then (key, value) :: (k, v) :: rest
    else if key = k then (key, value) :: rest
    else (k, v) :: insertEntry key value rest

theorem mem_insertEntry {key value : String} {entries : List (String × String)}
    {e : String × String} (h : e ∈ insertEntry key value entries) :
    e = (key, value) ∨ e ∈ entries := by
  induction entries with
  | nil => left; simpa [insertEntry] using h
  | cons head rest ih =>
    simp only [insertEntry] at h
    split at h
    · simpa using h
    · split at h
      · rcases List.mem_cons.1 h with h | h
        · exact .inl h
        · exact .inr (List.mem_cons_of_mem _ h)
      · rcases List.mem_cons.1 h with h | h
        · exact .inr (h ▸ List.mem_cons_self)
        · exact (ih h).imp_right (List.mem_cons_of_mem _)

theorem pairwise_insertEntry {key value : String} {entries : List (String × String)}
    (h : entries.Pairwise (fun a b => a.1 < b.1)) :
    (insertEntry key value entries).Pairwise (fun a b => a.1 < b.1) := by
  induction entries with
  | nil => simp [insertEntry]
  | cons head rest ih =>
    obtain ⟨hhead, hrest⟩ := List.pairwise_cons.1 h
    simp only [insertEntry]
    split
    · rename_i hlt
      refine List.pairwise_cons.2 ⟨fun e he => ?_, h⟩
      rcases List.mem_cons.1 he with rfl | he
      · exact hlt
      · exact String.lt_trans hlt (hhead e he)
    · rename_i hlt
      split
      · rename_i heq
        exact List.pairwise_cons.2 ⟨fun e he => heq ▸ hhead e he, hrest⟩
      · rename_i hne
        refine List.pairwise_cons.2 ⟨fun e he => ?_, ih hrest⟩
        rcases mem_insertEntry he with rfl | he
        · exact Std.lt_of_le_of_ne (String.not_lt.1 hlt) (Ne.symm hne)
        · exact hhead e he

def insert (table : Table) (key value : String) : Table :=
  ⟨insertEntry key value table.entries, pairwise_insertEntry table.ascending⟩

end Table

inductive FieldType where
  | text
  | int (t : IntType)
  | float
  | bytes
  | id
  | status
  | texts
deriving DecidableEq, Repr

def FieldType.Value : FieldType → Type
  | text => String
  | int t => t.Value
  | float => Binary64
  | bytes => Bytes
  | id => MessageId
  | status => Status
  | texts => List String

instance : (t : FieldType) → DecidableEq t.Value
  | .text => inferInstanceAs (DecidableEq String)
  | .int t => inferInstanceAs (DecidableEq t.Value)
  | .float => inferInstanceAs (DecidableEq Binary64)
  | .bytes => inferInstanceAs (DecidableEq Bytes)
  | .id => inferInstanceAs (DecidableEq MessageId)
  | .status => inferInstanceAs (DecidableEq Status)
  | .texts => inferInstanceAs (DecidableEq (List String))

/-- A named place in a record, with the value that it takes where it is left out. -/
structure Field where
  name : String
  type : FieldType
  absent : Option type.Value := none
deriving DecidableEq

def FieldValues : List Field → Type
  | [] => Unit
  | field :: fields => field.type.Value × FieldValues fields

instance FieldValues.decidableEq : (fields : List Field) → DecidableEq (FieldValues fields)
  | [] => inferInstanceAs (DecidableEq Unit)
  | field :: fields =>
    have := FieldValues.decidableEq fields
    inferInstanceAs (DecidableEq (field.type.Value × FieldValues fields))

structure Record where
  name : String
  fields : List Field
deriving DecidableEq

def Record.Value (record : Record) : Type := FieldValues record.fields

instance (record : Record) : DecidableEq record.Value := FieldValues.decidableEq record.fields

inductive Shape where
  | unit
  | plain (t : FieldType)
  | table
  | record (r : Record)
  | records (r : Record)

def Shape.Value : Shape → Type
  | unit => Unit
  | plain t => t.Value
  | table => Table
  | record r => r.Value
  | records r => List r.Value

instance : (shape : Shape) → DecidableEq shape.Value
  | .unit => inferInstanceAs (DecidableEq Unit)
  | .plain t => inferInstanceAs (DecidableEq t.Value)
  | .table => inferInstanceAs (DecidableEq Table)
  | .record r => inferInstanceAs (DecidableEq r.Value)
  | .records r => inferInstanceAs (DecidableEq (List r.Value))

end Fleetwire.MessagePack
