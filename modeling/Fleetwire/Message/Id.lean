import Fleetwire.Bytes

namespace Fleetwire

structure MessageId where
  bytes : Bytes
  length_bytes : bytes.length = 16
deriving DecidableEq, Repr

namespace MessageId

def ofBytes? (bytes : Bytes) : Option MessageId :=
  if h : bytes.length = 16 then some ⟨bytes, h⟩ else none

theorem ofBytes?_bytes (id : MessageId) : ofBytes? id.bytes = some id := by
  simp [ofBytes?, id.length_bytes]

def display (id : MessageId) : String :=
  let part (first length : Nat) : String := Bytes.hex ((id.bytes.drop first).take length)
  String.intercalate "-" [part 0 4, part 4 2, part 6 2, part 8 2, part 10 6]

/-- The `n`-th fresh id. It carries the version and variant marks of a random one. -/
def fresh (n : Nat) : MessageId where
  bytes := Bytes.bigEndian 6 (n / 0x1000000000000) ++ [0x40, 0x00, 0x80, 0x00] ++ Bytes.bigEndian 6 n
  length_bytes := by simp [Bytes.length_bigEndian]

def freshNumber? (id : MessageId) : Option Nat :=
  let n := Bytes.toNat (id.bytes.take 6) * 0x1000000000000 + Bytes.toNat (id.bytes.drop 10)
  if fresh n = id then some n else none

def isRandom (id : MessageId) : Bool :=
  match id.bytes[6]?, id.bytes[8]? with
  | some version, some variant => version.toNat / 16 = 4 ∧ variant.toNat / 64 = 2
  | _, _ => false

theorem fresh_injective {m n : Nat} (hm : m < 0x1000000000000) (hn : n < 0x1000000000000)
    (h : fresh m = fresh n) : m = n := by
  have hb := congrArg MessageId.bytes h
  simp only [fresh] at hb
  have hl : ∀ k : Nat,
      (Bytes.bigEndian 6 (k / 0x1000000000000) ++ [0x40, 0x00, 0x80, 0x00]).length = 10 :=
    fun k => by simp [Bytes.length_bigEndian]
  have ht := (List.append_inj hb (by rw [hl, hl])).2
  have fits : Bytes.span 6 = 0x1000000000000 := rfl
  have := congrArg Bytes.toNat ht
  rwa [Bytes.toNat_bigEndian (by omega), Bytes.toNat_bigEndian (by omega)] at this

end MessageId

end Fleetwire
