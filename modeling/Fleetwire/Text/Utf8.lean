import Fleetwire.Bytes

namespace Fleetwire.Utf8

def encode (text : String) : Bytes := text.toByteArray.data.toList

def decode? (bytes : Bytes) : Option String := String.fromUTF8? ⟨bytes.toArray⟩

theorem decode?_encode (text : String) : decode? (encode text) = some text := by
  rw [decode?, encode, Array.toArray_toList]
  exact dif_pos text.isValidUTF8

theorem encode_of_decode? {bytes : Bytes} {text : String} (h : decode? bytes = some text) :
    encode text = bytes := by
  unfold decode? String.fromUTF8? at h
  split at h
  · obtain rfl := Option.some.inj h
    simp [encode, String.fromUTF8]
  · cases h

/-- Where bytes stop being text: after `index` good bytes come `length` bytes that no text contains,
or, without a length, an unfinished character that ends the bytes. -/
structure Fault where
  index : Nat
  length : Option Nat
deriving DecidableEq, Repr

def Fault.message : Fault → String
  | ⟨index, some length⟩ => s!"invalid utf-8 sequence of {length} bytes from index {index}"
  | ⟨index, none⟩ => s!"incomplete utf-8 byte sequence from index {index}"

/-- Trailing bytes of a character, and the bounds on the first of them, by its leading byte. -/
def trailing (lead : UInt8) : Option (Nat × UInt8 × UInt8) :=
  if lead < 0xC2 then none
  else if lead ≤ 0xDF then some (1, 0x80, 0xBF)
  else if lead = 0xE0 then some (2, 0xA0, 0xBF)
  else if lead = 0xED then some (2, 0x80, 0x9F)
  else if lead ≤ 0xEF then some (2, 0x80, 0xBF)
  else if lead = 0xF0 then some (3, 0x90, 0xBF)
  else if lead ≤ 0xF3 then some (3, 0x80, 0xBF)
  else if lead = 0xF4 then some (3, 0x80, 0x8F)
  else none

def tail (owed : Nat) (low high : UInt8) : Bytes → Nat × Bool
  | [] => (0, false)
  | b :: rest =>
    match owed with
    | 0 => (0, false)
    | owed + 1 =>
      if low ≤ b ∧ b ≤ high then
        let (n, stopped) := tail owed 0x80 0xBF rest
        (n + 1, stopped)
      else (0, true)

def faultFrom (index : Nat) : Bytes → Option Fault
  | [] => none
  | lead :: rest =>
    if lead < 0x80 then faultFrom (index + 1) rest
    else
      match trailing lead with
      | none => some ⟨index, some 1⟩
      | some (owed, low, high) =>
        let (n, stopped) := tail owed low high rest
        if n = owed then faultFrom (index + 1 + n) (rest.drop n)
        else if stopped then some ⟨index, some (n + 1)⟩
        else some ⟨index, none⟩
termination_by bytes => bytes.length
decreasing_by all_goals simp only [List.length_drop, List.length_cons]; omega

def fault (bytes : Bytes) : Fault := (faultFrom 0 bytes).getD ⟨bytes.length, none⟩

def decodeLossy (bytes : Bytes) : String :=
  match faultFrom 0 bytes with
  | none => (decode? bytes).getD ""
  | some ⟨index, length⟩ =>
    let good := (decode? (bytes.take index)).getD ""
    match length with
    | none => good ++ "\uFFFD"
    | some length =>
      if _h : length = 0 ∨ bytes.length = 0 then good ++ "\uFFFD"
      else good ++ "\uFFFD" ++ decodeLossy (bytes.drop (index + length))
termination_by bytes.length
decreasing_by simp only [List.length_drop]; omega

end Fleetwire.Utf8
