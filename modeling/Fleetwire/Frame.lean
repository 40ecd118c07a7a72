import Fleetwire.StreamError

namespace Fleetwire.Frame

def lengthSize : Nat := 4

def maxLength : Nat := 0xFFFFFFFF

def defaultLimit : Nat := 64 * 1024 * 1024

def encode (payload : Bytes) : Except StreamError Bytes :=
  if payload.length > maxLength then .error (.frameTooLarge payload.length maxLength)
  else .ok (Bytes.bigEndian lengthSize payload.length ++ payload)

def announced? (buffer : Bytes) : Option Nat :=
  if buffer.length < lengthSize then none else some (Bytes.toNat (buffer.take lengthSize))

/-- The first payload of `buffer` and what follows its frame, or `none` while bytes are missing. A
length above `limit` means that reader and writer no longer agree on where frames start. -/
def decode? (limit : Nat) (buffer : Bytes) : Except StreamError (Option (Bytes × Bytes)) :=
  match announced? buffer with
  | none => .ok none
  | some length =>
    if length > limit then .error (.frameTooLarge length limit)
    else
      let body := buffer.drop lengthSize
      if body.length < length then .ok none
      else .ok (some (body.take length, body.drop length))

theorem announced?_encode {payload frame : Bytes} (h : encode payload = .ok frame) (rest : Bytes) :
    announced? (frame ++ rest) = some payload.length := by
  unfold encode at h
  split at h
  · cases h
  · rename_i hle
    have hlen := Bytes.length_bigEndian lengthSize payload.length
    obtain rfl := Except.ok.inj h
    have hlt : payload.length < Bytes.span lengthSize := by
      simp only [maxLength, lengthSize, Bytes.span] at hle ⊢; omega
    simp only [announced?, List.length_append, hlen]
    rw [if_neg (by omega), List.append_assoc, List.take_append_of_le_length (by omega),
      List.take_of_length_le (by omega), Bytes.toNat_bigEndian hlt]

theorem decode?_encode {payload frame : Bytes} {limit : Nat} (h : encode payload = .ok frame)
    (fits : payload.length ≤ limit) (rest : Bytes) :
    decode? limit (frame ++ rest) = .ok (some (payload, rest)) := by
  have hpeek := announced?_encode h rest
  unfold encode at h
  split at h
  · cases h
  · have hlen := Bytes.length_bigEndian lengthSize payload.length
    obtain rfl := Except.ok.inj h
    have hdrop : (Bytes.bigEndian lengthSize payload.length ++ payload ++ rest).drop lengthSize =
        payload ++ rest := by
      rw [List.append_assoc, List.drop_append_of_le_length (by omega),
        List.drop_of_length_le (by omega), List.nil_append]
    unfold decode?
    rw [hpeek]
    simp only [hdrop]
    rw [if_neg (by omega), if_neg (by simp)]
    simp

end Fleetwire.Frame
