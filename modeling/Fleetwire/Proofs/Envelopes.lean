import Fleetwire.Proofs.MessagePack.Shapes
import Fleetwire.Message

namespace Fleetwire.Message

open MessagePack Reader

variable {m : Message}

theorem layout_proper : (Shape.record layout).Proper := by decide +kernel

theorem fits_fields (payload : m.payload.length < lengthLimit) (error : TextFits m.error) :
    (Shape.record layout).Fits m.fields :=
  show FieldValues.Fits layout.fields m.fields from ⟨trivial, trivial, trivial, payload, error, trivial⟩

theorem takes_fields (payload : m.payload.length < lengthLimit) (error : TextFits m.error) :
    ((Shape.record layout).wire.read depthLimit).Takes (encode m) m.fields :=
  Shape.takes_read layout_proper (fits_fields payload error) (by decide)

theorem ofFields_fields (m : Message) : ofFields m.fields = { m with kind := .ofCode m.kind.code } := by
  simp [ofFields, fields, kindValue]

theorem ofCode_code_of_unnamed {kind : MessageKind}
    (unnamed : ∀ code, kind = .other code → ∀ named ∈ MessageKind.known, named.code ≠ code) :
    MessageKind.ofCode kind.code = kind := by
  cases kind with
  | other code =>
    have unknown := unnamed code rfl
    have none : (MessageKind.known.find? fun named => named.code = code) = none := by
      rw [List.find?_eq_none]
      intro named member
      simpa using unknown named member
    change (MessageKind.known.find? fun named => named.code = code).getD (.other code) = .other code
    rw [none, Option.getD_none]
  | _ => exact MessageKind.ofCode_code _ nofun

theorem decode_of_fields {bytes rest : Bytes} {values : layout.Value}
    (read : (Shape.record layout).wire.read depthLimit bytes = .ok (values, rest)) :
    decode bytes = .ok (ofFields values) := by
  simp only [decode, Shape.decode, read]

theorem decode_of_refused {bytes : Bytes} {error : DecodeError}
    (refused : (Shape.record layout).wire.read depthLimit bytes = .error error) :
    ∃ text, decode bytes = .error (.serialization text) := by
  refine ⟨s!"MessagePack decode error: {error.message}", ?_⟩
  simp only [decode, Shape.decode, refused]

theorem decode_encode_append (payload : m.payload.length < lengthLimit) (error : TextFits m.error) (rest : Bytes) :
    decode (encode m ++ rest) = .ok { m with kind := .ofCode m.kind.code } := by
  rw [decode_of_fields (takes_fields payload error rest), ofFields_fields]

theorem decode_cut (payload : m.payload.length < lengthLimit) (error : TextFits m.error) {part : Bytes}
    (begins : part <+: encode m) (shorter : part ≠ encode m) :
    ∃ text, decode part = .error (.serialization text) := by
  obtain ⟨_, refused⟩ := (takes_fields payload error).cut (Shape.steady_read _ _) begins shorter
  exact decode_of_refused refused

/-- A message whose payload and error text are shorter than 2³² bytes is read from everything that begins with what
was written for it, with the kind of its code, and from no part that lacks the end. -/
theorem envelope_round_trip (m : Message) (payload : m.payload.length < 0x100000000)
    (error : (Utf8.encode m.error).length < 0x100000000) :
    (∀ rest, decode (encode m ++ rest) = .ok { m with kind := .ofCode m.kind.code }) ∧
    ((∀ code, m.kind = .other code → ∀ named ∈ MessageKind.known, named.code ≠ code) →
      ∀ rest, decode (encode m ++ rest) = .ok m) ∧
    ∀ part, part <+: encode m → part ≠ encode m → ∃ text, decode part = .error (.serialization text) := by
  refine ⟨decode_encode_append payload error, fun unnamed rest => ?_, fun part => decode_cut payload error⟩
  rw [decode_encode_append payload error, ofCode_code_of_unnamed unnamed]

def heartbeatByCode : Message where
  id := ⟨List.replicate 16 0xA5, rfl⟩
  kind := .other 1
  status := .failure
  payload := emptyPayload
  error := "naïve"

theorem envelope_round_trip_of_code :
    heartbeatByCode.payload.length < 0x100000000 ∧ (Utf8.encode heartbeatByCode.error).length < 0x100000000 ∧
    decode (encode heartbeatByCode ++ [0x85]) = .ok { heartbeatByCode with kind := .heartbeat } ∧
    ∃ text, decode ((encode heartbeatByCode).take 1) = .error (.serialization text) := by
  have payload : heartbeatByCode.payload.length < 0x100000000 := by decide
  have error : (Utf8.encode heartbeatByCode.error).length < 0x100000000 := by decide +kernel
  have holds := envelope_round_trip heartbeatByCode payload error
  have shorter : (encode heartbeatByCode).take 1 ≠ encode heartbeatByCode := by decide +kernel
  exact ⟨payload, error, holds.1 [0x85], holds.2.2 _ (List.take_prefix ..) shorter⟩

end Fleetwire.Message
