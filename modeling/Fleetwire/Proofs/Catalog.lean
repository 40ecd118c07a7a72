import Fleetwire.Catalog
import Fleetwire.Proofs.Envelopes
import Fleetwire.Proofs.MessagePack.Canonical

namespace Fleetwire

open MessagePack

namespace Command

variable {command : Command}

theorem proper (member : command ∈ all) : command.request.Proper ∧ command.response.Proper := by
  have every : ∀ command ∈ all, command.request.Proper ∧ command.response.Proper := by decide +kernel
  exact every command member

theorem spared (member : command ∈ all) : command.request.Spared ∧ command.response.Spared := by
  have every : ∀ command ∈ all, command.request.Spared ∧ command.response.Spared := by decide +kernel
  exact every command member

end Command

namespace MessagePack

variable {shape : Shape} {value : shape.Value}

theorem Shape.decode_of_read {bytes rest : Bytes} (read : shape.wire.read depthLimit bytes = .ok (value, rest)) :
    shape.decode bytes = .ok value := by
  simp only [Shape.decode, read]

theorem Shape.exists_read_of_decode {bytes : Bytes} (decoded : shape.decode bytes = .ok value) :
    ∃ rest, shape.wire.read depthLimit bytes = .ok (value, rest) := by
  unfold Shape.decode at decoded
  split at decoded
  next rest read =>
    cases decoded
    exact ⟨rest, read⟩
  · cases decoded

theorem Shape.decode_encode_append (proper : shape.Proper) (fits : shape.Fits value) (rest : Bytes) :
    shape.decode (shape.encode value ++ rest) = .ok value :=
  decode_of_read (takes_read proper fits (by decide) rest)

theorem Shape.decode_cut (proper : shape.Proper) (fits : shape.Fits value) {part : Bytes}
    (begins : part <+: shape.encode value) (shorter : part ≠ shape.encode value) :
    ∃ error, shape.decode part = .error error := by
  obtain ⟨error, refused⟩ := (takes_read proper fits (by decide)).cut (steady_read shape depthLimit) begins shorter
  exact ⟨error, by simp only [Shape.decode, refused]⟩

end MessagePack

/-- A value of either payload of an operation, with texts, sequences and tables of fewer than 2³² bytes, elements and
entries, is read from everything that begins with what was written for it, and from no part of that which lacks the
end. -/
theorem Command.payload_round_trip {command : Command} (listed : command ∈ all) {shape : Shape}
    (side : shape = command.request ∨ shape = command.response) {value : shape.Value} (fits : shape.Fits value) :
    (∀ rest, shape.decode (shape.encode value ++ rest) = .ok value) ∧
    ∀ part, part <+: shape.encode value → part ≠ shape.encode value → ∃ error, shape.decode part = .error error := by
  have proper : shape.Proper := by
    rcases side with rfl | rfl
    · exact (Command.proper listed).1
    · exact (Command.proper listed).2
  exact ⟨Shape.decode_encode_append proper fits, fun part => Shape.decode_cut proper fits⟩

def oddDisk : Catalog.diskUsage.Value :=
  ("/dev/sda1", "/", "ext4", (⟨0xFFFFFFFFFFFFFFFF, by decide⟩ : IntType.u64.Value),
    (⟨0x100, by decide⟩ : IntType.u64.Value), (⟨0xFFF0000000000001⟩ : Binary64), ())

theorem Command.payload_round_trip_of_disks :
    getDiskUsage ∈ all ∧ getDiskUsage.response.Fits [oddDisk] ∧
    getDiskUsage.response.decode (getDiskUsage.response.encode [oddDisk] ++ [0xC1]) = .ok [oddDisk] ∧
    ∃ error, getDiskUsage.response.decode ((getDiskUsage.response.encode [oddDisk]).take 40) = .error error := by
  have listed : getDiskUsage ∈ all := by simp [all]
  have fits : getDiskUsage.response.Fits [oddDisk] := Shape.fits_of_length (by decide +kernel)
  have holds := payload_round_trip listed (.inr rfl) fits
  have shorter : (getDiskUsage.response.encode [oddDisk]).take 40 ≠ getDiskUsage.response.encode [oddDisk] := by
    decide +kernel
  exact ⟨listed, fits, holds.1 [0xC1], holds.2 _ (List.take_prefix ..) shorter⟩

structure Normalises {α ε : Type} (decode : Bytes → Except ε α) (encode : α → Bytes) : Prop where
  again : ∀ {bytes value}, decode bytes = .ok value → ∀ rest, decode (encode value ++ rest) = .ok value
  canonical : ∀ {bytes bytes' value value'}, decode bytes = .ok value → decode bytes' = .ok value' →
    (encode value = encode value' ↔ value = value')

theorem Normalises.of_again {α ε : Type} {decode : Bytes → Except ε α} {encode : α → Bytes}
    (again : ∀ {bytes value}, decode bytes = .ok value → ∀ rest, decode (encode value ++ rest) = .ok value) :
    Normalises decode encode := by
  refine ⟨again, fun accepted accepted' => ⟨fun same => ?_, congrArg encode⟩⟩
  have read := again accepted []
  rw [same, again accepted' []] at read
  exact (Except.ok.inj read).symm

theorem MessagePack.Shape.normalises {shape : Shape} (proper : shape.Proper) (spared : shape.Spared) :
    Normalises shape.decode shape.encode := by
  refine .of_again fun accepted rest => ?_
  obtain ⟨_, read⟩ := Shape.exists_read_of_decode accepted
  exact Shape.decode_encode_append proper ((Shape.fits_of_read spared depthLimit).holds read) rest

namespace Message

theorem exists_fields_of_decode {bytes : Bytes} {m : Message} (accepted : decode bytes = .ok m) :
    ∃ values, (Shape.record layout).decode bytes = .ok values ∧ m = ofFields values := by
  unfold decode at accepted
  split at accepted
  next values decoded =>
    cases accepted
    exact ⟨values, decoded, rfl⟩
  · cases accepted

theorem layout_spared : (Shape.record layout).Spared := by decide +kernel

theorem normalises : Normalises decode encode := by
  refine .of_again fun {bytes m} accepted rest => ?_
  obtain ⟨⟨id, kind, status, payload, error, ⟨⟩⟩, decoded, rfl⟩ := exists_fields_of_decode accepted
  obtain ⟨_, read⟩ := Shape.exists_read_of_decode decoded
  have fits : FieldValues.Fits layout.fields (id, kind, status, payload, error, ()) :=
    (Shape.fits_of_read layout_spared depthLimit).holds read
  obtain ⟨-, -, -, payloadFits, errorFits, -⟩ := fits
  have whole := decode_encode_append (m := ofFields (id, kind, status, payload, error, ())) payloadFits errorFits rest
  -- The kind was made of a code, so its own code leads to it again.
  simp only [ofFields, MessageKind.code_ofCode] at whole
  exact whole

end Message

/-- Whatever is accepted as a message, or as either payload of an operation, is read again from what is written for
it; and that is one string of bytes for all spellings that mean the same. -/
theorem decoding_normalises : Normalises Message.decode Message.encode ∧
    ∀ command ∈ Command.all, Normalises command.request.decode command.request.encode ∧
      Normalises command.response.decode command.response.encode :=
  ⟨Message.normalises, fun _ listed => ⟨Shape.normalises (Command.proper listed).1 (Command.spared listed).1,
    Shape.normalises (Command.proper listed).2 (Command.spared listed).2⟩⟩

/-- A failure by position, with its kind in eight bytes, its status by index in an entry of its own, its payload as a
sequence, its error as a binary, and a byte behind it. -/
def loosely : Bytes :=
  [0x95, 0xC4, 0x10] ++ List.replicate 16 0x5A ++ [0xCF, 0, 0, 0, 0, 0, 0, 0, 4] ++ [0x81, 0x01, 0xC0] ++
    [0x93, 0x01, 0xCC, 0x02, 0x03] ++ [0xC4, 0x02, 0x6E, 0x6F] ++ [0x85]

def failureSpelled : Message where
  id := ⟨List.replicate 16 0x5A, rfl⟩
  kind := .agentInfo
  status := .failure
  payload := [1, 2, 3]
  error := "no"

def looseDisk : Bytes :=
  [0xDC, 0x00, 0x01, 0x87, 0x05, 0x2A, 0x04, 0xCD, 0x00, 0x08, 0x03, 0x07, 0xA1, 0x78, 0x90,
    0x02, 0xA1, 0x66, 0x01, 0xC4, 0x01, 0x70, 0x00, 0xD9, 0x01, 0x64]

def diskSpelled : Catalog.diskUsage.Value :=
  ("d", "p", "f", (⟨7, by decide⟩ : IntType.u64.Value), (⟨8, by decide⟩ : IntType.u64.Value),
    (⟨0x4045000000000000⟩ : Binary64), ())

theorem decoding_normalises_loose_spellings :
    Message.decode loosely = .ok failureSpelled ∧ Message.decode failureSpelled.encode = .ok failureSpelled ∧
    Command.getDiskUsage ∈ Command.all ∧ Command.getDiskUsage.response.decode looseDisk = .ok [diskSpelled] ∧
    Command.getDiskUsage.response.decode (Command.getDiskUsage.response.encode [diskSpelled]) = .ok [diskSpelled] := by
  have message : Message.decode loosely = .ok failureSpelled := by decide +kernel
  have listed : Command.getDiskUsage ∈ Command.all := by simp [Command.all]
  have disk : Command.getDiskUsage.response.decode looseDisk = .ok [diskSpelled] := by decide +kernel
  obtain ⟨messages, payloads⟩ := decoding_normalises
  have again := messages.again message []
  have again' := (payloads _ listed).2.again disk []
  rw [List.append_nil] at again again'
  exact ⟨message, again, listed, disk, again'⟩

end Fleetwire
