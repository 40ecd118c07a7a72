import Fleetwire.MessagePack.Wire
import Fleetwire.Message.Kind
import Fleetwire.StreamError

namespace Fleetwire

open MessagePack

def unspecifiedFailure : String := "remote operation failed without an error message"

structure Message where
  id : MessageId
  kind : MessageKind
  status : Status
  payload : Bytes
  error : String
deriving DecidableEq, Repr

namespace Message

def emptyPayload : Bytes := [Marker.null.byte]

def request (id : MessageId) (kind : MessageKind) (payload : Bytes) : Message :=
  { id, kind, status := .success, payload, error := "" }

def reply (message : Message) (payload : Bytes) : Message :=
  { message with status := .success, payload, error := "" }

def failure (message : Message) (error : String) : Message :=
  { message with
    status := .failure
    payload := emptyPayload
    error := if error.isEmpty then unspecifiedFailure else error }

def isFailure (message : Message) : Bool := message.status = .failure

/-- The error text, made up for a failure that came without one. -/
def errorText (message : Message) : String :=
  if message.isFailure ∧ message.error.isEmpty then unspecifiedFailure else message.error

def result (message : Message) : Except (MessageKind × String) Bytes :=
  if message.isFailure then .error (message.kind, message.errorText) else .ok message.payload

def display (message : Message) : String :=
  s!"id={message.id.display} type={message.kind.display} status={message.status.name} " ++
    s!"payload={message.payload.length}B" ++
    if message.error.isEmpty then "" else " error=" ++ Text.quote message.error

def layout : Record where
  name := "Message"
  fields := [
    { name := "id", type := .id },
    { name := "kind", type := .int .u16 },
    { name := "status", type := .status },
    { name := "payload", type := .bytes },
    { name := "error", type := .text }]

def kindValue (kind : MessageKind) : IntType.u16.Value :=
  ⟨kind.code.toNat, by
    have := kind.code.toNat_lt
    simp only [IntType.least, IntType.greatest]
    omega⟩

def fields (message : Message) : layout.Value :=
  (message.id, kindValue message.kind, message.status, message.payload, message.error, ())

/-- A code with a kind of its own never gives an unnamed kind. -/
def ofFields : layout.Value → Message
  | (id, kind, status, payload, error, ()) =>
    { id, kind := .ofCode (UInt16.ofNat kind.val.toNat), status, payload, error }

def encode (message : Message) : Bytes := (Shape.record layout).encode message.fields

/-- Reads a message; what follows it is not looked at. -/
def decode (bytes : Bytes) : Except StreamError Message :=
  match (Shape.record layout).decode bytes with
  | .ok fields => .ok (ofFields fields)
  | .error e => .error (.serialization s!"MessagePack decode error: {e.message}")

def bind (message : Message) (shape : Shape) : Except StreamError shape.Value :=
  match shape.decode message.payload with
  | .ok value => .ok value
  | .error e => .error (.payloadDecode message.kind e.message)

end Message

end Fleetwire
