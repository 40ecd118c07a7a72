import Fleetwire.Frame

namespace Fleetwire

structure FrameBuffer where
  limit : Nat
  held : Bytes := []
deriving DecidableEq, Repr

/-- What one read of a stream brings. No bytes at all mean its end. -/
inductive Arrival where
  | bytes (chunk : Bytes)
  | fault (reason : String)
  | notReady
deriving DecidableEq, Repr

namespace FrameBuffer

def extend (buffer : FrameBuffer) (chunk : Bytes) : FrameBuffer :=
  { buffer with held := buffer.held ++ chunk }

def next? (buffer : FrameBuffer) : Except StreamError (Option (Bytes × FrameBuffer)) :=
  match Frame.decode? buffer.limit buffer.held with
  | .error e => .error e
  | .ok none => .ok none
  | .ok (some (payload, rest)) => .ok (some (payload, { buffer with held := rest }))

def atEnd (buffer : FrameBuffer) : Except StreamError (Option Bytes) :=
  if buffer.held.isEmpty then .ok none else .error (.truncatedFrame buffer.held.length)

/-- Reads until a payload is complete, the stream ends or something fails. Payloads already held are
handed out before the stream is touched. -/
def read (buffer : FrameBuffer) :
    List Arrival → Except StreamError (Option Bytes) × FrameBuffer × List Arrival
  | [] =>
    match buffer.next? with
    | .error e => (.error e, buffer, [])
    | .ok (some (payload, buffer)) => (.ok (some payload), buffer, [])
    | .ok none => (buffer.atEnd, buffer, [])
  | arrival :: rest =>
    match buffer.next? with
    | .error e => (.error e, buffer, arrival :: rest)
    | .ok (some (payload, buffer)) => (.ok (some payload), buffer, arrival :: rest)
    | .ok none =>
      match arrival with
      | .bytes [] => (buffer.atEnd, buffer, rest)
      | .bytes chunk => read (buffer.extend chunk) rest
      | .fault reason => (.error (.io reason), buffer, rest)
      | .notReady => read buffer rest

end FrameBuffer

namespace Frame

def encodeWithin (limit : Nat) (payload : Bytes) : Except StreamError Bytes :=
  if payload.length > limit then .error (.frameTooLarge payload.length limit) else encode payload

end Frame

/-- A sink that takes at most `piece` bytes at a time and `room` in all. Then it takes nothing more:
silently if `silent`, otherwise with an error. -/
structure Sink where
  piece : Option Nat := none
  room : Option Nat := none
  silent : Bool := false
  written : Bytes := []
  flushes : Nat := 0
deriving DecidableEq, Repr

namespace Sink

def accepts (sink : Sink) (taken wanted : Nat) : Nat :=
  let byPiece := match sink.piece with
    | none => wanted
    | some piece => min piece wanted
  match sink.room with
  | none => byPiece
  | some room => min byPiece (room - taken)

def isFull (sink : Sink) (taken : Nat) : Bool :=
  match sink.room with
  | none => false
  | some room => room ≤ taken

/-- How many bytes the sink has taken once `wanted` more were offered piece by piece, and why they are
not all of them. -/
def offer (sink : Sink) (taken wanted : Nat) : Except StreamError Unit × Nat :=
  if wanted = 0 then (.ok (), taken)
  else if sink.isFull taken && !sink.silent then (.error (.io "disk full"), taken)
  else
    let n := sink.accepts taken wanted
    if n = 0 then (.error (.io "write zero"), taken) else offer sink (taken + n) (wanted - n)
termination_by wanted

def writeAll (sink : Sink) (bytes : Bytes) : Except StreamError Unit × Sink :=
  let before := sink.written.length
  let (result, taken) := sink.offer before bytes.length
  (result, { sink with written := sink.written ++ bytes.take (taken - before) })

def writeFrame (sink : Sink) (limit : Nat) (payload : Bytes) : Except StreamError Unit × Sink :=
  match Frame.encodeWithin limit payload with
  | .error e => (.error e, sink)
  | .ok frame =>
    match sink.writeAll frame with
    | (.ok (), sink) => (.ok (), { sink with flushes := sink.flushes + 1 })
    | (.error e, sink) => (.error e, sink)

end Sink

end Fleetwire
