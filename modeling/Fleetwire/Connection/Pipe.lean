import Fleetwire.Frame.Buffer

namespace Fleetwire

structure Pipe where
  capacity : Nat
  sent : Bytes := []
  readCount : Nat := 0
  ended : Bool := false
  broken : Bool := false
deriving DecidableEq, Repr

namespace Pipe

def waiting (pipe : Pipe) : Bytes := pipe.sent.drop pipe.readCount

def room (pipe : Pipe) : Nat := pipe.capacity - pipe.waiting.length

def write (pipe : Pipe) (bytes : Bytes) : Pipe := { pipe with sent := pipe.sent ++ bytes }

def skip (pipe : Pipe) (count : Nat) : Pipe := { pipe with readCount := pipe.readCount + count }

end Pipe

/-- The two pipes of a connection, as its server sees them. A socket may fail after a number of bytes. -/
structure Socket where
  incoming : Pipe
  outgoing : Pipe
  readLimit : Option Nat := none
  writeLimit : Option Nat := none
deriving DecidableEq, Repr

namespace Socket

def ofCapacity (capacity : Nat) (readLimit writeLimit : Option Nat) : Socket where
  incoming := { capacity }
  outgoing := { capacity }
  readLimit := readLimit
  writeLimit := writeLimit

def within (limit : Option Nat) (used wanted : Nat) : Option Nat :=
  match limit with
  | none => some wanted
  | some limit => if limit ≤ used then none else some (min wanted (limit - used))

def arrival (socket : Socket) : Arrival :=
  let waiting := socket.incoming.waiting
  match within socket.readLimit socket.incoming.readCount waiting.length with
  | none => .fault "read failed"
  | some 0 => if socket.incoming.ended then .bytes [] else .notReady
  | some count => .bytes (waiting.take count)

def accepts (socket : Socket) (wanted : Nat) : Except String Nat :=
  match within socket.writeLimit socket.outgoing.sent.length wanted with
  | none => .error "write failed"
  | some count => if socket.outgoing.broken then .error "broken pipe"
    else .ok (min count socket.outgoing.room)

def skip (socket : Socket) (count : Nat) : Socket :=
  { socket with incoming := socket.incoming.skip count }

def write (socket : Socket) (bytes : Bytes) : Socket :=
  { socket with outgoing := socket.outgoing.write bytes }

def drop (socket : Socket) : Socket :=
  { socket with
    incoming := { socket.incoming with broken := true }
    outgoing := { socket.outgoing with ended := true } }

def abandon (socket : Socket) : Socket :=
  { socket with
    incoming := { socket.incoming with ended := true }
    outgoing := { socket.outgoing with broken := true } }

end Socket

end Fleetwire
