import Fleetwire.System.Exchange

namespace Fleetwire

namespace Operating

def isNew : Operating → Bool
  | .calling _ call => call.phase = .register
  | .notifying _ _ => true
  | .sending _ phase => phase = .check
  | .closing phase => phase = .halt
  | .finished _ | .aborted => false

def result (kind : MessageKind) (shape : Option MessagePack.Shape) (response : Except LinkError Bytes) :
    Except LinkError Reply := do
  let payload ← response
  match shape with
  | none => return .payload payload
  | some shape => return .value shape (← Call.typed kind shape payload)

def next (s : System) (c : ConnectionId) (t : TaskId) : Operating → List (Operating × System)
  | .calling shape call =>
    (call.next s c t).map fun (progress, s) =>
      match progress with
      | .going phase => (.calling shape { call with phase }, s)
      | .ended response => (.finished (result call.kind shape response), s)
  | .notifying kind payload =>
    [(.sending (.request (.fresh s.nextId) kind payload) .check, { s with nextId := s.nextId + 1 })]
  | .sending message phase =>
    (phase.next s c t message).map fun (progress, s) =>
      match progress with
      | .going phase => (.sending message phase, s)
      | .ended result => (.finished (result.map fun () => .nothing), s)
  | .closing phase =>
    (phase.next s c).map fun (progress, s) =>
      match progress with
      | .going phase => (.closing phase, s)
      | .ended () => (.finished (.ok .nothing), s)
  | .finished _ | .aborted => []

def abort (s : System) (c : ConnectionId) (t : TaskId) : Operating → System
  | .calling _ call => call.abort s c t
  | .sending _ _ => s.update c fun x => { x with outbox := x.outbox.leave t }
  | _ => s

end Operating

namespace System

/-- Takes over a socket: a connection, its registration and its supervisor begin. A connection that
belongs to a server that is to be closed is to be closed as well. -/
def takeOver? (s : System) (addr : Endpoint) (settings : Settings) (socket : Socket) (belongs : Bool) :
    Option System := do
  let connection ← Connection.ofSocket? addr settings socket
  let connection := { connection with belongs, halted := belongs && s.halted }
  let c := s.connections.length
  let call : Call :=
    { kind := .agentInfo, payload := Message.emptyPayload, timeout := settings.handshakeTimeout }
  let s := { s with connections := s.connections ++ [connection] }
  return (s.spawn (.accept c (.handshake call))).spawn (.supervise c .spawned)

end System

namespace Listening

/-- One action of the listener. The registered connections are noted before all connections are told
to close, and are waited for one after the other. -/
def next (s : System) : Listening → List (Listening × System)
  | .accepting =>
    (if s.stopping then [(.snapshot, s)] else []) ++
      match s.arrivals with
      | [] => []
      | (addr, settings, socket) :: arrivals =>
        let s := { s with arrivals }
        [(.accepting, (s.takeOver? addr settings socket true).getD s)]
  | .snapshot => [(.halt s.directory.agents, s)]
  | .halt agents => [(.closing agents .halt, s.haltAll)]
  | .closing [] _ => [(.finished, s)]
  | .closing (agent :: agents) phase =>
    (phase.next s agent).map fun (progress, s) =>
      match progress with
      | .going phase => (.closing (agent :: agents) phase, s)
      | .ended () => (.closing agents .halt, s)
  | .finished => []

end Listening

end Fleetwire
