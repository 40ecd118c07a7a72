import Fleetwire.System.Accepting
import Fleetwire.System.Handling
import Fleetwire.System.Operating
import Fleetwire.System.Supervising

namespace Fleetwire

namespace System

/-- All outcomes of one action of a task. There are none while the task has to wait, or is over. -/
def next (s : System) (t : TaskId) : List System :=
  match s.tasks[t]? with
  | none => []
  | some (.accept c phase) =>
    (phase.next s c t).map fun (phase, s) => s.setTask t (.accept c phase)
  | some (.supervise c phase) =>
    (phase.next s c t).map fun (phase, s) => s.setTask t (.supervise c phase)
  | some (.handle c job phase) =>
    (phase.next s c t job).map fun (phase, s) => s.setTask t (.handle c job phase)
  | some (.operate c phase) =>
    (phase.next s c t).map fun (phase, s) => s.setTask t (.operate c phase)
  | some (.listen phase) => (phase.next s).map fun (phase, s) => s.setTask t (.listen phase)

inductive Event where
  | arrive (addr : Endpoint) (settings : Settings) (socket : Socket)
  | takeOver (addr : Endpoint) (settings : Settings) (socket : Socket) (belongs : Bool)
  | operate (c : ConnectionId) (operation : Operating)
  | abort (t : TaskId)
  | bind (c : ConnectionId) (kind : MessageKind) (handler : Handler)
  | release (count : Nat)
  | elapse (nanoseconds : Nat)
  | halt
  | stop
  | unregister (identity : String)
  | peerWrites (c : ConnectionId) (bytes : Bytes)
  | peerEnds (c : ConnectionId)
  | peerReads (c : ConnectionId) (count : Nat)
  | peerLeaves (c : ConnectionId)

def changeSocket (s : System) (c : ConnectionId) (f : Socket → Socket) : System :=
  s.update c fun x => { x with socket := f x.socket }

def abort (s : System) (t : TaskId) : System :=
  match s.tasks[t]? with
  | some (.operate c (.finished result)) => s.setTask t (.operate c (.finished result))
  | some (.operate c operation) => (operation.abort s c t).setTask t (.operate c .aborted)
  | _ => s

def react (s : System) : Event → System
  | .arrive addr settings socket => { s with arrivals := s.arrivals ++ [(addr, settings, socket)] }
  | .takeOver addr settings socket belongs => (s.takeOver? addr settings socket belongs).getD s
  | .operate c operation => s.spawn (.operate c operation)
  | .abort t => s.abort t
  | .bind c kind handler => s.update c fun x => { x with router := x.router.bind kind handler }
  | .release count => { s with gate := s.gate.release count }
  | .elapse nanoseconds => { s with now := s.now + nanoseconds }
  | .halt => s.haltAll
  | .stop => { s with stopping := true }
  | .unregister identity => { s with directory := (s.directory.remove identity).2 }
  | .peerWrites c bytes => s.changeSocket c fun socket =>
    { socket with incoming := socket.incoming.write (bytes.take socket.incoming.room) }
  | .peerEnds c => s.changeSocket c fun socket =>
    { socket with incoming := { socket.incoming with ended := true } }
  | .peerReads c count => s.changeSocket c fun socket =>
    { socket with outgoing := socket.outgoing.skip (min count socket.outgoing.waiting.length) }
  | .peerLeaves c => s.changeSocket c Socket.abandon

/-- One step, where only certain events come from outside. -/
inductive Step (allowed : System → Event → Prop) (s : System) : System → Prop where
  | act {s' : System} (t : TaskId) (h : s' ∈ s.next t) : Step allowed s s'
  | react (event : Event) (h : allowed s event) : Step allowed s (s.react event)

structure Initial (s : System) : Prop where
  records : s.records = {}
  directory : s.directory = {}
  connections : s.connections = []
  reports : s.reports = []
  tasks : ∀ task ∈ s.tasks, task = .listen .accepting

/-- The states of a run of a server, the latest first. -/
inductive Run (allowed : System → Event → Prop) : List System → Prop where
  | start {s : System} (h : s.Initial) : Run allowed [s]
  | step {s s' : System} {past : List System} (h : Run allowed (s :: past))
    (h' : Step allowed s s') : Run allowed (s' :: s :: past)

def serves (s : System) (c : ConnectionId) : Bool := (s.connections[c]?).any Connection.supervised

/-- What happens to a server whose directory is its own. Whoever begins an operation has the connection
from a handler, from the directory or from its admission, so the connection is served by then. -/
def Ordinary (s : System) : Event → Prop
  | .operate c operation => s.serves c ∧ operation.isNew
  | .unregister _ => False
  | _ => True

end System

def Task.due? : Task → Option Nat
  | .accept _ (.handshake call) | .operate _ (.calling _ call)
  | .handle _ _ (.acting _ (.relaying call)) =>
    match call.phase with
    | .send _ _ deadline _ | .wait _ _ deadline => some deadline
    | _ => none
  | .accept _ (.marking _ errand) | .accept _ (.announcing _ errand)
  | .supervise _ (.marking _ _ errand) | .supervise _ (.announcing _ _ errand)
  | .handle _ _ (.acting _ (.recording _ errand)) | .handle _ _ (.acting _ (.reporting errand)) =>
    some errand.due
  | _ => none

end Fleetwire
