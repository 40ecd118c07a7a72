import Fleetwire.Schedule
import Fleetwire.System.Step

namespace Fleetwire

structure Peer where
  name : String
  acceptance : TaskId
  reading : Bool := true
  left : Bool := false
  outbox : Bytes := []
  ending : Bool := false
  inbox : FrameBuffer := { limit := Frame.defaultLimit }
  sawEnd : Bool := false
  requests : List Message := []
  received : List Message := []
deriving DecidableEq, Repr

inductive Actor where
  | task (t : TaskId)
  | writer (c : ConnectionId)
  | reader (c : ConnectionId)
deriving DecidableEq, Repr

structure Session where
  system : System
  settings : Settings
  peers : List Peer := []
  names : List (String × TaskId) := []
  awaited : List TaskId := []
  /-- The peers that saw the end of their stream since the last order, each with the bytes of a frame
  that was not complete. -/
  ends : List (String × Nat) := []

namespace Session

def updatePeer (s : Session) (c : ConnectionId) (f : Peer → Peer) : Session :=
  { s with peers := s.peers.modify c f }

def firstId : Nat := 0x10000000000

def isOwn (s : Session) (id : MessageId) : Bool :=
  match id.freshNumber? with
  | some n => firstId ≤ n ∧ n < s.system.nextId
  | none => false

def note (s : Session) (c : ConnectionId) (message : Message) : Session :=
  s.updatePeer c fun peer =>
    { peer with
      received := peer.received ++ [message]
      requests :=
        if s.isOwn message.id && !(peer.requests.any fun m => m.id = message.id) then
          peer.requests ++ [message]
        else peer.requests }

def write (s : Session) (c : ConnectionId) (peer : Peer) (pipe : Pipe) : Option Session :=
  if peer.left || pipe.ended then none
  else if peer.outbox.isEmpty then
    if peer.ending then some { s with system := s.system.react (.peerEnds c) } else none
  else if pipe.broken then some (s.updatePeer c fun peer => { peer with outbox := [] })
  else if pipe.room = 0 then none
  else
    let s := { s with system := s.system.react (.peerWrites c peer.outbox) }
    some (s.updatePeer c fun peer => { peer with outbox := peer.outbox.drop pipe.room })

def read (s : Session) (c : ConnectionId) (peer : Peer) (pipe : Pipe) : Option Session :=
  if peer.left || !peer.reading || peer.sawEnd then none
  else
    match peer.inbox.next? with
    | .ok (some (payload, inbox)) =>
      let s := s.updatePeer c fun peer => { peer with inbox }
      match Message.decode payload with
      | .ok message => some (s.note c message)
      | .error _ => some s
    | _ =>
      let waiting := pipe.waiting
      if !waiting.isEmpty then
        let s := { s with system := s.system.react (.peerReads c waiting.length) }
        some (s.updatePeer c fun peer => { peer with inbox := peer.inbox.extend waiting })
      else if pipe.ended then
        let s := s.updatePeer c fun peer => { peer with sawEnd := true }
        some { s with ends := s.ends ++ [(peer.name, peer.inbox.held.length)] }
      else none

def step (s : Session) : Actor → Option Session
  | .task t =>
    match s.system.next t with
    | [] => none
    | system :: _ => some { s with system }
  | .writer c => do
    s.write c (← s.peers[c]?) (← s.system.connections[c]?).socket.incoming
  | .reader c => do
    s.read c (← s.peers[c]?) (← s.system.connections[c]?).socket.outgoing

def machine : Machine Session Actor where
  step := step
  tasks s :=
    (List.range s.system.tasks.length).map .task ++
      (List.range s.peers.length).flatMap fun c => [.writer c, .reader c]

inductive Order where
  | nothing
  | connect (name : String) (addr : Endpoint) (settings : Option Settings) (socket : Socket)
    (belongs : Bool)
  | operate (name : String) (task : String) (operation : Settings → Operating)
  | abort (task : String)
  | bind (name : String) (kind : MessageKind) (handler : Handler)
  | release (count : Nat)
  | advance (milliseconds : Nat)
  | halt
  | stop
  | unregister (identity : String)
  | presence (identity : String)
  | file (identity path : String)
  | inspect (name : String)
  | peerWrites (name : String) (bytes : Bytes)
  | peerAnswers (name : String) (numbers : List Nat) (answer : Message → Message)
  | peerFinishes (name : String) (number : Nat) (answer : Message → Message) (more : Bytes)
  | peerEnds (name : String)
  | peerLeaves (name : String)
  | peerPauses (name : String)
  | peerResumes (name : String)

inductive Answer where
  | nothing
  | done
  | noAgent
  | noRequest
  | running (value : Option Bool)
  | addr (addr : Option Endpoint)
  | presence (presence : Option Presence)
  | file (file : Option ConfigFile)
  | text (text : Option String)

def connection? (s : Session) (name : String) : Option ConnectionId :=
  ((List.range s.peers.length).filter fun c =>
    (s.peers[c]?.map Peer.name) = some name).getLast?

def admission? (s : Session) (peer : Peer) : Option Announcement :=
  match s.system.tasks[peer.acceptance]? with
  | some (.accept _ (.finished (.ok announced))) => some announced
  | _ => none

def agent? (s : Session) (name : String) : Option ConnectionId := do
  let c ← s.connection? name
  let _ ← s.admission? (← s.peers[c]?)
  return c

def frame (message : Message) : Bytes := (Frame.encode message.encode).toOption.getD []

def peer (s : Session) (name : String) (f : Peer → Peer) : Session :=
  match s.connection? name with
  | some c => s.updatePeer c f
  | none => s

def requests? (s : Session) (name : String) (numbers : List Nat) : Option (List Message) := do
  let peer ← s.peers[← s.connection? name]?
  numbers.mapM fun number => if number = 0 then none else peer.requests[number - 1]?

def obey (s : Session) : Order → Answer × Session
  | .nothing => (.nothing, s)
  | .connect name addr settings socket belongs =>
    match s.system.takeOver? addr (settings.getD s.settings) socket belongs with
    | none => (.nothing, s)
    | some system =>
      let acceptance := s.system.tasks.length
      (.nothing, { s with
        system
        peers := s.peers ++ [{ name, acceptance }]
        names := ("accept " ++ name, acceptance) :: s.names
        awaited := acceptance :: s.awaited })
  | .operate name task operation =>
    match s.agent? name with
    | none => (.noAgent, s)
    | some c =>
      let settings := ((s.system.connections[c]?).map Connection.settings).getD s.settings
      let t := s.system.tasks.length
      (.nothing, { s with
        system := s.system.react (.operate c (operation settings))
        names := (task, t) :: s.names
        awaited := t :: s.awaited })
  | .abort task =>
    match s.names.lookup task with
    | none => (.running none, s)
    | some t => (.running (some (s.awaited.contains t)), { s with
      system := s.system.react (.abort t)
      awaited := s.awaited.filter fun other => other ≠ t })
  | .bind name kind handler =>
    match s.agent? name with
    | none => (.noAgent, s)
    | some c => (.nothing, { s with system := s.system.react (.bind c kind handler) })
  | .release count => (.nothing, { s with system := s.system.react (.release count) })
  | .advance milliseconds =>
    (.nothing, { s with system := s.system.react (.elapse (milliseconds * 1_000_000)) })
  | .halt => (.nothing, { s with system := s.system.react .halt })
  | .stop => (.nothing, { s with system := s.system.react .stop })
  | .unregister identity =>
    let holder := (s.system.directory.get? identity).bind fun c => s.system.connections[c]?
    (.addr (holder.map Connection.addr), { s with system := s.system.react (.unregister identity) })
  | .presence identity => (.presence (s.system.records.presence? identity), s)
  | .file identity path => (.file (s.system.records.file? identity path), s)
  | .inspect name =>
    let connection := (s.agent? name).bind fun c => s.system.connections[c]?
    (.text (connection.map fun connection => connection.inspect "<conn>"), s)
  | .peerWrites name bytes =>
    (.nothing, s.peer name fun peer => { peer with outbox := peer.outbox ++ bytes })
  | .peerAnswers name numbers answer =>
    match s.requests? name numbers with
    | none => (.noRequest, s)
    | some requests =>
      let bytes := requests.flatMap fun request => frame (answer request)
      (.nothing, s.peer name fun peer => { peer with outbox := peer.outbox ++ bytes })
  | .peerFinishes name number answer more =>
    match s.requests? name [number] with
    | none => (.noRequest, s)
    | some requests =>
      let bytes := requests.flatMap (fun request => frame (answer request)) ++ more
      (.done, s.peer name fun peer => { peer with outbox := peer.outbox ++ bytes, ending := true })
  | .peerEnds name => (.nothing, s.peer name fun peer => { peer with ending := true })
  | .peerLeaves name =>
    match s.connection? name with
    | none => (.nothing, s)
    | some c => (.nothing,
      { s with system := s.system.react (.peerLeaves c) }.updatePeer c fun peer =>
        { peer with left := true })
  | .peerPauses name => (.nothing, s.peer name fun peer => { peer with reading := false })
  | .peerResumes name => (.nothing, s.peer name fun peer => { peer with reading := true })

inductive Outcome where
  | admitted (announced : Announcement) (addr : Endpoint) (callTimeout : Duration)
  | reply (reply : Reply)
  | failed (error : LinkError)

def outcome? (s : Session) (t : TaskId) : Option Outcome :=
  match s.system.tasks[t]? with
  | some (.accept c (.finished (.ok announced))) => do
    let connection ← s.system.connections[c]?
    some (.admitted announced connection.addr connection.settings.callTimeout)
  | some (.accept _ (.finished (.error error))) => some (.failed error)
  | some (.operate _ (.finished (.ok reply))) => some (.reply reply)
  | some (.operate _ (.finished (.error error))) => some (.failed error)
  | some (.listen .finished) => some (.reply .nothing)
  | _ => none

/-- A message as the peer sees it; an id of the server's own goes by its number. -/
structure Seen where
  message : Message
  number : Option Nat

def seen (peer : Peer) (message : Message) : Seen :=
  let index := peer.requests.findIdx? fun m => m.id = message.id
  { message, number := index.map (· + 1) }

structure Standing where
  name : String
  stage : Stage
  closed : Bool
  pendingCalls : Nat
  alive : Bool

def standings (s : Session) : List Standing :=
  (List.range s.peers.length).filterMap fun c => do
    let peer ← s.peers[c]?
    let connection ← s.system.connections[c]?
    let _ ← s.admission? peer
    some {
      name := peer.name
      stage := connection.stage
      closed := connection.closed
      pendingCalls := connection.router.pendingCount
      alive := connection.heartbeat.isSome }

def directory (s : Session) : List (String × Endpoint) :=
  s.system.directory.entries.entries.filterMap fun (identity, c) =>
    s.system.connections[c]?.map fun connection => (identity, connection.addr)

structure Account where
  answer : Answer
  wire : List (String × List Seen)
  ends : List (String × Nat)
  outcomes : List (String × Outcome)
  reports : List Report
  sightings : List (String × Sighting)
  standings : List Standing
  directory : List (String × Endpoint)
  online : List String
  logs : List LogLine

/-- The actors that go on first after an order: those at the gate in the order in which they came to it,
and those whose time has come in the order of their deadlines. -/
def queue (s : Session) : List Actor :=
  let atGate := (s.system.gate.line.members.take s.system.gate.passes).map Actor.task
  let due (actor : Actor) : Nat := match actor with
    | .task t => ((s.system.tasks[t]?.bind Task.due?).getD 0)
    | _ => 0
  let others := (machine.ready s).filter fun actor => !atGate.contains actor
  atGate ++ others.mergeSort fun a b => due a ≤ due b

def account (s : Session) (answer : Answer) : Account where
  answer := answer
  wire := (s.peers.filter fun peer => !peer.received.isEmpty).map fun peer =>
    (peer.name, peer.received.map (seen peer))
  ends := s.ends.mergeSort fun a b => a.1 ≤ b.1
  outcomes := ((s.names.filter fun (_, t) => s.awaited.contains t).filterMap fun (name, t) =>
    (s.outcome? t).map fun outcome => (name, outcome)).mergeSort fun a b => a.1 ≤ b.1
  reports := (s.system.reports.map Prod.snd).mergeSort fun a b => a.identity ≤ b.identity
  sightings := (s.system.sightings.map fun sighting =>
    (((s.peers[sighting.connection]?).map Peer.name).getD "", sighting)).mergeSort
      fun a b => a.1 ≤ b.1
  standings := s.standings
  directory := s.directory
  online := s.system.records.online
  logs := s.system.logs.mergeSort LogLine.addrLE

def clear (s : Session) : Session :=
  { s with
    ends := []
    peers := s.peers.map fun peer => { peer with received := [] }
    awaited := s.awaited.filter fun t => (s.outcome? t).isNone
    system := { s.system with reports := [], logs := [], sightings := [] } }

def perform (s : Session) (order : Order) : Account × Session :=
  let (answer, s) := s.clear.obey order
  let s := machine.run Machine.patience s s.queue
  (s.account answer, s)

def start (settings : Settings) (collaborators : Collaborators) : Session where
  system := { collaborators, nextId := firstId }
  settings := settings

def listen (settings : Settings) : Except LinkError Session := do
  settings.validate
  let s := start settings {}
  return { s with system := s.system.spawn (.listen .accepting), names := [("serve", 0)], awaited := [0] }

end Session

end Fleetwire
