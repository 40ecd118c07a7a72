import Fleetwire.System.Exchange

namespace Fleetwire

namespace Supervising

def undecodable (connection : Connection) (error : StreamError) : LogLine :=
  ⟨.warn, s!"Dropping undecodable message: {error.message}", [connection.addrField]⟩

/-- Routes what a frame holds. A payload that is no message is passed over. -/
def receive (s : System) (c : ConnectionId) (connection : Connection) (payload : Bytes)
    (inbox : FrameBuffer) : System :=
  match Message.decode payload with
  | .error error =>
    let s := s.update c fun x => { x with inbox }
    { s with logs := s.logs ++ [undecodable connection error] }
  | .ok message =>
    let (fate, lines, router) := connection.router.route message
    let s := s.update c fun x => { x with inbox, router, routed := x.routed ++ [message] }
    let s := { s with logs := s.logs ++ lines }
    if fate = .handler then s.spawn (.handle c connection.router.admitted .admitted) else s

/-- Stops serving: the socket is hung up and the outbound queue is gone. -/
def leave (s : System) (c : ConnectionId) (departure : Departure) : Supervising × System :=
  (.leaving departure,
    s.update c fun x => { x with socket := x.socket.drop, outbox := x.outbox.close })

/-- What can be done about the inbound stream. Complete frames come before more bytes. -/
def inbound (s : System) (c : ConnectionId) (connection : Connection) :
    List (Supervising × System) :=
  match connection.inbox.next? with
  | .error error => [leave s c (.received (.error error))]
  | .ok (some (payload, inbox)) => [(.serving, receive s c connection payload inbox)]
  | .ok none =>
    match connection.socket.arrival with
    | .notReady => []
    | .fault reason => [leave s c (.received (.error (.io reason)))]
    | .bytes [] => [leave s c (.received (connection.inbox.atEnd.map fun _ => ()))]
    | .bytes chunk =>
      [(.serving, s.update c fun x =>
        { x with inbox := x.inbox.extend chunk, socket := x.socket.skip chunk.length })]

/-- What can be done about the outbound stream. A frame is written to its end before the next one. -/
def outbound (s : System) (c : ConnectionId) (connection : Connection) :
    List (Supervising × System) :=
  if connection.writing.isEmpty then
    match connection.outbox.take? with
    | none => []
    | some (envelope, outbox) =>
      match Frame.encodeWithin connection.settings.maxFrameSize envelope with
      | .error error => [leave (s.update c fun x => { x with outbox }) c (.unsent error)]
      | .ok frame => [(.serving, s.update c fun x => { x with outbox, writing := frame })]
  else
    match connection.socket.accepts connection.writing.length with
    | .error reason => [leave s c (.unsent (.io reason))]
    | .ok 0 => []
    | .ok count =>
      [(.serving, s.update c fun x =>
        { x with
          socket := x.socket.write (x.writing.take count)
          writing := x.writing.drop count })]

/-- All that a supervisor can do while it serves. -/
def serve (s : System) (c : ConnectionId) (connection : Connection) : List (Supervising × System) :=
  inbound s c connection ++ outbound s c connection ++
    (if connection.router.faulted then [leave s c .fault] else []) ++
    if connection.halted then [leave s c .halted] else []

def remark (connection : Connection) (departure : Departure) : Option LogLine :=
  let fields := [connection.addrField, connection.identityField]
  match departure with
  | .received (.ok ()) => some ⟨.warn, "Agent closed the connection", fields⟩
  | .received (.error error) => some ⟨.error, s!"Receive failed: {error.message}", fields⟩
  | .unsent error => some ⟨.error, s!"Send failed: {error.message}", fields⟩
  | .fault => some ⟨.error, "Handler fault, closing connection", fields⟩
  | .halted => none

def unregister (s : System) (c : ConnectionId) (failed : Nat) (identity : String) :
    Supervising × System :=
  let (authoritative, directory) := s.directory.removeIfHolder identity c
  let s := { s with directory }
  if authoritative then (.marking failed identity (s.errand c (.markOffline identity)), s)
  else (.releaseIdentity failed identity false, s)

def next (s : System) (c : ConnectionId) (t : TaskId) (phase : Supervising) :
    List (Supervising × System) :=
  match s.connections[c]? with
  | none => []
  | some connection =>
    match phase with
    | .spawned => [(.serving, s.update c fun x => { x with supervised := true })]
    | .serving => serve s c connection
    | .leaving departure =>
      [(.claim, { s with logs := s.logs ++ (remark connection departure).toList })]
    | .claim =>
      if connection.closed then [(.finished, s)]
      else [(.halt, s.update c fun x => { x with closed := true })]
    | .halt => [(.failAll, s.update c fun x => { x with halted := true })]
    | .failAll =>
      let (failed, router) := connection.router.failAll
      [(.queueLifecycle failed, s.update c fun x => { x with router })]
    | .queueLifecycle failed => [(.awaitLifecycle failed, s.queueLifecycle c t)]
    | .awaitLifecycle failed =>
      if connection.lifecycle.isHeldBy t then
        match connection.identity? with
        | none => [(.releaseLifecycle failed false, s)]
        | some identity => [(.awaitIdentity failed identity, s.queueIdentity identity t)]
      else []
    | .awaitIdentity failed identity =>
      if s.holdsIdentity identity t then [unregister s c failed identity] else []
    | .marking failed identity errand =>
      match s.deliver? errand with
      | none => []
      | some (failure, s) =>
        let s := match failure with
          | none => s
          | some causes => s.log .warn
            ("Failed to mark agent offline: " ++ String.intercalate ": " causes)
            [("identity", identity)]
        let disconnected := Notice.disconnected identity connection.addr
        [(.announcing failed identity (s.errand c (.publish disconnected)), s)]
    | .announcing failed identity errand =>
      match s.publish? connection.addrField errand with
      | none => []
      | some s => [(.releaseIdentity failed identity true, s)]
    | .releaseIdentity failed identity authoritative =>
      [(.releaseLifecycle failed authoritative, s.releaseIdentity identity t)]
    | .releaseLifecycle failed authoritative =>
      [(.farewell failed authoritative, s.releaseLifecycle c t)]
    | .farewell failed authoritative =>
      [(.publish, s.log .info "Agent disconnected"
        [connection.addrField, connection.identityField, ("failed_calls", toString failed),
          ("authoritative", toString authoritative)])]
    | .publish => [(.finished, s.update c fun x => { x with stage := .closed })]
    | .finished => []

end Supervising

end Fleetwire
