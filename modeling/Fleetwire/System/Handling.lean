import Fleetwire.System.Exchange

namespace Fleetwire

namespace Handling

def finish (s : System) (c : ConnectionId) (connection : Connection) (id : JobId)
    (ending : Ending) : Handling × System :=
  let (lines, router) := connection.router.finish id ending
  let s := s.update c fun x => { x with router }
  (.finished, { s with logs := s.logs ++ lines })

def fail (s : System) (c : ConnectionId) (connection : Connection) (id : JobId) (error : String) :
    Handling × System :=
  finish s c connection id (.failed [error])

def act (s : System) (c : ConnectionId) (t : TaskId) (connection : Connection) (id : JobId)
    (job : Job) : List Action → List (Handling × System)
  | [] => [finish (s.sight c .finish job) c connection id .finished]
  | .noteHeartbeat :: left =>
    [(.acting left .nothing, s.update c fun x => { x with heartbeat := some s.now })]
  | .noteAnnouncement :: left =>
    match job.message.bind (.record Catalog.agentIdentity) with
    | .error error => [fail s c connection id error.message]
    | .ok fields =>
      let announced := Announcement.ofFields fields
      [(.acting left .nothing, s.log .info "Agent re-announced itself"
        [connection.addrField, ("identity", announced.identity), ("version", announced.version)])]
  | .recordFile :: left =>
    match job.message.bind (.record Catalog.configFile) with
    | .error error => [fail s c connection id error.message]
    | .ok fields =>
      let file := ConfigFile.ofFields fields
      let identity := connection.reporter file.machine
      let s := s.log .info "Config file changed on agent"
        [connection.addrField, ("identity", identity), ("path", file.path)]
      [(.acting left (.recording file (s.errand c (.record identity file))), s)]
  | .reportFile :: left =>
    match job.message.bind (.plain .text) with
    | .error error => [fail s c connection id error.message]
    | .ok (detail : String) =>
      let identity := connection.reporter "-"
      let s := s.log .info "File monitor notice"
        [connection.addrField, ("identity", identity), ("detail", detail)]
      [(.acting left (.reporting (s.errand c (.publish (.fileChanged identity detail)))), s)]
  | .pass :: left => [(.acting left .passing, { s with gate := s.gate.join t })]
  | .reply payload :: left =>
    [(.acting left (.sending (job.message.reply payload) .check), s)]
  | .refuse error :: left => [(.acting left (.sending (job.message.failure error) .check), s)]
  | .relay ask :: left =>
    let call : Call :=
      { kind := ask, payload := job.message.payload, timeout := connection.settings.callTimeout }
    [(.acting left (.relaying call), s)]
  | .close :: left => [(.acting left (.closing .halt), s)]
  | .stall :: _ => []
  | .fail causes :: _ => [finish s c connection id (.failed causes)]
  | .panic text :: _ => [finish s c connection id (.panicked text)]

def relayed (message : Message) : Except LinkError Bytes → Message
  | .ok payload => message.reply payload
  | .error error => message.failure error.message

def carryOn (s : System) (c : ConnectionId) (t : TaskId) (connection : Connection) (id : JobId)
    (job : Job) (left : List Action) : Doing → List (Handling × System)
  | .nothing => act s c t connection id job left
  | .passing =>
    match s.gate.pass? t with
    | none => []
    | some gate => [(.acting left .nothing, { s with gate })]
  | .sending answer phase =>
    (phase.next s c t answer).map fun (progress, s) =>
      match progress with
      | .going phase => (.acting left (.sending answer phase), s)
      | .ended (.ok ()) => (.acting left .nothing, s)
      | .ended (.error error) =>
        match s.connections[c]? with
        | some connection => fail s c connection id error.message
        | none => (.finished, s)
  | .relaying call =>
    (call.next s c t).map fun (progress, s) =>
      match progress with
      | .going phase => (.acting left (.relaying { call with phase }), s)
      | .ended response => (.acting left (.sending (relayed job.message response) .check), s)
  | .closing phase =>
    (phase.next s c).map fun (progress, s) =>
      match progress with
      | .going phase => (.acting left (.closing phase), s)
      | .ended () => (.acting left .nothing, s)
  | .recording file errand =>
    match s.deliver? errand with
    | none => []
    | some (some causes, s) =>
      [fail s c connection id (LinkError.collaborator causes).message]
    | some (none, s) =>
      let changed := Notice.configFileChanged (connection.reporter file.machine) file.path
      [(.acting left (.reporting (s.errand c (.publish changed))), s)]
  | .reporting errand =>
    match s.publish? connection.addrField errand with
    | none => []
    | some s => [(.acting left .nothing, s)]

def next (s : System) (c : ConnectionId) (t : TaskId) (id : JobId) (phase : Handling) :
    List (Handling × System) :=
  match s.connections[c]? with
  | none => []
  | some connection =>
    match connection.router.jobs.get? id with
    | none => []
    | some job =>
      match phase with
      | .admitted =>
        [(.queued, s.update c fun x => { x with router := x.router.askWorker id })]
      | .queued =>
        if connection.router.hasWorker id then
          [(.acting job.handler.actions .nothing, s.sight c .start job)]
        else []
      | .acting left doing => carryOn s c t connection id job left doing
      | .finished => []

end Handling

end Fleetwire
