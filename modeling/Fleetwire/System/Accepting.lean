import Fleetwire.System.Exchange

namespace Fleetwire

namespace Accepting

def refusal : LinkError → LinkError
  | .disconnected => .disconnected
  | error => .handshake error.message

def announcement (response : Except LinkError Bytes) : Except LinkError Announcement := do
  let payload ← response.mapError refusal
  let fields ← (Call.typed .agentInfo (.record Catalog.agentIdentity) payload).mapError refusal
  let announced := Announcement.ofFields fields
  if announced.identity.isEmpty then .error (.handshake "agent announced an empty identity")
  else return announced

def introduce (s : System) (c : ConnectionId) (connection : Connection)
    (response : Except LinkError Bytes) : Accepting × System :=
  match announcement response with
  | .error error =>
    (.refuse error .halt,
      s.log .error s!"Agent handshake failed: {error.message}" [connection.addrField])
  | .ok announced =>
    (.queueLifecycle,
      (s.update c fun x => { x with announced := some announced }).log .info
        "Agent handshake completed"
        [connection.addrField, ("identity", announced.identity), ("version", announced.version)])

def enter (s : System) (c : ConnectionId) (connection : Connection) (announced : Announcement) :
    Accepting × System :=
  let errand := s.errand c (.markOnline announced.identity connection.addr)
  match connection.settings.duplicateIdentity with
  | .evict =>
    let (old, directory) := s.directory.put announced.identity c
    (.marking (old.filter fun old => old ≠ c) errand, { s with directory })
  | .reject =>
    match s.directory.putIfFree announced.identity c with
    | .ok directory => (.marking none errand, { s with directory })
    | .error holder =>
      let address := match s.connections[holder]? with
        | some holder => holder.addr.display
        | none => ""
      (.releaseIdentity .refused, s.log .warn "Rejecting duplicate agent connection"
        [("identity", announced.identity), connection.addrField, ("holder", address)])

def conclude (s : System) (connection : Connection) (announced : Announcement) :
    Verdict → Accepting × System
  | .gone => (.finished (.error .disconnected), s)
  | .refused => (.refuse (.duplicateIdentity announced.identity) .halt, s)
  | .admitted none => (.finished (.ok announced), s)
  | .admitted (some old) =>
    let address := match s.connections[old]? with
      | some old => old.addr.display
      | none => ""
    (.replace old .halt, s.log .warn "Replacing existing agent connection"
      [("identity", announced.identity), ("old", address), ("new", connection.addr.display)])

def register (s : System) (c : ConnectionId) (t : TaskId) (connection : Connection)
    (announced : Announcement) : Accepting → List (Accepting × System)
  | .queueLifecycle => [(.awaitLifecycle, s.queueLifecycle c t)]
  | .awaitLifecycle =>
    if connection.lifecycle.isHeldBy t then
      [(if connection.closed then .releaseLifecycle .gone else .queueIdentity, s)]
    else []
  | .queueIdentity => [(.awaitIdentity, s.queueIdentity announced.identity t)]
  | .awaitIdentity =>
    if s.holdsIdentity announced.identity t then [enter s c connection announced] else []
  | .marking displaced errand =>
    match s.deliver? errand with
    | none => []
    | some (failure, s) =>
      let s := match failure with
        | none => s
        | some causes => s.log .warn
          ("Failed to mark agent online: " ++ String.intercalate ": " causes)
          [("identity", announced.identity)]
      let connected := Notice.connected announced.identity announced.version connection.addr
      [(.announcing displaced (s.errand c (.publish connected)), s)]
  | .announcing displaced errand =>
    match s.publish? connection.addrField errand with
    | none => []
    | some s => [(.activate displaced, s)]
  | .activate displaced =>
    [(.releaseIdentity (.admitted displaced), s.update c fun x => { x with stage := .active })]
  | .releaseIdentity verdict =>
    [(.releaseLifecycle verdict, s.releaseIdentity announced.identity t)]
  | .releaseLifecycle verdict =>
    [conclude (s.releaseLifecycle c t) connection announced verdict]
  | .replace old closing =>
    (closing.next s old).map fun (progress, s) =>
      match progress with
      | .going closing => (.replace old closing, s)
      | .ended () => (.finished (.ok announced), s)
  | _ => []

def next (s : System) (c : ConnectionId) (t : TaskId) (phase : Accepting) :
    List (Accepting × System) :=
  match s.connections[c]? with
  | none => []
  | some connection =>
    match phase with
    | .handshake call =>
      (call.next s c t).map fun (progress, s) =>
        match progress with
        | .going phase => (.handshake { call with phase }, s)
        | .ended response => introduce s c connection response
    | .refuse error closing =>
      (closing.next s c).map fun (progress, s) =>
        match progress with
        | .going closing => (.refuse error closing, s)
        | .ended () => (.finished (.error error), s)
    | phase =>
      match connection.announced with
      | none => []
      | some announced => register s c t connection announced phase

end Accepting

end Fleetwire
