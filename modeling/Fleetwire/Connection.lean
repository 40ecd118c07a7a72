import Fleetwire.Connection.Outbox
import Fleetwire.Connection.Pipe
import Fleetwire.Router
import Fleetwire.Notice
import Fleetwire.Settings

namespace Fleetwire

abbrev ConnectionId := Nat

inductive Stage where
  | initializing
  | active
  | closed
deriving DecidableEq, Repr

def Stage.name : Stage → String
  | initializing => "Initializing"
  | active => "Active"
  | closed => "Closed"

structure Connection where
  addr : Endpoint
  settings : Settings
  socket : Socket
  router : Router
  outbox : Outbox
  inbox : FrameBuffer
  routed : List Message := []
  writing : Bytes := []
  announced : Option Announcement := none
  stage : Stage := .initializing
  /-- It is closed together with the server. -/
  belongs : Bool := true
  halted : Bool := false
  closed : Bool := false
  /-- There is someone who serves it and takes it down. -/
  supervised : Bool := false
  /-- Held by its registration and by its teardown, one after the other. -/
  lifecycle : Line TaskId := {}
  heartbeat : Option Nat := none
deriving DecidableEq, Repr

namespace Connection

def standingHandlers : List (MessageKind × Handler) := [
  (.heartbeat, { actions := [.noteHeartbeat] }),
  (.agentInfo, { actions := [.noteAnnouncement] }),
  (.configFileChanged, { actions := [.recordFile] }),
  (.fileMonitor, { actions := [.reportFile] })]

/-- A new connection. There is none with settings whose limits cannot be counted. -/
def ofSocket? (addr : Endpoint) (settings : Settings) (socket : Socket) : Option Connection := do
  let router ← Router.ofLimits? settings.maxConcurrentHandlers settings.handlerQueueCapacity
  let capacity := max settings.outboundQueueCapacity 1
  guard (capacity ≤ Line.placeLimit)
  return {
    addr, settings, socket
    router := standingHandlers.foldl (fun r (kind, handler) => r.bind kind handler) router
    outbox := { capacity }
    inbox := { limit := settings.maxFrameSize } }

def identity? (connection : Connection) : Option String :=
  connection.announced.map Announcement.identity

def reporter (connection : Connection) (fallback : String) : String :=
  connection.identity?.getD fallback

def addrField (connection : Connection) : String × String := ("addr", connection.addr.display)

def identityField (connection : Connection) : String × String :=
  ("identity", connection.reporter "-")

def inspect (connection : Connection) (id : String) : String :=
  let identity := match connection.identity? with
    | some identity => s!"Some({Text.quote identity})"
    | none => "None"
  s!"Agent \x7b conn_id: {id}, addr: {connection.addr.display}, identity: {identity}, " ++
    s!"state: {connection.stage.name} \x7d"

end Connection

end Fleetwire
