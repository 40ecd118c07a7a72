import Fleetwire.Connection
import Fleetwire.Gate
import Fleetwire.MachineRecords
import Fleetwire.Directory

namespace Fleetwire

inductive Report where
  | markOnline (identity : String) (addr : Endpoint)
  | markOffline (identity : String)
  | record (identity : String) (file : ConfigFile)
  | publish (notice : Notice)
deriving DecidableEq, Repr

def Report.identity : Report → String
  | markOnline identity _ | markOffline identity | record identity _ => identity
  | publish notice => notice.identity

/-- How the collaborators behave: how long a report takes them, and whether the report that comes after
so many others fails, with the causes. -/
structure Collaborators where
  delay : Report → Nat := fun _ => 0
  failure : Nat → Report → Option (List String) := fun _ _ => none

/-- A report of a connection on its way, and the time at which it arrives. -/
structure Errand where
  source : ConnectionId
  report : Report
  due : Nat
deriving DecidableEq, Repr

/-- Where one action leaves an activity: at a later phase, or at its end. -/
inductive Progress (Phase Result : Type) where
  | going (phase : Phase)
  | ended (result : Result)
deriving DecidableEq, Repr

inductive Sending where
  | check
  | queue (envelope : Bytes)
  | wait (envelope : Bytes)
deriving DecidableEq, Repr

inductive Calling where
  | register
  | send (request : Message) (slot : SlotId) (deadline : Nat) (phase : Sending)
  | wait (request : Message) (slot : SlotId) (deadline : Nat)
  /-- It has failed, and its id is still expected. -/
  | forget (request : Message) (error : LinkError)
deriving DecidableEq, Repr

structure Call where
  kind : MessageKind
  payload : Bytes
  timeout : Duration
  phase : Calling := .register
deriving DecidableEq, Repr

inductive Closing where
  | halt
  | look
  | claim
  | failAll
  | publish
  | wait
deriving DecidableEq, Repr

inductive Verdict where
  | gone
  | refused
  | admitted (displaced : Option ConnectionId)
deriving DecidableEq, Repr

inductive Accepting where
  | handshake (call : Call)
  | queueLifecycle
  | awaitLifecycle
  | queueIdentity
  | awaitIdentity
  | marking (displaced : Option ConnectionId) (errand : Errand)
  | announcing (displaced : Option ConnectionId) (errand : Errand)
  | activate (displaced : Option ConnectionId)
  | releaseIdentity (verdict : Verdict)
  | releaseLifecycle (verdict : Verdict)
  | refuse (error : LinkError) (closing : Closing)
  | replace (old : ConnectionId) (closing : Closing)
  | finished (result : Except LinkError Announcement)

inductive Departure where
  | received (result : Except StreamError Unit)
  | unsent (error : StreamError)
  | fault
  | halted

inductive Supervising where
  | spawned
  | serving
  | leaving (departure : Departure)
  | claim
  | halt
  | failAll
  | queueLifecycle (failed : Nat)
  | awaitLifecycle (failed : Nat)
  | awaitIdentity (failed : Nat) (identity : String)
  | marking (failed : Nat) (identity : String) (errand : Errand)
  | announcing (failed : Nat) (identity : String) (errand : Errand)
  | releaseIdentity (failed : Nat) (identity : String) (authoritative : Bool)
  | releaseLifecycle (failed : Nat) (authoritative : Bool)
  | farewell (failed : Nat) (authoritative : Bool)
  | publish
  | finished

inductive Doing where
  | nothing
  | passing
  | sending (answer : Message) (phase : Sending)
  | relaying (call : Call)
  | closing (phase : Closing)
  | recording (file : ConfigFile) (errand : Errand)
  | reporting (errand : Errand)
deriving DecidableEq, Repr

inductive Handling where
  | admitted
  | queued
  | acting (left : List Action) (doing : Doing)
  | finished
deriving DecidableEq, Repr

inductive Reply where
  | nothing
  | payload (payload : Bytes)
  | value (shape : MessagePack.Shape) (value : shape.Value)

inductive Operating where
  | calling (shape : Option MessagePack.Shape) (call : Call)
  | notifying (kind : MessageKind) (payload : Bytes)
  | sending (message : Message) (phase : Sending)
  | closing (phase : Closing)
  | finished (result : Except LinkError Reply)
  | aborted

inductive Listening where
  | accepting
  | snapshot
  | halt (agents : List ConnectionId)
  | closing (agents : List ConnectionId) (phase : Closing)
  | finished
deriving DecidableEq, Repr

inductive Task where
  | accept (connection : ConnectionId) (phase : Accepting)
  | supervise (connection : ConnectionId) (phase : Supervising)
  | handle (connection : ConnectionId) (job : JobId) (phase : Handling)
  | operate (connection : ConnectionId) (phase : Operating)
  | listen (phase : Listening)

structure Sighting where
  connection : ConnectionId
  moment : Moment
  tag : String
  message : MessageId
deriving DecidableEq, Repr

structure System where
  collaborators : Collaborators := {}
  now : Nat := 0
  records : MachineRecords := {}
  directory : Directory ConnectionId TaskId := {}
  connections : List Connection := []
  tasks : List Task := []
  gate : Gate TaskId := {}
  nextId : Nat := 0
  halted : Bool := false
  stopping : Bool := false
  arrivals : List (Endpoint × Settings × Socket) := []
  reports : List (ConnectionId × Report) := []
  logs : List LogLine := []
  sightings : List Sighting := []

namespace System

def update (s : System) (c : ConnectionId) (f : Connection → Connection) : System :=
  { s with connections := s.connections.modify c f }

def setTask (s : System) (t : TaskId) (task : Task) : System :=
  { s with tasks := s.tasks.set t task }

def spawn (s : System) (task : Task) : System := { s with tasks := s.tasks ++ [task] }

def log (s : System) (level : Level) (text : String) (fields : List (String × String)) : System :=
  { s with logs := s.logs ++ [⟨level, text, fields⟩] }

def sight (s : System) (c : ConnectionId) (moment : Moment) (job : Job) : System :=
  match job.handler.tag with
  | some tag => { s with sightings := s.sightings ++ [⟨c, moment, tag, job.message.id⟩] }
  | none => s

def haltAll (s : System) : System :=
  { s with
    connections := s.connections.map fun connection =>
      { connection with halted := connection.halted || connection.belongs }
    halted := true }

def errand (s : System) (source : ConnectionId) (report : Report) : Errand :=
  { source, report, due := s.now + s.collaborators.delay report }

/-- What a report changes that does not fail. -/
def commit (s : System) : Report → System
  | .markOnline identity addr => { s with records := s.records.markOnline identity addr }
  | .markOffline identity => { s with records := s.records.markOffline identity }
  | .record identity file => { s with records := s.records.record identity file }
  | .publish _ => s

def deliver (s : System) (source : ConnectionId) (report : Report) :
    Option (List String) × System :=
  let failure := s.collaborators.failure s.reports.length report
  let s := { s with reports := s.reports ++ [(source, report)] }
  (failure, if failure.isNone then s.commit report else s)

def deliver? (s : System) (errand : Errand) : Option (Option (List String) × System) :=
  if errand.due ≤ s.now then some (s.deliver errand.source errand.report) else none

/-- Delivers a notice. If that fails, the connection says so in the log. -/
def publish? (s : System) (addr : String × String) (errand : Errand) : Option System := do
  let (failure, s) ← s.deliver? errand
  return match failure with
    | none => s
    | some causes => s.log .warn
      ("Failed to publish agent event: " ++ String.intercalate ": " causes) [addr]

def holdsIdentity (s : System) (identity : String) (t : TaskId) : Bool :=
  (s.directory.transition identity).isHeldBy t

def queueIdentity (s : System) (identity : String) (t : TaskId) : System :=
  { s with directory := s.directory.joinTransition identity t }

def releaseIdentity (s : System) (identity : String) (t : TaskId) : System :=
  { s with directory := s.directory.leaveTransition identity t }

def queueLifecycle (s : System) (c : ConnectionId) (t : TaskId) : System :=
  s.update c fun connection => { connection with lifecycle := connection.lifecycle.join t }

def releaseLifecycle (s : System) (c : ConnectionId) (t : TaskId) : System :=
  s.update c fun connection => { connection with lifecycle := connection.lifecycle.leave t }

end System

end Fleetwire
