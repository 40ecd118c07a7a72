import Fleetwire.Assoc
import Fleetwire.Handler
import Fleetwire.Line
import Fleetwire.Log
import Fleetwire.Message

namespace Fleetwire

inductive Fate where
  | response
  | handler
  | unhandled
  | overflow
deriving DecidableEq, Repr

inductive Slot where
  | waiting
  | filled (response : Message)
  | closed
  | abandoned
deriving DecidableEq, Repr

abbrev SlotId := Nat

abbrev JobId := Nat

/-- A message on its way through the handler that was bound for its kind when it came. -/
structure Job where
  handler : Handler
  message : Message
deriving DecidableEq, Repr

structure Router where
  workers : Nat
  backlog : Nat
  handlers : Assoc MessageKind Handler := .empty
  pending : Assoc MessageId SlotId := .empty
  slots : List Slot := []
  jobs : Assoc JobId Job := .empty
  admitted : Nat := 0
  /-- The jobs that have asked for a worker; the first ones have one. -/
  workerLine : Line JobId := {}
  faulted : Bool := false
deriving DecidableEq, Repr

namespace Router

/-- A router always has a worker. There is none for limits that cannot be counted. -/
def ofLimits? (concurrent backlog : Nat) : Option Router :=
  if max concurrent 1 + backlog ≤ Line.placeLimit then some { workers := max concurrent 1, backlog }
  else none

def capacity (r : Router) : Nat := r.workers + r.backlog

def bind (r : Router) (kind : MessageKind) (handler : Handler) : Router :=
  { r with handlers := r.handlers.insert kind handler }

/-- The slot is closed, unless it is filled or no longer looked at. -/
def closeSlot (r : Router) (slot : SlotId) : Router :=
  { r with slots := r.slots.modify slot fun s => if s = .waiting then .closed else s }

/-- Makes a slot for the response with the given id. A former call with that id gets none any more. -/
def expect (r : Router) (id : MessageId) : SlotId × Router :=
  let r := match r.pending.get? id with
    | some former => r.closeSlot former
    | none => r
  (r.slots.length, { r with
    slots := r.slots ++ [.waiting]
    pending := r.pending.insert id r.slots.length })

def cancel (r : Router) (id : MessageId) : Bool × Router :=
  match r.pending.get? id with
  | some slot => (true, { r.closeSlot slot with pending := r.pending.erase id })
  | none => (false, r)

def failAll (r : Router) : Nat × Router :=
  (r.pending.size, { r.pending.values.foldl closeSlot r with pending := .empty })

def abandon (r : Router) (slot : SlotId) : Router :=
  { r with slots := r.slots.modify slot fun s => if s = .waiting then .abandoned else s }

def pendingCount (r : Router) : Nat := r.pending.size

def noHandler (kind : MessageKind) : LogLine :=
  ⟨.warn, "No handler bound, dropping message", [("kind", kind.display)]⟩

def backlogFull (kind : MessageKind) : LogLine :=
  ⟨.error, "Handler backlog full, faulting connection", [("kind", kind.display)]⟩

def callerGone : LogLine := ⟨.warn, "Caller stopped waiting before its response arrived", []⟩

def respond (r : Router) (slot : SlotId) (message : Message) : List LogLine × Router :=
  let r := { r with pending := r.pending.erase message.id }
  if r.slots[slot]? = some .waiting then
    ([], { r with slots := r.slots.set slot (.filled message) })
  else ([callerGone], r)

def route (r : Router) (message : Message) : Fate × List LogLine × Router :=
  match r.pending.get? message.id with
  | some slot => (.response, r.respond slot message)
  | none =>
    match r.handlers.get? message.kind with
    | none => (.unhandled, [noHandler message.kind], r)
    | some handler =>
      if r.jobs.size < r.capacity then
        (.handler, [], { r with
          jobs := r.jobs.insert r.admitted { handler, message }
          admitted := r.admitted + 1 })
      else (.overflow, [backlogFull message.kind], { r with faulted := true })

def askWorker (r : Router) (job : JobId) : Router :=
  { r with workerLine := r.workerLine.join job }

def hasWorker (r : Router) (job : JobId) : Bool := r.workerLine.admits r.workers job

def handlerFailed (kind : MessageKind) (causes : List String) : LogLine :=
  ⟨.warn, "Handler failed: " ++ String.intercalate ": " causes, [("kind", kind.display)]⟩

def handlerPanicked (kind : MessageKind) (text : Option String) : LogLine :=
  ⟨.error, "Handler panicked: " ++ text.getD "non-string panic payload", [("kind", kind.display)]⟩

/-- The job is over, and its worker is free. An error of its handler stays with the job; a breakdown
concerns everyone. -/
def finish (r : Router) (id : JobId) (ending : Ending) : List LogLine × Router :=
  match r.jobs.get? id with
  | none => ([], r)
  | some job =>
    let r := { r with jobs := r.jobs.erase id, workerLine := r.workerLine.leave id }
    match ending with
    | .finished => ([], r)
    | .failed causes => ([handlerFailed job.message.kind causes], r)
    | .panicked text => ([handlerPanicked job.message.kind text], { r with faulted := true })

end Router

end Fleetwire
