import Fleetwire.Router
import Fleetwire.Gate
import Fleetwire.Schedule

namespace Fleetwire.Router

inductive JobState where
  | admitted
  | queued
  | acting (left : List Action)
  | passing (left : List Action)
deriving DecidableEq, Repr

inductive Sighting where
  | start (tag : String) (id : MessageId)
  | reply (tag : String) (message : Message)
  | finish (tag : String) (id : MessageId)
deriving DecidableEq, Repr

structure Session where
  router : Router
  gate : Gate JobId := {}
  jobs : Assoc JobId JobState := .empty
  callers : Assoc String SlotId := .empty
  sightings : List Sighting := []
  logs : List LogLine := []

namespace Session

def sight (s : Session) (handler : Handler) (sighting : String → Sighting) : Session :=
  match handler.tag with
  | some tag => { s with sightings := s.sightings ++ [sighting tag] }
  | none => s

def setState (s : Session) (id : JobId) (state : JobState) : Session :=
  { s with jobs := s.jobs.insert id state }

def finish (s : Session) (id : JobId) (ending : Ending) : Session :=
  let (lines, router) := s.router.finish id ending
  { s with router, logs := s.logs ++ lines, jobs := s.jobs.erase id }

def act (s : Session) (id : JobId) (job : Job) : List Action → Option Session
  | [] => some ((s.sight job.handler (.finish · job.message.id)).finish id .finished)
  | .pass :: left => some ({ s with gate := s.gate.join id }.setState id (.passing left))
  | .reply payload :: left =>
    some ((s.sight job.handler (.reply · (job.message.reply payload))).setState id (.acting left))
  | .refuse error :: left =>
    some ((s.sight job.handler (.reply · (job.message.failure error))).setState id (.acting left))
  | .stall :: _ => none
  | .fail causes :: _ => some (s.finish id (.failed causes))
  | .panic text :: _ => some (s.finish id (.panicked text))
  | _ :: left => some (s.setState id (.acting left))

def step (s : Session) (id : JobId) : Option Session := do
  let job ← s.router.jobs.get? id
  match ← s.jobs.get? id with
  | .admitted =>
    some ({ s with router := s.router.askWorker id }.setState id .queued)
  | .queued =>
    if s.router.hasWorker id then
      some ((s.sight job.handler (.start · job.message.id)).setState id
        (.acting job.handler.actions))
    else none
  | .acting left => s.act id job left
  | .passing left =>
    let gate ← s.gate.pass? id
    some ({ s with gate }.setState id (.acting left))

def machine : Machine Session JobId where
  step := step
  tasks s := s.jobs.keys.mergeSort fun a b => a ≤ b

inductive Order where
  | bind (kind : MessageKind) (handler : Handler)
  | expect (id : MessageId) (caller : String)
  | leave (caller : String)
  | cancel (id : MessageId)
  | failAll
  | route (message : Message)
  | release (count : Nat)

inductive Answer where
  | nothing
  | flag (value : Bool)
  | count (value : Nat)
  | fate (value : Fate)

def obey (s : Session) : Order → Answer × Session
  | .bind kind handler =>
    (.nothing, { s with router := s.router.bind kind handler })
  | .expect id caller =>
    let (slot, router) := s.router.expect id
    (.nothing, { s with router, callers := s.callers.insert caller slot })
  | .leave caller =>
    match s.callers.get? caller with
    | some slot => (.flag true,
      { s with router := s.router.abandon slot, callers := s.callers.erase caller })
    | none => (.flag false, s)
  | .cancel id =>
    let (found, router) := s.router.cancel id
    (.flag found, { s with router })
  | .failAll =>
    let (count, router) := s.router.failAll
    (.count count, { s with router })
  | .route message =>
    let (fate, lines, router) := s.router.route message
    let jobs := if fate = .handler then s.jobs.insert s.router.admitted .admitted else s.jobs
    (.fate fate, { s with router, jobs, logs := s.logs ++ lines })
  | .release count => (.nothing, { s with gate := s.gate.release count })

/-- The jobs that go on first after an order. Those at the gate go in the order in which they came
to it. -/
def queue (s : Session) : List JobId :=
  let atGate := s.gate.line.members.take s.gate.passes
  atGate ++ (machine.ready s).filter fun id => !atGate.contains id

def resolved (s : Session) : List (String × Option Message) :=
  s.callers.entries.filterMap fun (caller, slot) =>
    match s.router.slots[slot]? with
    | some (.filled response) => some (caller, some response)
    | some .closed => some (caller, none)
    | _ => none

structure Report where
  answer : Answer
  sightings : List Sighting
  resolved : List (String × Option Message)
  waiting : List String
  pending : Nat
  faulted : Bool
  logs : List LogLine

def perform (s : Session) (order : Order) : Report × Session :=
  let (answer, s) := { s with sightings := [], logs := [] }.obey order
  let s := machine.run Machine.patience s s.queue
  let resolved := s.resolved
  let callers := resolved.foldl (fun callers (caller, _) => callers.erase caller) s.callers
  ({ answer, resolved
     sightings := s.sightings
     waiting := callers.keys.mergeSort fun a b => a ≤ b
     pending := s.router.pendingCount
     faulted := s.router.faulted
     logs := s.logs.mergeSort LogLine.addrLE },
   { s with callers })

end Session

end Fleetwire.Router
