import Fleetwire.System.Handling

namespace Fleetwire

def Report.isRecord : Report → Bool
  | record _ _ => true
  | _ => false

def Message.file? (message : Message) : Option ConfigFile :=
  match message.bind (.record Catalog.configFile) with
  | .ok fields => some (.ofFields fields)
  | .error _ => none

def Doing.Plain : Doing → Prop
  | recording _ _ => False
  | reporting errand => errand.report.isRecord = false
  | _ => True

namespace Handling

def errand? : Handling → Option Errand
  | acting _ (.recording _ errand) | acting _ (.reporting errand) => some errand
  | _ => none

inductive Goes (c : ConnectionId) (identity : Option String) (job : Job) : Handling → Handling → Prop where
  | queue : Goes c identity job .admitted .queued
  | start : Goes c identity job .queued (.acting job.handler.actions .nothing)
  | begin {action : Action} {left : List Action} {doing : Doing} (other : action ≠ .recordFile)
    (plain : doing.Plain) : Goes c identity job (.acting (action :: left) .nothing) (.acting left doing)
  | record {left : List Action} {file : ConfigFile} {due : Nat} (brings : job.message.file? = some file) :
    Goes c identity job (.acting (.recordFile :: left) .nothing)
      (.acting left (.recording file ⟨c, .record (identity.getD file.machine) file, due⟩))
  | carryOn {left : List Action} {doing doing' : Doing} (still : (acting left doing).errand? = none)
    (busy : doing ≠ .nothing) (plain : doing'.Plain) :
    Goes c identity job (.acting left doing) (.acting left doing')

inductive Ends (job : Job) : Handling → Prop where
  | done : Ends job (.acting [] .nothing)
  | undecodable {left : List Action} (nothing : job.message.file? = none) :
    Ends job (.acting (.recordFile :: left) .nothing)
  | broken {action : Action} {left : List Action} (other : action ≠ .recordFile) :
    Ends job (.acting (action :: left) .nothing)
  | unsent {left : List Action} {answer : Message} {phase : Sending} :
    Ends job (.acting left (.sending answer phase))

end Handling

/-- What the jobs of a connection depend on. -/
structure Table where
  identity : Option String := none
  handlers : Assoc MessageKind Handler
  jobs : Assoc JobId Job := .empty
  admitted : Nat := 0

namespace Table

def standing : Table where
  handlers := Connection.standingHandlers.foldl (fun handlers (kind, handler) => handlers.insert kind handler) .empty

def enlist (table : Table) (job : Job) : Table :=
  { table with jobs := table.jobs.insert table.admitted job, admitted := table.admitted + 1 }

def finish (table : Table) (id : JobId) : Table := { table with jobs := table.jobs.erase id }

end Table

/-- The jobs of one connection, the tasks that carry them out, and the files on record. -/
@[ext]
structure Desk where
  table : Option Table
  work : TaskId → Option (JobId × Handling)
  files : Assoc (String × String) ConfigFile
  recorded : List (ConnectionId × Report)

namespace Desk

def setTable (l : Desk) (table : Table) : Desk := { l with table := some table }

def setWork (l : Desk) (t : TaskId) (work : JobId × Handling) : Desk :=
  { l with work := fun other => if other = t then some work else l.work other }

def tell (l : Desk) (source : ConnectionId) (report : Report) (failed : Bool) : Desk :=
  { l with
    files := match report with
      | .record identity file =>
        if failed then l.files else l.files.insert (identity, file.path) file
      | _ => l.files
    recorded := if report.isRecord then l.recorded ++ [(source, report)] else l.recorded }

/-- All that can happen to the desk of the connection `c`. Only reports that satisfy `fails` may fail. -/
inductive Move (fails : Report → Prop) (c : ConnectionId) (l : Desk) : Desk → Prop where
  | stay : Move fails c l l
  | arrive (none : l.table = none) : Move fails c l (l.setTable .standing)
  | introduce {table : Table} (here : l.table = some table) (identity : String) :
    Move fails c l (l.setTable { table with identity := some identity })
  | bind {table : Table} (here : l.table = some table) {kind : MessageKind} {handler : Handler}
    (other : kind ≠ .configFileChanged) (plain : .recordFile ∉ handler.actions) :
    Move fails c l (l.setTable { table with handlers := table.handlers.insert kind handler })
  | enlist {table : Table} (here : l.table = some table) {t : TaskId} (idle : l.work t = none)
    {handler : Handler} {message : Message} (bound : table.handlers.get? message.kind = some handler) :
    Move fails c l ((l.setTable (table.enlist { handler, message })).setWork t (table.admitted, .admitted))
  | go {table : Table} (here : l.table = some table) {t : TaskId} {id : JobId} {job : Job}
    {phase phase' : Handling} (work : l.work t = some (id, phase)) (found : table.jobs.get? id = some job)
    (goes : phase.Goes c table.identity job phase') : Move fails c l (l.setWork t (id, phase'))
  | finish {table : Table} (here : l.table = some table) {t : TaskId} {id : JobId} {job : Job}
    {phase : Handling} (work : l.work t = some (id, phase)) (found : table.jobs.get? id = some job)
    (ends : phase.Ends job) : Move fails c l ((l.setTable (table.finish id)).setWork t (id, .finished))
  | record {t : TaskId} {id : JobId} {left : List Action} {file : ConfigFile} {errand errand' : Errand}
    (work : l.work t = some (id, .acting left (.recording file errand)))
    (other : errand'.report.isRecord = false) :
    Move fails c l ((l.tell errand.source errand.report false).setWork t (id, .acting left (.reporting errand')))
  | report {t : TaskId} {id : JobId} {left : List Action} {errand : Errand}
    (work : l.work t = some (id, .acting left (.reporting errand))) (failed : Bool) :
    Move fails c l ((l.tell errand.source errand.report failed).setWork t (id, .acting left .nothing))
  | lose {table : Table} (here : l.table = some table) {t : TaskId} {id : JobId} {left : List Action}
    {file : ConfigFile} {errand : Errand}
    (work : l.work t = some (id, .acting left (.recording file errand))) (excused : fails errand.report) :
    Move fails c l (((l.tell errand.source errand.report true).setTable (table.finish id)).setWork t
      (id, .finished))
  | elsewhere {source : ConnectionId} (other : source ≠ c) (report : Report) (failed : Bool) :
    Move fails c l (l.tell source report failed)

inductive Course (fails : Report → Prop) (c : ConnectionId) : List Desk → Prop where
  | start {l : Desk} (none : l.table = none) (idle : ∀ t, l.work t = .none) (empty : l.files = {}) :
    Course fails c [l]
  | move {l l' : Desk} {past : List Desk} (h : Course fails c (l :: past)) (h' : l.Move fails c l') :
    Course fails c (l' :: l :: past)

end Desk

end Fleetwire
