import Fleetwire.Proofs.Jobs
import Fleetwire.Proofs.Likeness
import Fleetwire.Proofs.Tasks

namespace Fleetwire

def complaints : List String :=
  ["Failed to mark agent online: ", "Failed to mark agent offline: ", "Failed to publish agent event: "]

def LogLine.complains (line : LogLine) : Bool :=
  line.level = .warn && complaints.any fun beginning => beginning.toList.isPrefixOf line.text.toList

namespace System

/-- The server as its connections know it. Of the collaborators' failures it has those to put a file on record; it has
neither the presences on record nor the lines about failures. -/
def layer (s : System) : System :=
  { s with
    collaborators :=
      { s.collaborators with
        failure := fun count report => if report.isRecord then s.collaborators.failure count report else none }
    records := { s.records with presences := .empty }
    logs := s.logs.filter fun line => !line.complains }

def SameLayer (s s' : System) : Prop := s'.layer = s.layer

variable {s s' s₁ s₁' : System} {c : ConnectionId} {t : TaskId} {connection : Connection}

namespace SameLayer

theorem change (h : SameLayer s s') (f : System → System) (shown : ∀ s, (f s).layer = f s.layer) :
    SameLayer (f s) (f s') := by
  rw [SameLayer, shown, shown, h]

theorem now (h : SameLayer s s') : s'.now = s.now := congrArg (fun s => s.now) h

theorem directory (h : SameLayer s s') : s'.directory = s.directory := congrArg (fun s => s.directory) h

theorem connections (h : SameLayer s s') : s'.connections = s.connections := congrArg (fun s => s.connections) h

theorem tasks (h : SameLayer s s') : s'.tasks = s.tasks := congrArg (fun s => s.tasks) h

theorem gate (h : SameLayer s s') : s'.gate = s.gate := congrArg (fun s => s.gate) h

theorem nextId (h : SameLayer s s') : s'.nextId = s.nextId := congrArg (fun s => s.nextId) h

theorem arrivals (h : SameLayer s s') : s'.arrivals = s.arrivals := congrArg (fun s => s.arrivals) h

theorem stopping (h : SameLayer s s') : s'.stopping = s.stopping := congrArg (fun s => s.stopping) h

theorem reports (h : SameLayer s s') : s'.reports = s.reports := congrArg (fun s => s.reports) h

theorem errand (h : SameLayer s s') (source : ConnectionId) (report : Report) :
    s'.errand source report = s.errand source report :=
  congrArg (fun s => s.errand source report) h

theorem holdsIdentity (h : SameLayer s s') (identity : String) (t : TaskId) :
    s'.holdsIdentity identity t = s.holdsIdentity identity t :=
  congrArg (fun s => s.holdsIdentity identity t) h

theorem update (h : SameLayer s s') (c : ConnectionId) (f : Connection → Connection) :
    SameLayer (s.update c f) (s'.update c f) :=
  h.change (·.update c f) fun _ => rfl

theorem logs (h : SameLayer s s') (lines : List LogLine) :
    SameLayer { s with logs := s.logs ++ lines } { s' with logs := s'.logs ++ lines } := by
  have shown (s : System) : ({ s with logs := s.logs ++ lines } : System).layer =
      { s.layer with logs := s.layer.logs ++ lines.filter fun line => !line.complains } := by
    simp [layer]
  rw [SameLayer, shown, shown, h]

theorem log (h : SameLayer s s') (level : Level) (text : String) (fields : List (String × String)) :
    SameLayer (s.log level text fields) (s'.log level text fields) :=
  h.logs [⟨level, text, fields⟩]

theorem sight (h : SameLayer s s') (c : ConnectionId) (moment : Moment) (job : Job) :
    SameLayer (s.sight c moment job) (s'.sight c moment job) :=
  h.change (·.sight c moment job) fun s => by
    unfold System.sight
    cases job.handler.tag <;> rfl

theorem setDirectory (h : SameLayer s s') (directory : Directory ConnectionId TaskId) :
    SameLayer { s with directory } { s' with directory } :=
  h.change (fun s => { s with directory }) fun _ => rfl

theorem queueIdentity (h : SameLayer s s') (identity : String) (t : TaskId) :
    SameLayer (s.queueIdentity identity t) (s'.queueIdentity identity t) :=
  h.change (·.queueIdentity identity t) fun _ => rfl

theorem releaseIdentity (h : SameLayer s s') (identity : String) (t : TaskId) :
    SameLayer (s.releaseIdentity identity t) (s'.releaseIdentity identity t) :=
  h.change (·.releaseIdentity identity t) fun _ => rfl

theorem likeness (c : ConnectionId) : Likeness SameLayer c where
  connection h := by rw [connections h]
  now h := now h
  update f h := update h c f
  logs lines h := logs h lines
  spawn task h := change h (·.spawn task) fun _ => rfl

theorem layer_complaint {beginning : String} (complains : beginning ∈ complaints) (s : System) (text : String)
    (fields : List (String × String)) : (s.log .warn (beginning ++ text) fields).layer = s.layer := by
  have line : LogLine.complains ⟨.warn, beginning ++ text, fields⟩ = true := by
    simp only [LogLine.complains, decide_true, Bool.true_and, List.any_eq_true]
    refine ⟨beginning, complains, ?_⟩
    rw [List.isPrefixOf_iff_prefix, String.toList_append]
    exact List.prefix_append ..
  simp [layer, System.log, line]

theorem complain (h : SameLayer s s') (beginning : String) (complains : beginning ∈ complaints)
    (failure failure' : Option (List String)) (fields : List (String × String)) :
    SameLayer
      (match failure with
        | none => s
        | some causes => s.log .warn (beginning ++ String.intercalate ": " causes) fields)
      (match failure' with
        | none => s'
        | some causes => s'.log .warn (beginning ++ String.intercalate ": " causes) fields) := by
  cases failure <;> cases failure' <;> simp only [SameLayer, layer_complaint complains] <;> exact h

theorem deliver (h : SameLayer s s') (source : ConnectionId) (report : Report) :
    SameLayer (s.deliver source report).2 (s'.deliver source report).2 ∧
      (report.isRecord → (s'.deliver source report).1 = (s.deliver source report).1) := by
  have told := h.change (fun s => { s with reports := s.reports ++ [(source, report)] }) fun _ => rfl
  have failures := congrArg (fun s => s.collaborators.failure s.reports.length report) h
  cases record : report.isRecord with
  | true =>
    have same : s'.collaborators.failure s'.reports.length report =
        s.collaborators.failure s.reports.length report := by
      simpa [layer, record] using failures
    have committed : ∀ s : System, (s.commit report).layer = s.layer.commit report := by
      intro s
      cases report with
      | record => rfl
      | markOnline | markOffline | publish => cases record
    simp only [System.deliver, same]
    refine ⟨?_, fun _ => trivial⟩
    split
    · exact told.change (·.commit report) committed
    · exact told
  | false =>
    have committed : ∀ s : System, (s.commit report).layer = s.layer := by
      intro s
      cases report with
      | record => cases record
      | markOnline | markOffline | publish => rfl
    refine ⟨?_, nofun⟩
    unfold System.deliver
    dsimp only
    split <;> split <;> simp only [SameLayer, committed] <;> exact told

theorem deliver? (h : SameLayer s s') (errand : Errand) :
    s.deliver? errand = none ∧ s'.deliver? errand = none ∨
      ∃ failure s₁ failure' s₁', s.deliver? errand = some (failure, s₁) ∧
        s'.deliver? errand = some (failure', s₁') ∧ SameLayer s₁ s₁' ∧
        (errand.report.isRecord → failure' = failure) := by
  obtain ⟨same, failure⟩ := h.deliver errand.source errand.report
  unfold System.deliver?
  rw [h.now]
  split
  · exact .inr ⟨_, _, _, _, rfl, rfl, same, failure⟩
  · exact .inl ⟨rfl, rfl⟩

theorem publish? (h : SameLayer s s') (addr : String × String) (errand : Errand) :
    s.publish? addr errand = none ∧ s'.publish? addr errand = none ∨
      ∃ s₁ s₁', s.publish? addr errand = some s₁ ∧ s'.publish? addr errand = some s₁' ∧ SameLayer s₁ s₁' := by
  unfold System.publish?
  rcases h.deliver? errand with ⟨nothing, nothing'⟩ | ⟨failure, s₁, failure', s₁', done, done', same, _⟩
  · rw [nothing, nothing']
    exact .inl ⟨rfl, rfl⟩
  · rw [done, done']
    exact .inr ⟨_, _, rfl, rfl, same.complain _ (by decide) failure failure' [addr]⟩

end SameLayer

end System

open Fleetwire.System

variable {s s' : System} {c : ConnectionId} {t : TaskId} {connection : Connection}

theorem Call.next_agree (h : SameLayer s s') (call : Call) :
    Agree SameLayer (call.next s c t) (call.next s' c t) := by
  by_cases beginning : call.phase = .register
  · simp only [Call.next, h.connections]
    cases s.connections[c]? with
    | none => exact .nothing
    | some connection =>
      simp only [beginning, h.nextId, h.now]
      exact .one ((h.update c _).change (fun s => { s with nextId := _ }) fun _ => rfl)
  · exact Call.next_agree_of_begun (SameLayer.likeness c) h call beginning

theorem Call.abort_alike (h : SameLayer s s') (call : Call) : SameLayer (call.abort s c t) (call.abort s' c t) := by
  unfold Call.abort
  split
  · exact h.update ..
  · exact h.update ..
  · exact h

namespace Operating

theorem next_agree (h : SameLayer s s') (phase : Operating) :
    Agree SameLayer (phase.next s c t) (phase.next s' c t) := by
  cases phase with
  | calling shape call =>
    refine (Call.next_agree h call).map fun progress s₁ s₁' h₁ => ?_
    cases progress <;> exact ⟨rfl, h₁⟩
  | notifying kind payload =>
    simp only [Operating.next, h.nextId]
    exact .one (h.change (fun s => { s with nextId := _ }) fun _ => rfl)
  | sending message phase =>
    refine (Sending.next_agree (SameLayer.likeness c) h message phase).map fun progress s₁ s₁' h₁ => ?_
    cases progress <;> exact ⟨rfl, h₁⟩
  | closing phase =>
    refine (Closing.next_agree (SameLayer.likeness c) h phase).map fun progress s₁ s₁' h₁ => ?_
    cases progress <;> exact ⟨rfl, h₁⟩
  | finished result | aborted => exact .nothing

theorem abort_alike (h : SameLayer s s') (operation : Operating) :
    SameLayer (operation.abort s c t) (operation.abort s' c t) := by
  cases operation with
  | calling shape call => exact call.abort_alike h
  | sending message phase => exact h.update ..
  | notifying kind payload | closing phase | finished result | aborted => exact h

end Operating

def Doing.recordsFile : Doing → Prop
  | recording _ errand => errand.report.isRecord
  | _ => True

def Handling.recordsFile : Handling → Prop
  | acting _ doing => doing.recordsFile
  | _ => True

namespace Handling

theorem finish_agree (h : SameLayer s s') (id : JobId) (ending : Ending) :
    Agree SameLayer [finish s c connection id ending] [finish s' c connection id ending] :=
  .one ((h.update c _).logs _)

theorem act_agree (h : SameLayer s s') (id : JobId) (job : Job) (actions : List Action) :
    Agree SameLayer (act s c t connection id job actions) (act s' c t connection id job actions) := by
  cases actions with
  | nil => exact finish_agree (h.sight c .finish job) id .finished
  | cons action left =>
    cases action with
    | noteHeartbeat =>
      simp only [act, h.now]
      exact .one (h.update ..)
    | noteAnnouncement =>
      simp only [act]
      split
      · exact finish_agree h id _
      · exact .one (h.log ..)
    | recordFile =>
      simp only [act]
      split
      · exact finish_agree h id _
      · rw [(h.log ..).errand]
        exact .one (h.log ..)
    | reportFile =>
      simp only [act]
      split
      · exact finish_agree h id _
      · rw [(h.log ..).errand]
        exact .one (h.log ..)
    | pass =>
      simp only [act, h.gate]
      exact .one (h.change (fun s => { s with gate := _ }) fun _ => rfl)
    | reply payload | refuse error | relay ask | close => exact .one h
    | stall => exact .nothing
    | fail causes | panic text => exact finish_agree h id _

theorem carryOn_agree (h : SameLayer s s') (id : JobId) (job : Job) (left : List Action) {doing : Doing}
    (records : doing.recordsFile) :
    Agree SameLayer (carryOn s c t connection id job left doing) (carryOn s' c t connection id job left doing) := by
  cases doing with
  | nothing => exact act_agree h id job left
  | passing =>
    simp only [carryOn, h.gate]
    split
    · exact .nothing
    · exact .one (h.change (fun s => { s with gate := _ }) fun _ => rfl)
  | sending answer phase =>
    refine (Sending.next_agree (SameLayer.likeness c) h answer phase).map fun progress s₁ s₁' h₁ => ?_
    cases progress with
    | going phase => exact ⟨rfl, h₁⟩
    | ended result =>
      cases result with
      | ok => exact ⟨rfl, h₁⟩
      | error error =>
        simp only [h₁.connections]
        split
        · exact ⟨rfl, (h₁.update c _).logs _⟩
        · exact ⟨rfl, h₁⟩
  | relaying call =>
    refine (Call.next_agree h call).map fun progress s₁ s₁' h₁ => ?_
    cases progress <;> exact ⟨rfl, h₁⟩
  | closing phase =>
    refine (Closing.next_agree (SameLayer.likeness c) h phase).map fun progress s₁ s₁' h₁ => ?_
    cases progress <;> exact ⟨rfl, h₁⟩
  | recording file errand =>
    simp only [carryOn]
    rcases h.deliver? errand with ⟨nothing, nothing'⟩ | ⟨failure, s₁, failure', s₁', done, done', same, certain⟩
    · rw [nothing, nothing']
      exact .nothing
    · rw [done, done', certain records]
      cases failure with
      | some causes => exact finish_agree same id _
      | none =>
        simp only [same.errand]
        exact .one same
  | reporting errand =>
    simp only [carryOn]
    rcases h.publish? connection.addrField errand with ⟨nothing, nothing'⟩ | ⟨s₁, s₁', done, done', same⟩
    · rw [nothing, nothing']
      exact .nothing
    · rw [done, done']
      exact .one same

theorem next_agree (h : SameLayer s s') (id : JobId) {phase : Handling} (records : phase.recordsFile) :
    Agree SameLayer (phase.next s c t id) (phase.next s' c t id) := by
  simp only [Handling.next, h.connections]
  split
  · exact .nothing
  · split
    · exact .nothing
    · split
      · exact .one (h.update ..)
      · split
        · exact .one (h.sight ..)
        · exact .nothing
      · exact carryOn_agree h id _ _ records
      · exact .nothing

end Handling

namespace Accepting

theorem introduce_alike (h : SameLayer s s') (response : Except LinkError Bytes) :
    (introduce s c connection response).1 = (introduce s' c connection response).1 ∧
      SameLayer (introduce s c connection response).2 (introduce s' c connection response).2 := by
  unfold introduce
  split
  · exact ⟨rfl, h.log ..⟩
  · exact ⟨rfl, (h.update c _).log ..⟩

theorem enter_agree (h : SameLayer s s') (announced : Announcement) :
    Agree SameLayer [enter s c connection announced] [enter s' c connection announced] := by
  simp only [enter, h.directory, h.errand]
  split
  · exact .one (h.setDirectory _)
  · split
    · exact .one (h.setDirectory _)
    · rw [h.connections]
      exact .one (h.log ..)

theorem conclude_agree (h : SameLayer s s') (announced : Announcement) (verdict : Verdict) :
    Agree SameLayer [conclude s connection announced verdict] [conclude s' connection announced verdict] := by
  cases verdict with
  | admitted displaced =>
    cases displaced with
    | none => exact .one h
    | some old =>
      simp only [conclude, h.connections]
      exact .one (h.log ..)
  | gone | refused => exact .one h

theorem register_agree (h : SameLayer s s') (announced : Announcement) (phase : Accepting) :
    Agree SameLayer (register s c t connection announced phase) (register s' c t connection announced phase) := by
  cases phase with
  | queueLifecycle | activate displaced => exact .one (h.update ..)
  | awaitLifecycle =>
    simp only [register]
    split
    · exact .one h
    · exact .nothing
  | queueIdentity => exact .one (h.queueIdentity ..)
  | releaseIdentity verdict => exact .one (h.releaseIdentity ..)
  | awaitIdentity =>
    simp only [register]
    rw [h.holdsIdentity]
    split
    · exact enter_agree h announced
    · exact .nothing
  | marking displaced errand =>
    simp only [register]
    rcases h.deliver? errand with ⟨nothing, nothing'⟩ | ⟨failure, s₁, failure', s₁', done, done', same, _⟩
    · rw [nothing, nothing']
      exact .nothing
    · have marked := same.complain "Failed to mark agent online: " (by decide) failure failure'
        [("identity", announced.identity)]
      rw [done, done']
      exact .cons ⟨congrArg (announcing displaced) (marked.errand c (.publish _)).symm, marked⟩ .nil
  | announcing displaced errand =>
    simp only [register]
    rcases h.publish? connection.addrField errand with ⟨nothing, nothing'⟩ | ⟨s₁, s₁', done, done', same⟩
    · rw [nothing, nothing']
      exact .nothing
    · rw [done, done']
      exact .one same
  | releaseLifecycle verdict => exact conclude_agree (h.update c _) announced verdict
  | replace old closing =>
    refine (Closing.next_agree (SameLayer.likeness old) h closing).map fun progress s₁ s₁' h₁ => ?_
    cases progress <;> exact ⟨rfl, h₁⟩
  | handshake | refuse | finished => exact .nothing

theorem next_agree (h : SameLayer s s') (phase : Accepting) :
    Agree SameLayer (phase.next s c t) (phase.next s' c t) := by
  simp only [Accepting.next, h.connections]
  split
  · exact .nothing
  · split
    next call =>
      refine (Call.next_agree h call).map fun progress s₁ s₁' h₁ => ?_
      cases progress with
      | going phase => exact ⟨rfl, h₁⟩
      | ended response => exact introduce_alike h₁ response
    next error closing =>
      refine (Closing.next_agree (SameLayer.likeness c) h closing).map fun progress s₁ s₁' h₁ => ?_
      cases progress <;> exact ⟨rfl, h₁⟩
    next =>
      split
      · exact .nothing
      · exact register_agree h _ _

end Accepting

namespace Supervising

theorem unregister_agree (h : SameLayer s s') (failed : Nat) (identity : String) :
    Agree SameLayer [unregister s c failed identity] [unregister s' c failed identity] := by
  simp only [unregister, h.directory]
  split
  · rw [(h.setDirectory _).errand]
    exact .one (h.setDirectory _)
  · exact .one (h.setDirectory _)

theorem next_agree (h : SameLayer s s') (phase : Supervising) :
    Agree SameLayer (phase.next s c t) (phase.next s' c t) := by
  have same : s'.connections[c]? = s.connections[c]? := by rw [h.connections]
  simp only [Supervising.next, same]
  cases s.connections[c]? with
  | none => exact .nothing
  | some connection =>
    cases phase with
    | spawned | halt | failAll | queueLifecycle failed | releaseLifecycle failed authoritative | publish =>
      exact .one (h.update ..)
    | serving => exact serve_agree (SameLayer.likeness c) h
    | leaving departure => exact .one (h.logs _)
    | claim =>
      dsimp only
      split
      · exact .one h
      · exact .one (h.update ..)
    | awaitLifecycle failed =>
      dsimp only
      split
      · split
        · exact .one h
        · exact .one (h.queueIdentity ..)
      · exact .nothing
    | awaitIdentity failed identity =>
      dsimp only
      rw [h.holdsIdentity]
      split
      · exact unregister_agree h failed identity
      · exact .nothing
    | marking failed identity errand =>
      dsimp only
      rcases h.deliver? errand with ⟨nothing, nothing'⟩ | ⟨failure, s₁, failure', s₁', done, done', same, _⟩
      · rw [nothing, nothing']
        exact .nothing
      · have marked := same.complain "Failed to mark agent offline: " (by decide) failure failure'
          [("identity", identity)]
        rw [done, done']
        exact .cons ⟨congrArg (announcing failed identity) (marked.errand c (.publish _)).symm, marked⟩ .nil
    | announcing failed identity errand =>
      dsimp only
      rcases h.publish? connection.addrField errand with ⟨nothing, nothing'⟩ | ⟨s₁, s₁', done, done', same⟩
      · rw [nothing, nothing']
        exact .nothing
      · rw [done, done']
        exact .one same
    | releaseIdentity failed identity authoritative => exact .one (h.releaseIdentity ..)
    | farewell failed authoritative => exact .one (h.log ..)
    | finished => exact .nothing

end Supervising

theorem takeOver_alike (h : SameLayer s s') (addr : Endpoint) (settings : Settings) (socket : Socket)
    (belongs : Bool) :
    SameLayer ((s.takeOver? addr settings socket belongs).getD s)
      ((s'.takeOver? addr settings socket belongs).getD s') := by
  refine h.change (fun s => (s.takeOver? addr settings socket belongs).getD s) fun s => ?_
  unfold takeOver?
  cases Connection.ofSocket? addr settings socket <;> rfl

theorem Listening.next_agree (h : SameLayer s s') (phase : Listening) :
    Agree SameLayer (phase.next s) (phase.next s') := by
  cases phase with
  | accepting =>
    refine .append ?_ ?_
    · rw [h.stopping]
      split
      · exact .one h
      · exact .nothing
    · rw [h.arrivals]
      split
      · exact .nothing
      next addr settings socket arrivals _ =>
        have taken : SameLayer { s with arrivals } { s' with arrivals } :=
          h.change (fun s => { s with arrivals }) fun _ => rfl
        exact .one (takeOver_alike taken addr settings socket true)
  | snapshot =>
    simp only [Listening.next, h.directory]
    exact .one h
  | halt agents => exact .one (h.change System.haltAll fun _ => rfl)
  | closing agents closing =>
    cases agents with
    | nil => exact .one h
    | cons agent agents =>
      refine (Closing.next_agree (SameLayer.likeness agent) h closing).map fun progress s₁ s₁' h₁ => ?_
      cases progress <;> exact ⟨rfl, h₁⟩
  | finished => exact .nothing

def Task.recordsFile : Task → Prop
  | handle _ _ phase => phase.recordsFile
  | _ => True

theorem Task.next_agree (h : SameLayer s s') {task : Task} (records : task.recordsFile) :
    Agree SameLayer (task.next s t) (task.next s' t) := by
  cases task with
  | accept c phase => exact (Accepting.next_agree h phase).map fun _ s s' h => ⟨rfl, h⟩
  | supervise c phase => exact (Supervising.next_agree h phase).map fun _ s s' h => ⟨rfl, h⟩
  | handle c job phase => exact (Handling.next_agree h job records).map fun _ s s' h => ⟨rfl, h⟩
  | operate c phase => exact (Operating.next_agree h phase).map fun _ s s' h => ⟨rfl, h⟩
  | listen phase => exact (Listening.next_agree h phase).map fun _ s s' h => ⟨rfl, h⟩

namespace System

theorem abort_alike (h : SameLayer s s') (t : TaskId) : SameLayer (s.abort t) (s'.abort t) := by
  unfold abort
  rw [h.tasks]
  split
  · exact h.change (·.setTask t _) fun _ => rfl
  next operation _ _ => exact (operation.abort_alike h).change (·.setTask t _) fun _ => rfl
  · exact h

end System

end Fleetwire
