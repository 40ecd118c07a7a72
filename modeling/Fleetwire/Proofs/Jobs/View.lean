import Fleetwire.Proofs.Jobs
import Fleetwire.Proofs.Lifecycle.Served

namespace Fleetwire

def Connection.table (connection : Connection) : Table where
  identity := connection.identity?
  handlers := connection.router.handlers
  jobs := connection.router.jobs
  admitted := connection.router.admitted

def Task.work (c : ConnectionId) : Task → Option (JobId × Handling)
  | handle own id phase => if own = c then some (id, phase) else none
  | _ => none

namespace System

def table? (s : System) (c : ConnectionId) : Option Table := (s.connections[c]?).map Connection.table

def desk (c : ConnectionId) (s : System) : Desk where
  table := s.table? c
  work t := (s.tasks[t]?).bind (Task.work c)
  files := s.records.files
  recorded := s.reports.filter fun told => told.2.isRecord

variable {s s' s'' s₁ : System} {c other : ConnectionId} {t : TaskId} {x : Connection}

theorem table?_of_connection (here : s.connections[c]? = some x) : s.table? c = some x.table := by
  simp [table?, here]

theorem work_of_task {task : Task} (found : s.tasks[t]? = some task) :
    (s.desk c).work t = task.work c := by
  simp [desk, found]

theorem table?_update (f : Connection → Connection) (other : ConnectionId) :
    (s.update c f).table? other =
      (s.connections[other]?).map fun x => if c = other then (f x).table else x.table := by
  simp only [table?, update, List.getElem?_modify]
  cases s.connections[other]? with
  | none => rfl
  | some x => by_cases own : c = other <;> simp [own]

structure Alters (s : System) (c : ConnectionId) (f : Table → Table) (s' : System) : Prop where
  table : s'.table? c = (s.table? c).map f
  others : ∀ other, other ≠ c → s'.table? other = s.table? other
  tasks : s'.tasks = s.tasks
  files : s'.records.files = s.records.files
  recorded : s'.reports.filter (fun told => told.2.isRecord) = s.reports.filter fun told => told.2.isRecord

structure Idle (s s' : System) : Prop where
  tables : ∀ c, s'.table? c = s.table? c
  tasks : s'.tasks = s.tasks
  files : s'.records.files = s.records.files
  recorded : s'.reports.filter (fun told => told.2.isRecord) = s.reports.filter fun told => told.2.isRecord

theorem Idle.refl (s : System) : s.Idle s := ⟨fun _ => rfl, rfl, rfl, rfl⟩

theorem Idle.trans (h : s.Idle s') (h' : s'.Idle s'') : s.Idle s'' where
  tables c := (h'.tables c).trans (h.tables c)
  tasks := h'.tasks.trans h.tasks
  files := h'.files.trans h.files
  recorded := h'.recorded.trans h.recorded

theorem Idle.of_same (connections : s'.connections = s.connections) (tasks : s'.tasks = s.tasks)
    (records : s'.records = s.records) (reports : s'.reports = s.reports) : s.Idle s' := by
  refine ⟨fun c => ?_, tasks, congrArg _ records, congrArg _ reports⟩
  simp only [table?, connections]

theorem Idle.update {f : Connection → Connection}
    (same : ∀ x, s.connections[c]? = some x → (f x).table = x.table) : s.Idle (s.update c f) := by
  refine ⟨fun other => ?_, rfl, rfl, rfl⟩
  rw [table?_update, table?]
  cases here : s.connections[other]? with
  | none => rfl
  | some x =>
    by_cases own : c = other
    · subst own
      simp [same x here]
    · simp [own]

theorem Idle.logs (s : System) (lines : List LogLine) : s.Idle { s with logs := s.logs ++ lines } :=
  .of_same rfl rfl rfl rfl

theorem Idle.log (s : System) (level : Level) (text : String) (fields : List (String × String)) :
    s.Idle (s.log level text fields) :=
  .logs s [⟨level, text, fields⟩]

theorem Idle.sight (s : System) (c : ConnectionId) (moment : Moment) (job : Job) :
    s.Idle (s.sight c moment job) := by
  unfold System.sight
  split <;> exact .of_same rfl rfl rfl rfl

theorem Idle.desk (h : s.Idle s') (c : ConnectionId) : s'.desk c = s.desk c := by
  simp only [System.desk, h.tables, h.tasks, h.files, h.recorded]

theorem Alters.update {f : Connection → Connection} {g : Table → Table}
    (change : ∀ x, s.connections[c]? = some x → (f x).table = g x.table) : s.Alters c g (s.update c f) := by
  refine ⟨?_, fun other different => ?_, rfl, rfl, rfl⟩
  · rw [table?_update, table?]
    cases here : s.connections[c]? with
    | none => rfl
    | some x => simp [change x here]
  · rw [table?_update, table?]
    simp [different.symm]

theorem Alters.after_idle {g : Table → Table} (idle : s.Idle s₁) (h : s₁.Alters c g s') : s.Alters c g s' where
  table := h.table.trans (congrArg _ (idle.tables c))
  others other different := (h.others other different).trans (idle.tables other)
  tasks := h.tasks.trans idle.tasks
  files := h.files.trans idle.files
  recorded := h.recorded.trans idle.recorded

theorem Alters.before_idle {g : Table → Table} (h : s.Alters c g s₁) (idle : s₁.Idle s') : s.Alters c g s' where
  table := (idle.tables c).trans h.table
  others other different := (idle.tables other).trans (h.others other different)
  tasks := idle.tasks.trans h.tasks
  files := idle.files.trans h.files
  recorded := idle.recorded.trans h.recorded

theorem Alters.desk {g : Table → Table} {table : Table} (h : s.Alters c g s') (here : s.table? c = some table) :
    s'.desk c = (s.desk c).setTable (g table) := by
  simp only [System.desk, Desk.setTable, h.table, here, h.tasks, h.files, h.recorded, Option.map_some]

theorem Alters.desk_other {g : Table → Table} (h : s.Alters c g s') (different : other ≠ c) :
    s'.desk other = s.desk other := by
  simp only [System.desk, h.others other different, h.tasks, h.files, h.recorded]

theorem desk_setTask {task : Task} {work : JobId × Handling} (inside : t < s.tasks.length)
    (works : task.work c = some work) : (s.setTask t task).desk c = (s.desk c).setWork t work := by
  ext1 <;> try rfl
  funext u
  simp only [desk, setTask, Desk.setWork, List.getElem?_set]
  by_cases same : u = t
  · subst u
    simp [inside, works]
  · have different : ¬ t = u := fun e => same e.symm
    simp [same, different]

theorem desk_setTask_idle {task task' : Task} (found : s.tasks[t]? = some task)
    (idle : task.work c = none) (idle' : task'.work c = none) : (s.setTask t task').desk c = s.desk c := by
  have inside : t < s.tasks.length := (List.getElem?_eq_some_iff.1 found).1
  ext1 <;> try rfl
  funext u
  by_cases same : u = t
  · subst u
    have before : (s.desk c).work t = none := (work_of_task found).trans idle
    rw [before]
    simp [desk, setTask, inside, idle']
  · have different : ¬ t = u := fun e => same e.symm
    simp [desk, setTask, List.getElem?_set, different]

theorem desk_spawn {task : Task} {work : JobId × Handling} (works : task.work c = some work) :
    (s.spawn task).desk c = (s.desk c).setWork s.tasks.length work := by
  ext1 <;> try rfl
  funext u
  simp only [desk, spawn, Desk.setWork, getElem?_concat]
  split
  · exact works
  · rfl

theorem desk_spawn_idle {task : Task} (idle : task.work c = none) : (s.spawn task).desk c = s.desk c := by
  ext1 <;> try rfl
  funext u
  simp only [desk, spawn, getElem?_concat]
  split
  next last => simp [last, idle]
  · rfl

theorem tell_of_other {l : Desk} {report : Report} (other : report.isRecord = false) (source : ConnectionId)
    (failed : Bool) : l.tell source report failed = l := by
  cases report with
  | record => cases other
  | _ => rfl

theorem not_isRecord_of_isTransition {report : Report} (h : report.isTransition) : report.isRecord = false := by
  cases report with
  | record => cases h
  | _ => rfl

structure Tells (s : System) (errand : Errand) (failed : Bool) (s' : System) : Prop where
  desk : ∀ c, s'.desk c = (s.desk c).tell errand.source errand.report failed
  tables : ∀ c, s'.table? c = s.table? c
  tasks : s'.tasks = s.tasks

theorem Tells.idle {errand : Errand} {failed : Bool} (h : s.Tells errand failed s')
    (other : errand.report.isRecord = false) : s.Idle s' := by
  have same := h.desk 0
  rw [tell_of_other other] at same
  exact ⟨h.tables, h.tasks, congrArg Desk.files same, congrArg Desk.recorded same⟩

theorem Tells.after_idle {errand : Errand} {failed : Bool} (h : s.Tells errand failed s₁) (idle : s₁.Idle s') :
    s.Tells errand failed s' where
  desk c := (idle.desk c).trans (h.desk c)
  tables c := (idle.tables c).trans (h.tables c)
  tasks := idle.tasks.trans h.tasks

theorem commit_tasks (s : System) (report : Report) : (s.commit report).tasks = s.tasks := by
  cases report <;> rfl

theorem commit_connections (s : System) (report : Report) : (s.commit report).connections = s.connections := by
  cases report <;> rfl

theorem commit_reports (s : System) (report : Report) : (s.commit report).reports = s.reports := by
  cases report <;> rfl

theorem commit_files (s : System) (report : Report) : (s.commit report).records.files =
    match report with
    | .record identity file => s.records.files.insert (identity, file.path) file
    | _ => s.records.files := by
  cases report <;> rfl

theorem tells_of_deliver? {errand : Errand} {failure : Option (List String)}
    (h : s.deliver? errand = some (failure, s')) :
    s.Tells errand failure.isSome s' ∧ (failure.isSome → s.collaborators.mayFail errand.report) := by
  unfold deliver? at h
  split at h
  · simp only [deliver, Option.some.injEq, Prod.mk.injEq] at h
    obtain ⟨answer, rfl⟩ := h
    refine ⟨?_, fun failed => ⟨_, by rw [answer]; exact failed⟩⟩
    rw [answer]
    cases failure with
    | none =>
      refine ⟨fun c => ?_, fun c => ?_, commit_tasks ..⟩
      · simp only [desk, table?, Option.isNone_none, if_true, commit_tasks, commit_connections, commit_reports,
          commit_files]
        cases errand.report <;> simp [Desk.tell, Report.isRecord, List.filter_append]
      · simp only [table?, Option.isNone_none, if_true, commit_connections]
    | some causes =>
      refine ⟨fun c => ?_, fun c => rfl, rfl⟩
      cases errand.report <;> simp [desk, table?, Desk.tell, Report.isRecord, List.filter_append]
  · cases h

theorem tells_of_publish? {errand : Errand} {addr : String × String} (h : s.publish? addr errand = some s') :
    ∃ failed, s.Tells errand failed s' := by
  unfold System.publish? at h
  obtain ⟨⟨failure, s₁⟩, delivered, h⟩ := Option.bind_eq_some_iff.1 h
  have told := (tells_of_deliver? delivered).1
  cases failure with
  | none =>
    cases h
    exact ⟨_, told⟩
  | some causes =>
    cases h
    exact ⟨_, told.after_idle (.log _ _ _ _)⟩

end System

end Fleetwire
