import Fleetwire.Proofs.Lifecycle
import Fleetwire.System.Step

namespace Fleetwire

def Connection.life (connection : Connection) : Life where
  addr := connection.addr
  policy := connection.settings.duplicateIdentity
  announced := connection.announced
  stage := connection.stage
  closed := connection.closed
  lock := connection.lifecycle

def Verdict.entered : Verdict → Bool
  | admitted _ => true
  | gone | refused => false

def Accepting.stance : Accepting → Entering
  | handshake _ => .greeting
  | queueLifecycle => .queueLifecycle
  | awaitLifecycle => .awaitLifecycle
  | queueIdentity => .queueIdentity
  | awaitIdentity => .awaitIdentity
  | marking _ errand => .marking errand.report
  | announcing _ errand => .announcing errand.report
  | activate _ => .activating
  | releaseIdentity verdict => .releaseIdentity verdict.entered
  | releaseLifecycle verdict => .releaseLifecycle verdict.entered
  | refuse _ .failAll | refuse _ .publish => .closing
  | refuse _ _ | finished (.error _) => .failed
  | replace _ _ | finished (.ok _) => .admitted

def Supervising.stance : Supervising → Leaving
  | spawned | serving | leaving _ | claim => .serving
  | halt | failAll | queueLifecycle _ => .closing
  | awaitLifecycle _ => .awaitLifecycle
  | awaitIdentity _ identity => .awaitIdentity identity
  | marking _ identity errand => .marking identity errand.report
  | announcing _ identity errand => .announcing identity errand.report
  | releaseIdentity _ identity _ => .releaseIdentity identity
  | releaseLifecycle _ _ => .releaseLifecycle
  | farewell _ _ | publish => .released
  | finished => .finished

def Task.duty : Task → Duty
  | accept c phase => .accept c phase.stance
  | supervise c phase => .supervise c phase.stance
  | handle _ _ _ | operate _ _ | listen _ => .none

def Collaborators.mayFail (collaborators : Collaborators) (report : Report) : Prop :=
  ∃ count, (collaborators.failure count report).isSome

namespace System

def lifecycle (s : System) : Lifecycle where
  entry := s.directory.get?
  line := s.directory.transition
  presence := s.records.presence?
  told := s.reports.filter fun told => told.2.isTransition
  life c := (s.connections[c]?).map Connection.life
  duty t := ((s.tasks[t]?).map Task.duty).getD .none

structure SameLives (s s' : System) : Prop where
  directory : s'.directory = s.directory
  records : s'.records = s.records
  reports : s'.reports = s.reports
  connections : s'.connections = s.connections
  tasks : s'.tasks = s.tasks

theorem SameLives.lifecycle {s s' : System} (h : SameLives s s') : s'.lifecycle = s.lifecycle := by
  obtain ⟨directory, records, reports, connections, tasks⟩ := h
  simp only [System.lifecycle, directory, records, reports, connections, tasks]

theorem duty_of_task {s : System} {t : TaskId} {task : Task} (h : s.tasks[t]? = some task) :
    s.lifecycle.duty t = task.duty := by
  simp [lifecycle, h]

theorem life_of_connection {s : System} {c : ConnectionId} {connection : Connection}
    (h : s.connections[c]? = some connection) : s.lifecycle.life c = some connection.life := by
  simp [lifecycle, h]

theorem lifecycle_update {s : System} {c : ConnectionId} {connection : Connection}
    {f : Connection → Connection} (h : s.connections[c]? = some connection) :
    (s.update c f).lifecycle = s.lifecycle.setLife c (f connection).life := by
  ext1 <;> try rfl
  funext other
  simp only [lifecycle, update, Lifecycle.setLife, List.getElem?_modify]
  by_cases same : other = c
  · subst other
    simp [h]
  · have different : ¬ c = other := fun e => same e.symm
    cases s.connections[other]? <;> simp [same, different]

theorem lifecycle_update_same {s : System} {c : ConnectionId} {f : Connection → Connection}
    (h : ∀ x, (f x).life = x.life) : (s.update c f).lifecycle = s.lifecycle := by
  cases found : s.connections[c]? with
  | none =>
    rw [System.update, List.modify_eq_self (List.getElem?_eq_none_iff.1 found)]
  | some connection =>
    rw [lifecycle_update found, h, Lifecycle.setLife_of_life (life_of_connection found)]

theorem lifecycle_setTask {s : System} {t : TaskId} {task task' : Task}
    (h : s.tasks[t]? = some task) :
    (s.setTask t task').lifecycle = s.lifecycle.setDuty t task'.duty := by
  ext1 <;> try rfl
  funext other
  have inside : t < s.tasks.length := (List.getElem?_eq_some_iff.1 h).1
  simp only [lifecycle, setTask, Lifecycle.setDuty, List.getElem?_set]
  by_cases same : other = t
  · subst other
    simp [inside]
  · have different : ¬ t = other := fun e => same e.symm
    simp [same, different]

theorem getElem?_concat {α : Type} (items : List α) (item : α) (i : Nat) :
    (items ++ [item])[i]? = if i = items.length then some item else items[i]? := by
  rcases Nat.lt_trichotomy i items.length with less | same | more
  · rw [List.getElem?_append_left less, if_neg (Nat.ne_of_lt less)]
  · rw [same, List.getElem?_concat_length, if_pos rfl]
  · have absent : items[i]? = none := List.getElem?_eq_none (Nat.le_of_lt more)
    rw [if_neg (Nat.ne_of_gt more), absent]
    exact List.getElem?_eq_none (by simpa using Nat.succ_le_of_lt more)

theorem lifecycle_spawn {s : System} {task : Task} :
    (s.spawn task).lifecycle = s.lifecycle.setDuty s.tasks.length task.duty := by
  ext1 <;> try rfl
  funext other
  simp only [lifecycle, spawn, Lifecycle.setDuty, getElem?_concat]
  split <;> rfl

theorem lifecycle_addConnection {s : System} {connection : Connection} :
    ({ s with connections := s.connections ++ [connection] } : System).lifecycle =
      s.lifecycle.setLife s.connections.length connection.life := by
  ext1 <;> try rfl
  funext other
  simp only [lifecycle, Lifecycle.setLife, getElem?_concat]
  split <;> rfl

theorem lifecycle_spawn_none {s : System} {task : Task} (h : task.duty = .none) :
    (s.spawn task).lifecycle = s.lifecycle := by
  rw [lifecycle_spawn, h, Lifecycle.setDuty_of_duty]
  simp [lifecycle]

theorem lifecycle_queueIdentity {s : System} {identity : String} {t : TaskId} :
    (s.queueIdentity identity t).lifecycle = s.lifecycle.changeLine identity (·.join t) := by
  ext1 <;> try rfl
  funext other
  simp only [lifecycle, queueIdentity, Lifecycle.changeLine, Directory.transition_joinTransition]
  split
  next same => rw [same]
  next => rfl

theorem lifecycle_releaseIdentity {s : System} {identity : String} {t : TaskId} :
    (s.releaseIdentity identity t).lifecycle = s.lifecycle.changeLine identity (·.leave t) := by
  ext1 <;> try rfl
  funext other
  simp only [lifecycle, releaseIdentity, Lifecycle.changeLine, Directory.transition_leaveTransition]
  split
  next same => rw [same]
  next => rfl

theorem lifecycle_put {s : System} {identity : String} {c : ConnectionId} :
    ({ s with directory := (s.directory.put identity c).2 } : System).lifecycle =
      s.lifecycle.setEntry identity (some c) := by
  ext1 <;> try rfl
  funext other
  exact Directory.get?_put ..

theorem lifecycle_remove {s : System} {identity : String} :
    ({ s with directory := (s.directory.remove identity).2 } : System).lifecycle =
      s.lifecycle.setEntry identity none := by
  ext1 <;> try rfl
  funext other
  exact Directory.get?_remove ..

theorem connections_sight (s : System) (c : ConnectionId) (moment : Moment) (job : Job) :
    (s.sight c moment job).connections = s.connections := by
  unfold sight
  split <;> rfl

theorem connections_deliver? {s s' : System} {errand : Errand} {failure : Option (List String)}
    (h : s.deliver? errand = some (failure, s')) : s'.connections = s.connections := by
  unfold deliver? at h
  split at h
  · have result := congrArg (fun out => out.2.connections) (Option.some.inj h)
    rw [← result]
    unfold deliver
    dsimp only
    split
    · cases errand.report <;> rfl
    · rfl
  · cases h

theorem lifecycle_deliver_transition {s : System} {c : ConnectionId} {report : Report}
    (h : report.isTransition) :
    (s.deliver c report).2.lifecycle =
      s.lifecycle.tell c report (s.deliver c report).1.isSome := by
  unfold deliver
  generalize s.collaborators.failure s.reports.length report = failure
  ext1
  case told => cases failure <;> cases report <;> simp_all [lifecycle, Lifecycle.tell, commit]
  case presence =>
    funext identity
    cases failure <;> cases report <;>
      simp_all [lifecycle, Lifecycle.tell, Lifecycle.presenceAfter, commit, Report.isTransition,
        MachineRecords.presence?_markOnline, MachineRecords.presence?_markOffline]
  all_goals cases failure <;> cases report <;> rfl

theorem lifecycle_deliver_other {s : System} {c : ConnectionId} {report : Report}
    (h : report.isTransition = false) : (s.deliver c report).2.lifecycle = s.lifecycle := by
  unfold deliver
  generalize s.collaborators.failure s.reports.length report = failure
  ext1
  case told => cases failure <;> cases report <;> simp_all [lifecycle, commit]
  case presence => cases failure <;> cases report <;> simp_all [Report.isTransition] <;> rfl
  all_goals cases failure <;> cases report <;> rfl

end System

end Fleetwire
