import Fleetwire.Proofs.Actions
import Fleetwire.Proofs.Lifecycle.Served

namespace Fleetwire

namespace System

variable {s s' s'' : System}

/-- What is proper stays so, and no task is lost. -/
structure Keeps (s s' : System) : Prop where
  collaborators : s'.collaborators = s.collaborators
  serves : s.Serves s'
  tasks : ∀ (t : TaskId) (task : Task), s.tasks[t]? = some task → s'.tasks[t]? = some task
  proper : s.Proper → s'.Proper

theorem Keeps.refl (s : System) : s.Keeps s := ⟨rfl, fun _ h => h, fun _ _ h => h, fun h => h⟩

theorem Keeps.trans (h : s.Keeps s') (h' : s'.Keeps s'') : s.Keeps s'' where
  collaborators := h'.collaborators.trans h.collaborators
  serves c served := h'.serves c (h.serves c served)
  tasks t task found := h'.tasks t task (h.tasks t task found)
  proper p := h'.proper (h.proper p)

theorem Keeps.of_same (collaborators : s'.collaborators = s.collaborators)
    (connections : s'.connections = s.connections) (tasks : s'.tasks = s.tasks)
    (entries : ∀ identity c, s'.directory.get? identity = some c →
      s.directory.get? identity = some c ∨ s.serves c) : s.Keeps s' := by
  have serves : s.Serves s' := by
    intro c served
    rw [System.serves, connections]
    exact served
  refine ⟨collaborators, serves, fun t task found => by rw [tasks]; exact found, fun p => ?_⟩
  constructor
  · intro t task found
    rw [tasks] at found
    exact (p.tasks t task found).mono serves
  · intro identity c entry
    rcases entries identity c entry with old | new
    · exact serves c (p.entries identity c old)
    · exact serves c new
  · intro c x found
    rw [connections] at found
    exact p.answers c x found

theorem Keeps.update {c : ConnectionId} {f : Connection → Connection}
    (supervised : ∀ x, x.supervised = true → (f x).supervised = true)
    (answers : ∀ x, s.connections[c]? = some x → (f x).supervised = false → x.router.Unanswered →
      (f x).router.Unanswered) : s.Keeps (s.update c f) := by
  have serves : s.Serves (s.update c f) := by
    intro other served
    obtain ⟨x, found, isServed⟩ := serves_iff.1 served
    simp only [serves_iff, System.update, List.getElem?_modify, found]
    by_cases same : c = other
    · exact ⟨f x, by simp [same], supervised x isServed⟩
    · exact ⟨x, by simp [same], isServed⟩
  refine ⟨rfl, serves, fun t task found => found, fun p => ?_⟩
  refine ⟨fun t task found => (p.tasks t task found).mono serves,
    fun identity c entry => serves c (p.entries identity c entry), fun other y found unserved => ?_⟩
  simp only [System.update, List.getElem?_modify] at found
  obtain ⟨x, old, now⟩ := Option.map_eq_some_iff.1 found
  by_cases same : c = other
  · simp only [same, if_true] at now
    subst now
    have before : x.supervised = false := by
      cases served : x.supervised with
      | false => rfl
      | true => exact (supervised x served).symm.trans unserved
    exact answers x (same ▸ old) unserved (p.answers other x old before)
  · simp only [same, if_false] at now
    subst now
    exact p.answers other x old unserved

theorem Proper.setTask {t : TaskId} {task : Task} (p : s.Proper) (proper : task.Proper s) :
    (s.setTask t task).Proper := by
  refine ⟨fun other task' found => ?_, p.entries, p.answers⟩
  have served : s.Serves (s.setTask t task) := fun _ h => h
  simp only [System.setTask, List.getElem?_set] at found
  split at found
  · split at found
    · cases found
      exact proper.mono served
    · cases found
  · exact (p.tasks other task' found).mono served

theorem Keeps.spawn {task : Task} (proper : task.Proper s) : s.Keeps (s.spawn task) := by
  have served : s.Serves (s.spawn task) := fun _ h => h
  have tasks : ∀ (t : TaskId) (task' : Task), s.tasks[t]? = some task' →
      (s.spawn task).tasks[t]? = some task' := by
    intro t task' found
    have inside := (List.getElem?_eq_some_iff.1 found).1
    simpa [System.spawn, List.getElem?_append_left inside] using found
  refine ⟨rfl, served, tasks, fun p => ⟨fun t task' found => ?_, p.entries, p.answers⟩⟩
  simp only [System.spawn, getElem?_concat] at found
  split at found
  · cases found
    exact proper.mono served
  · exact (p.tasks t task' found).mono served

theorem Keeps.addConnection {connection : Connection} (unanswered : connection.router.Unanswered) :
    s.Keeps { s with connections := s.connections ++ [connection] } := by
  have serves : s.Serves { s with connections := s.connections ++ [connection] } := by
    intro c served
    obtain ⟨x, found, supervised⟩ := serves_iff.1 served
    have inside := (List.getElem?_eq_some_iff.1 found).1
    exact serves_iff.2 ⟨x, (List.getElem?_append_left inside).trans found, supervised⟩
  refine ⟨rfl, serves, fun t task found => found, fun p => ?_⟩
  refine ⟨fun t task found => (p.tasks t task found).mono serves,
    fun identity c entry => serves c (p.entries identity c entry), fun c x found unserved => ?_⟩
  rw [getElem?_concat] at found
  split at found
  · cases found
    exact unanswered
  · exact p.answers c x found unserved

structure Quiet (s s' : System) : Prop extends Keeps s s' where
  lifecycle : s'.lifecycle = s.lifecycle

theorem Quiet.refl (s : System) : s.Quiet s := ⟨Keeps.refl s, rfl⟩

theorem Quiet.trans (h : s.Quiet s') (h' : s'.Quiet s'') : s.Quiet s'' :=
  ⟨h.toKeeps.trans h'.toKeeps, h'.lifecycle.trans h.lifecycle⟩

theorem Quiet.connection (h : s.Quiet s') {c : ConnectionId} {connection : Connection}
    (here : s.connections[c]? = some connection) : ∃ now, s'.connections[c]? = some now := by
  have life := life_of_connection here
  rw [← h.lifecycle] at life
  obtain ⟨now, found, _⟩ := Option.map_eq_some_iff.1 life
  exact ⟨now, found⟩

theorem Quiet.of_sameLives (collaborators : s'.collaborators = s.collaborators)
    (same : SameLives s s') : s.Quiet s' :=
  ⟨Keeps.of_same collaborators same.connections same.tasks fun identity c entry => by
    rw [same.directory] at entry
    exact Or.inl entry, same.lifecycle⟩

theorem Quiet.update {c : ConnectionId} {f : Connection → Connection}
    (life : ∀ x, (f x).life = x.life) (supervised : ∀ x, (f x).supervised = x.supervised)
    (answers : ∀ x, s.connections[c]? = some x → (f x).supervised = false → x.router.Unanswered →
      (f x).router.Unanswered) : s.Quiet (s.update c f) :=
  ⟨Keeps.update (fun x h => (supervised x).trans h) answers, lifecycle_update_same life⟩

theorem Quiet.logs (s : System) (lines : List LogLine) : s.Quiet { s with logs := s.logs ++ lines } :=
  Quiet.of_sameLives rfl ⟨rfl, rfl, rfl, rfl, rfl⟩

theorem Quiet.log (s : System) (level : Level) (text : String) (fields : List (String × String)) :
    s.Quiet (s.log level text fields) :=
  Quiet.logs s [⟨level, text, fields⟩]

theorem Quiet.sight (s : System) (c : ConnectionId) (moment : Moment) (job : Job) :
    s.Quiet (s.sight c moment job) := by
  unfold System.sight
  split <;> exact Quiet.of_sameLives rfl ⟨rfl, rfl, rfl, rfl, rfl⟩

theorem Keeps.deliver (s : System) (c : ConnectionId) (report : Report) :
    s.Keeps (s.deliver c report).2 := by
  have same : ∀ s' : System, s.Keeps s' → s.Keeps (s'.commit report) := by
    intro s' h
    refine h.trans ?_
    cases report <;> exact Keeps.of_same rfl rfl rfl fun _ _ entry => Or.inl entry
  unfold System.deliver
  dsimp only
  split
  · exact same _ (Keeps.of_same rfl rfl rfl fun _ _ entry => Or.inl entry)
  · exact Keeps.of_same rfl rfl rfl fun _ _ entry => Or.inl entry

theorem deliver?_tells {errand : Errand} {failure : Option (List String)}
    (transition : errand.report.isTransition) (h : s.deliver? errand = some (failure, s')) :
    s.Keeps s' ∧ s'.lifecycle = s.lifecycle.tell errand.source errand.report failure.isSome ∧
      (failure.isSome → s.collaborators.mayFail errand.report) := by
  unfold System.deliver? at h
  split at h
  · have told := lifecycle_deliver_transition (s := s) (c := errand.source) transition
    cases h
    exact ⟨Keeps.deliver _ _ _, told, fun failed => ⟨_, failed⟩⟩
  · cases h

theorem publish?_tells {errand : Errand} {addr : String × String}
    (transition : errand.report.isTransition) (h : s.publish? addr errand = some s') :
    ∃ failed : Bool, s.Keeps s' ∧
      s'.lifecycle = s.lifecycle.tell errand.source errand.report failed ∧
      (failed → s.collaborators.mayFail errand.report) := by
  unfold System.publish? at h
  obtain ⟨⟨failure, s₁⟩, delivered, h⟩ := Option.bind_eq_some_iff.1 h
  obtain ⟨keeps, told, excused⟩ := deliver?_tells transition delivered
  refine ⟨failure.isSome, ?_, ?_, excused⟩
  · cases failure with
    | none => cases h; exact keeps
    | some causes => cases h; exact keeps.trans (Quiet.log ..).toKeeps
  · cases failure with
    | none => cases h; exact told
    | some causes => cases h; exact (Quiet.log ..).lifecycle.trans told

theorem Quiet.deliver? {errand : Errand} {failure : Option (List String)}
    (other : errand.report.isTransition = false) (h : s.deliver? errand = some (failure, s')) :
    s.Quiet s' := by
  unfold System.deliver? at h
  split at h
  · cases h
    exact ⟨Keeps.deliver _ _ _, lifecycle_deliver_other other⟩
  · cases h

theorem Quiet.publish? {errand : Errand} {addr : String × String}
    (other : errand.report.isTransition = false) (h : s.publish? addr errand = some s') :
    s.Quiet s' := by
  unfold System.publish? at h
  obtain ⟨⟨failure, s₁⟩, delivered, h⟩ := Option.bind_eq_some_iff.1 h
  have quiet := Quiet.deliver? other delivered
  cases failure with
  | none => cases h; exact quiet
  | some causes => cases h; exact quiet.trans (Quiet.log ..)

end System

open Fleetwire.System

variable {s : System} {c : ConnectionId} {t : TaskId}

theorem quiet_update_exchange {f : Connection → Connection}
    (life : ∀ x, (f x).life = x.life) (supervised : ∀ x, (f x).supervised = x.supervised)
    (answers : ∀ x, s.connections[c]? = some x → x.router.Unanswered → (f x).router.Unanswered) :
    s.Quiet (s.update c f) :=
  Quiet.update life supervised fun x found _ => answers x found

theorem Sending.next_quiet {message : Message} {phase : Sending}
    {out : Progress Sending (Except LinkError Unit) × System}
    (h : out ∈ phase.next s c t message) : s.Quiet out.2 := by
  cases action_of_next h with
  | closed | tooLarge | check => exact Quiet.refl s
  | queue | accept | giveUp => exact quiet_update_exchange (fun _ => rfl) (fun _ => rfl) fun _ _ h => h

namespace Call

theorem giveUp_quiet (slot : SlotId) : s.Quiet (giveUp s c t slot) :=
  quiet_update_exchange (fun _ => rfl) (fun _ => rfl) fun _ _ h => h.abandon slot

theorem next_quiet {call : Call} {out : Progress Calling (Except LinkError Bytes) × System}
    (h : out ∈ call.next s c t) : s.Quiet out.2 := by
  obtain ⟨connection, found, action⟩ := action_of_next h
  have forgotten (id : MessageId) : s.Quiet (s.update c fun x => { x with router := (x.router.cancel id).2 }) :=
    quiet_update_exchange (fun _ => rfl) (fun _ => rfl) fun _ _ h => h.cancel _
  cases action with
  | register =>
    have registered : s.Quiet (s.update c fun x =>
        { x with router := (connection.router.expect (.fresh s.nextId)).2 }) := by
      refine quiet_update_exchange (fun _ => rfl) (fun _ => rfl) fun x here unanswered => ?_
      rw [found] at here
      cases here
      exact unanswered.expect _
    exact registered.trans (Quiet.of_sameLives rfl ⟨rfl, rfl, rfl, rfl, rfl⟩)
  | send _ sends | sent _ sends => exact Sending.next_quiet sends
  | unsent _ sends =>
    have quiet := Sending.next_quiet sends
    exact quiet.trans (giveUp_quiet _)
  | expire | expireWaiting => exact giveUp_quiet _
  | answer | lose => exact Quiet.refl s
  | forget => exact forgotten _
  | forgetLate => exact (forgotten _).trans (Quiet.logs _ [_])

theorem next_ok {call : Call} {payload : Bytes} {s' : System} (proper : s.Proper)
    (h : (.ended (.ok payload), s') ∈ call.next s c t) : s.serves c := by
  obtain ⟨connection, found, action⟩ := action_of_next h
  generalize result : (Progress.ended (Except.ok payload), s') = out at action
  cases action with
  | @answer _ response slot _ _ filled =>
    rw [serves_iff]
    cases served : connection.supervised with
    | true => exact ⟨connection, found, served⟩
    | false => exact absurd filled (proper.answers c connection found served slot response)
  | _ => cases result

end Call

theorem Closing.next_quiet {phase : Closing} {out : Progress Closing Unit × System}
    (served : s.serves c) (waits : phase.waits) (h : out ∈ phase.next s c) :
    s.Quiet out.2 ∧ ∀ closing, out.1 = .going closing → closing.waits := by
  obtain ⟨connection, found, supervised⟩ := serves_iff.1 served
  cases action_of_next h with
  | halt =>
    refine ⟨quiet_update_exchange (fun _ => rfl) (fun _ => rfl) fun _ _ h => h, fun closing now => ?_⟩
    cases now
    rfl
  | look here =>
    cases found.symm.trans here
    rw [if_pos supervised]
    exact ⟨Quiet.refl s, fun closing now => by cases now; rfl⟩
  | wait => exact ⟨Quiet.refl s, nofun⟩
  | forgo | claim | failAll | publish => cases waits

end Fleetwire
