import Fleetwire.Proofs.Jobs.Tasks
import Fleetwire.Proofs.Lifecycle.Simulation

namespace Fleetwire

namespace System

variable {s s' s₁ : System} {c : ConnectionId} {t : TaskId}

/-- What happens to a server on which nobody but the handler that every connection has for changed files puts
files on record for the connection `c`. -/
def Keeping (c : ConnectionId) (s : System) : Event → Prop
  | .bind other kind handler => other = c → kind ≠ .configFileChanged ∧ .recordFile ∉ handler.actions
  | event => s.Ordinary event

theorem Keeping.ordinary {event : Event} (h : s.Keeping c event) : s.Ordinary event := by
  cases event with
  | bind => trivial
  | _ => exact h

def Works (c : ConnectionId) (s s' : System) : Prop := (s.desk c).Move s.collaborators.mayFail c (s'.desk c)

theorem Works.of_same (same : s'.desk c = s.desk c) : Works c s s' := by
  rw [Works, same]
  exact .stay

theorem Works.of_idle (idle : s.Idle s') : Works c s s' := .of_same (idle.desk c)

theorem Works.before_same (h : Works c s s₁) (same : s'.desk c = s₁.desk c) : Works c s s' := by
  rw [Works, same]
  exact h

theorem Works.of_alters {other : ConnectionId} {g : Table → Table} (alters : s.Alters other g s')
    (moves : c = other → ∀ table, s.table? c = some table →
      (s.desk c).Move s.collaborators.mayFail c ((s.desk c).setTable (g table))) : Works c s s' := by
  by_cases own : c = other
  · subst own
    cases here : s.table? c with
    | none =>
      have absent : s'.table? c = s.table? c := by rw [alters.table, here, Option.map_none]
      apply Works.of_same
      simp only [System.desk, absent, alters.tasks, alters.files, alters.recorded]
    | some table =>
      rw [Works, alters.desk here]
      exact moves rfl table here
  · exact .of_same (alters.desk_other own)

theorem desk_idle {task task' : Task} (idle : s.Idle s₁) (found : s.tasks[t]? = some task)
    (free : task.work c = none) (free' : task'.work c = none) :
    (s₁.setTask t task').desk c = s.desk c := by
  have found₁ : s₁.tasks[t]? = some task := by
    rw [idle.tasks]
    exact found
  exact (desk_setTask_idle found₁ free free').trans (idle.desk c)

theorem handlers_bind (r : Router) (handlers : List (MessageKind × Handler)) :
    let bound := handlers.foldl (fun r (kind, handler) => r.bind kind handler) r
    bound.handlers = handlers.foldl (fun handlers (kind, handler) => handlers.insert kind handler) r.handlers ∧
      bound.jobs = r.jobs ∧ bound.admitted = r.admitted := by
  induction handlers generalizing r with
  | nil => exact ⟨rfl, rfl, rfl⟩
  | cons handler handlers ih => exact ih _

theorem table_ofSocket? {addr : Endpoint} {settings : Settings} {socket : Socket} {connection : Connection}
    (h : Connection.ofSocket? addr settings socket = some connection) : connection.table = .standing := by
  unfold Connection.ofSocket? at h
  obtain ⟨router, made, h⟩ := Option.bind_eq_some_iff.1 h
  obtain ⟨_, _, h⟩ := Option.bind_eq_some_iff.1 h
  cases h
  unfold Router.ofLimits? at made
  split at made
  · cases made
    obtain ⟨handlers, jobs, admitted⟩ :=
      handlers_bind { workers := max settings.maxConcurrentHandlers 1, backlog := settings.handlerQueueCapacity }
        Connection.standingHandlers
    simp only [Connection.table, Connection.identity?, handlers, jobs, admitted]
    rfl
  · cases made

theorem works_takeOver {addr : Endpoint} {settings : Settings} {socket : Socket} {belongs : Bool}
    (h : s.takeOver? addr settings socket belongs = some s') : Works c s s' := by
  unfold takeOver? at h
  obtain ⟨made, fresh, h⟩ := Option.bind_eq_some_iff.1 h
  have standing := table_ofSocket? fresh
  generalize newEq : { made with belongs, halted := belongs && s.halted } = new at h
  have newTable : new.table = .standing := newEq ▸ standing
  obtain ⟨s₁, added⟩ : ∃ s₁, s₁ = { s with connections := s.connections ++ [new] } := ⟨_, rfl⟩
  have same : s'.desk c = s₁.desk c := by
    cases h
    rw [← added]
    exact (desk_spawn_idle rfl).trans (desk_spawn_idle rfl)
  refine Works.before_same ?_ same
  by_cases own : c = s.connections.length
  · have absent : (s.desk c).table = none := by simp [System.desk, table?, own]
    have arrived : s₁.desk c = (s.desk c).setTable .standing := by
      simp [System.desk, table?, Desk.setTable, added, own, newTable]
    rw [Works, arrived]
    exact .arrive absent
  · apply Works.of_same
    simp [System.desk, table?, added, getElem?_concat, own]

theorem works_accept {other : ConnectionId} {phase : Accepting} {out : Accepting × System} (proper : s.Proper)
    (found : s.tasks[t]? = some (.accept other phase)) (h : out ∈ phase.next s other t) :
    Works c s (out.2.setTask t (.accept other out.1)) := by
  rcases Accepting.next_stirs (proper.tasks t _ found) h with idle | ⟨identity, known⟩
  · exact .of_same (desk_idle idle found rfl rfl)
  · have introduced : Works c s out.2 := by
      refine .of_alters known fun _ table here => ?_
      exact .introduce here identity
    have found₁ : out.2.tasks[t]? = some (.accept other phase) := by
      rw [known.tasks]
      exact found
    exact introduced.before_same (desk_setTask_idle found₁ rfl rfl)

theorem works_supervise {other : ConnectionId} {phase : Supervising} {out : Supervising × System}
    (proper : s.Proper) (found : s.tasks[t]? = some (.supervise other phase))
    (h : out ∈ phase.next s other t) : Works c s (out.2.setTask t (.supervise other out.1)) := by
  cases Supervising.next_stirs (proper.tasks t _ found) h with
  | idle idle => exact .of_same (desk_idle idle found rfl rfl)
  | @enlist s₁ table handler message here bound alters result =>
    have found₁ : out.2.tasks[t]? = some (.supervise other phase) := by
      have inside : t < s.tasks.length := (List.getElem?_eq_some_iff.1 found).1
      rw [result, spawn, alters.tasks, List.getElem?_append_left inside]
      exact found
    refine Works.before_same ?_ (desk_setTask_idle found₁ rfl rfl)
    by_cases own : c = other
    · subst own
      have admitted : out.2.desk c =
          ((s.desk c).setTable (table.enlist { handler, message })).setWork s.tasks.length
            (table.admitted, .admitted) := by
        have works : (Task.handle c table.admitted .admitted).work c = some (table.admitted, .admitted) :=
          if_pos rfl
        rw [result, desk_spawn works, alters.desk here, alters.tasks]
      have free : (s.desk c).work s.tasks.length = none := by simp [System.desk]
      rw [Works, admitted]
      exact .enlist here free bound
    · have unaware : out.2.desk c = s.desk c := by
        have free : (Task.handle other table.admitted .admitted).work c = none :=
          if_neg fun same => own same.symm
        rw [result, desk_spawn_idle free]
        exact alters.desk_other own
      exact .of_same unaware

section Handle

variable {id : JobId} {phase : Handling} {job : Job} {connection : Connection} {out : Handling × System}

theorem works_handle_own (found : s.tasks[t]? = some (.handle c id phase))
    (here : s.connections[c]? = some connection) (admitted : connection.router.jobs.get? id = some job)
    (stirs : Handling.Stirs s c connection.identity? id job phase out) :
    Works c s (out.2.setTask t (.handle c id out.1)) := by
  have there : s.table? c = some connection.table := table?_of_connection here
  have work : (s.desk c).work t = some (id, phase) := (work_of_task found).trans (if_pos rfl)
  have inside : t < s.tasks.length := (List.getElem?_eq_some_iff.1 found).1
  have advance : ∀ {s₁ : System} (phase' : Handling), s₁.tasks = s.tasks →
      (s₁.setTask t (.handle c id phase')).desk c = (s₁.desk c).setWork t (id, phase') := by
    intro s₁ phase' tasks
    exact desk_setTask (tasks ▸ inside) (if_pos rfl)
  cases stirs with
  | go goes idle =>
    rw [Works, advance _ idle.tasks, idle.desk]
    exact .go there work admitted goes
  | finish ends alters =>
    rw [Works, advance _ alters.tasks, alters.desk there]
    exact .finish there work admitted ends
  | record told plain =>
    rw [Works, advance _ told.tasks, told.desk]
    exact .record work plain
  | report told =>
    rw [Works, advance _ told.tasks, told.desk]
    exact .report work _
  | lose told excused alters =>
    have there₁ := (told.tables c).trans there
    rw [Works, advance _ (alters.tasks.trans told.tasks), alters.desk there₁, told.desk]
    exact .lose there work excused

theorem works_handle_other {other : ConnectionId} (different : c ≠ other) (proper : s.Proper)
    (found : s.tasks[t]? = some (.handle other id phase))
    (stirs : Handling.Stirs s other connection.identity? id job phase out) :
    Works c s (out.2.setTask t (.handle other id out.1)) := by
  have free : ∀ phase, (Task.handle other id phase).work c = none :=
    fun _ => if_neg fun same => different same.symm
  have leave : ∀ {s₁ : System} (phase' : Handling), s₁.tasks = s.tasks →
      (s₁.setTask t (.handle other id phase')).desk c = s₁.desk c := by
    intro s₁ phase' tasks
    exact desk_setTask_idle (tasks ▸ found) (free _) (free _)
  have elsewhere : ∀ {errand : Errand} {failed : Bool} {s₁ : System},
      (Task.handle other id phase).errand? = some (other, errand, false) → s.Tells errand failed s₁ →
      Works c s s₁ := by
    intro errand failed s₁ underWay told
    have source := ((proper.tasks t _ found).errands other errand false underWay).1
    rw [Works, told.desk]
    exact .elsewhere (fun same => different (same.symm.trans source)) _ _
  cases stirs with
  | go goes idle => exact .of_same (desk_idle idle found (free _) (free _))
  | finish ends alters => exact .of_same ((leave _ alters.tasks).trans (alters.desk_other different))
  | record told | report told => exact (elsewhere rfl told).before_same (leave _ told.tasks)
  | lose told excused alters =>
    have left := leave .finished (alters.tasks.trans told.tasks)
    exact (elsewhere rfl told).before_same (left.trans (alters.desk_other different))

theorem works_handle {other : ConnectionId} (proper : s.Proper)
    (found : s.tasks[t]? = some (.handle other id phase)) (h : out ∈ phase.next s other t id) :
    Works c s (out.2.setTask t (.handle other id out.1)) := by
  obtain ⟨connection, job, here, admitted, stirs⟩ := Handling.next_stirs h
  by_cases own : c = other
  · subst own
    exact works_handle_own found here admitted stirs
  · exact works_handle_other own proper found stirs

end Handle

theorem idle_haltAll (s : System) : s.Idle s.haltAll := by
  refine ⟨fun c => ?_, rfl, rfl, rfl⟩
  simp only [table?, haltAll, List.getElem?_map, Option.map_map]
  rfl

theorem works_listen {phase : Listening} {out : Listening × System}
    (found : s.tasks[t]? = some (.listen phase)) (h : out ∈ phase.next s) :
    Works c s (out.2.setTask t (.listen out.1)) := by
  have idle : s.Idle out.2 → Works c s (out.2.setTask t (.listen out.1)) :=
    fun idle => .of_same (desk_idle idle found rfl rfl)
  cases phase with
  | accepting =>
    rcases List.mem_append.1 h with stops | accepts
    · split at stops
      · cases List.mem_singleton.1 stops
        exact idle (.refl s)
      · cases stops
    · split at accepts
      · cases accepts
      next addr settings socket arrivals _ =>
        rw [List.mem_singleton.1 accepts] at idle ⊢
        have taken : s.Idle { s with arrivals } := .of_same rfl rfl rfl rfl
        dsimp only at idle ⊢
        cases arrived : ({ s with arrivals } : System).takeOver? addr settings socket true with
        | none =>
          rw [arrived] at idle
          exact idle taken
        | some s' =>
          have came : Works c s s' := by
            have works : Works c { s with arrivals } s' := works_takeOver arrived
            rw [Works, taken.desk] at works
            exact works
          have found' : s'.tasks[t]? = some (.listen .accepting) :=
            (takeOver?_arrives arrived).1.tasks t _ found
          exact came.before_same (desk_setTask_idle found' rfl rfl)
  | snapshot =>
    cases List.mem_singleton.1 h
    exact idle (.refl s)
  | halt agents =>
    cases List.mem_singleton.1 h
    exact idle (idle_haltAll s)
  | closing agents closing =>
    cases agents with
    | nil =>
      cases List.mem_singleton.1 h
      exact idle (.refl s)
    | cons agent agents =>
      obtain ⟨⟨progress, s₁⟩, closed, rfl⟩ := List.mem_map.1 h
      have closes : s.Idle s₁ := Closing.next_idle closed
      cases progress <;> exact idle closes
  | finished => cases h

theorem next_works (proper : s.Proper) (h : s' ∈ s.next t) : Works c s s' := by
  unfold next at h
  split at h
  · cases h
  next other phase found =>
    obtain ⟨⟨phase', s₁⟩, acted, rfl⟩ := List.mem_map.1 h
    exact works_accept proper found acted
  next other phase found =>
    obtain ⟨⟨phase', s₁⟩, acted, rfl⟩ := List.mem_map.1 h
    exact works_supervise proper found acted
  next other job phase found =>
    obtain ⟨⟨phase', s₁⟩, acted, rfl⟩ := List.mem_map.1 h
    exact works_handle proper found acted
  next other phase found =>
    obtain ⟨⟨phase', s₁⟩, acted, rfl⟩ := List.mem_map.1 h
    exact .of_same (desk_idle (Operating.next_idle acted) found rfl rfl)
  next phase found =>
    obtain ⟨⟨phase', s₁⟩, acted, rfl⟩ := List.mem_map.1 h
    exact works_listen found acted

theorem abort_works (t : TaskId) : Works c s (s.abort t) := by
  unfold abort
  split
  next other result found => exact .of_same (desk_idle (.refl s) found rfl rfl)
  next other operation _ found => exact .of_same (desk_idle (Operating.abort_idle operation) found rfl rfl)
  · exact .of_same rfl

theorem react_works {event : Event} (h : s.Keeping c event) : Works c s (s.react event) := by
  have socket : ∀ (c' : ConnectionId) (f : Socket → Socket), Works c s (s.changeSocket c' f) :=
    fun c' f => .of_idle (idle_update_same (fun _ => rfl) fun _ => rfl)
  cases event with
  | takeOver addr settings socket belongs =>
    simp only [react]
    cases taken : s.takeOver? addr settings socket belongs with
    | none => exact .of_same rfl
    | some s' => exact works_takeOver taken
  | operate other operation => exact .of_same (desk_spawn_idle rfl)
  | abort t => exact abort_works t
  | bind other kind handler =>
    have bound : s.Alters other (fun table => { table with handlers := table.handlers.insert kind handler })
        (s.react (.bind other kind handler)) := .update fun _ _ => rfl
    refine .of_alters bound fun own table here => ?_
    obtain ⟨different, plain⟩ := h own.symm
    exact .bind here different plain
  | arrive | release | elapse | stop => exact .of_idle (.of_same rfl rfl rfl rfl)
  | halt => exact .of_idle (idle_haltAll s)
  | unregister identity => exact h.elim
  | peerWrites c' bytes | peerEnds c' | peerReads c' count | peerLeaves c' =>
    dsimp only [react]
    exact socket c' _

theorem Step.works (proper : s.Proper) (h : Step (Keeping c) s s') : Works c s s' := by
  cases h with
  | act t h => exact next_works proper h
  | react event h => exact react_works h

variable {past : List System}

theorem Run.desks (h : Run (Keeping c) (s :: past)) :
    Desk.Course s.collaborators.mayFail c ((s :: past).map (desk c)) := by
  generalize states : s :: past = all at h
  induction h generalizing s past with
  | start initial =>
    obtain ⟨rfl, _⟩ := List.cons.inj states
    refine .start ?_ (fun t => ?_) ?_
    · simp [desk, table?, initial.connections]
    · simp only [desk]
      cases found : s.tasks[t]? with
      | none => rfl
      | some task =>
        rw [initial.tasks task (List.mem_of_getElem? found)]
        rfl
    · simp [desk, initial.records]
  | @step former latter earlier run step ih =>
    cases states
    have ordinary : Run Ordinary (former :: earlier) := run.mono fun _ _ => Keeping.ordinary
    have proper := ordinary.proper former (List.mem_cons_self ..)
    have course := ih rfl
    have stepped : Step Ordinary former latter := step.mono fun _ _ => Keeping.ordinary
    rw [(stepped.proceeds proper).collaborators]
    exact .move course (step.works proper)

end System

end Fleetwire
