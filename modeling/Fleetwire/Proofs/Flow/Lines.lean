import Fleetwire.Proofs.Flow.Senders

namespace Fleetwire

/-- The one task is the other one, at a later phase. Who asks its peer something goes on with the same question. -/
inductive Task.Akin : Task → Task → Prop where
  | accept {c : ConnectionId} {phase phase' : Accepting}
    (asks : ∀ later, phase' = .handshake later →
      ∃ call, phase = .handshake call ∧ later.kind = call.kind ∧ later.payload = call.payload) :
    Akin (.accept c phase) (.accept c phase')
  | supervise {c : ConnectionId} {phase phase' : Supervising} : Akin (.supervise c phase) (.supervise c phase')
  | handle {c : ConnectionId} {id : JobId} {phase phase' : Handling} :
    Akin (.handle c id phase) (.handle c id phase')
  | operate {c : ConnectionId} {phase phase' : Operating} : Akin (.operate c phase) (.operate c phase')
  | listen {phase phase' : Listening} : Akin (.listen phase) (.listen phase')

namespace Accepting

variable {s : System} {c : ConnectionId} {t : TaskId} {connection : Connection} {phase : Accepting}
  {out : Accepting × System}

theorem asks_of_next (h : out ∈ phase.next s c t) (later : Call) (same : out.1 = .handshake later) :
    ∃ call, phase = .handshake call ∧ later.kind = call.kind ∧ later.payload = call.payload := by
  obtain ⟨connection, _, action⟩ := action_of_next h
  cases action with
  | @ask call =>
    cases same
    exact ⟨call, rfl, rfl, rfl⟩
  | introduce =>
    simp only [introduce] at same
    split at same <;> cases same
  | awaitLifecycle =>
    dsimp only at same
    split at same <;> cases same
  | enter =>
    simp only [enter] at same
    split at same
    · cases same
    · split at same <;> cases same
  | conclude =>
    unfold conclude at same
    split at same <;> cases same
  | _ => cases same

end Accepting

namespace System

variable {s s' s₁ : System} {c : ConnectionId} {t u : TaskId} {task task' : Task}

structure Introductory (call : Call) : Prop where
  kind : call.kind = .agentInfo
  payload : call.payload = Message.emptyPayload

inductive Begins (s s' : System) : List Task → Prop where
  | nothing : Begins s s' []
  | job {c : ConnectionId} {id : JobId} (begins : s.BeginsJob c s') : Begins s s' [.handle c id .admitted]
  | connection {call : Call} (new : call.phase = .register) (asks : Introductory call) :
    Begins s s' [.accept s.connections.length (.handshake call), .supervise s.connections.length .spawned]

theorem Begins.idle {new : List Task} (begins : s.Begins s' new) (other : Task) (member : other ∈ new)
    (c : ConnectionId) : ¬ (other.station c).InLine := by
  have idle {p : Station} (idle : ¬ p.InLine) (own : ConnectionId) : ¬ (if own = c then p else .none).InLine := by
    split
    · exact idle
    · exact id
  cases begins with
  | nothing => cases member
  | job =>
    rw [List.mem_singleton.1 member]
    exact idle id _
  | @connection call new _ =>
    rcases List.mem_cons.1 member with rfl | member
    · refine idle (fun waits => ?_) _
      rw [Accepting.station, new] at waits
      exact waits
    · rw [List.mem_singleton.1 member]
      exact idle id _

structure Turns (s : System) (t : TaskId) (task : Task) (s₁ : System) (task' : Task) : Prop where
  akin : task.Akin task'
  own : ∀ c, (t ∈ s.line c ↔ (task.station c).InLine) → (t ∈ s₁.line c ↔ (task'.station c).InLine)
  others : ∀ c u, u ≠ t → (u ∈ s₁.line c ↔ u ∈ s.line c)
  begins : ∃ new, s.Begins s₁ new ∧ s₁.tasks = s.tasks ++ new

theorem Turns.of_queues {p p' : Station} (queues : s.Queues c t p p' s₁) (akin : task.Akin task')
    (station : ∀ other, task.station other = if c = other then p else .none)
    (station' : ∀ other, task'.station other = if c = other then p' else .none) : s.Turns t task s₁ task' where
  akin
  own other lined := by
    rw [station] at lined
    rw [station']
    by_cases own : c = other
    · subst own
      simp only [if_pos] at lined ⊢
      exact queues.own lined
    · rw [if_neg own] at lined ⊢
      rw [queues.elsewhere other fun same => own same.symm, lined]
  others other u different := by
    by_cases own : c = other
    · subst own
      exact queues.others u different
    · rw [queues.elsewhere other fun same => own same.symm]
  begins := ⟨[], .nothing, by rw [queues.tasks, List.append_nil]⟩

theorem Turns.of_same (line : ∀ c, s₁.line c = s.line c) (begins : ∃ new, s.Begins s₁ new ∧ s₁.tasks = s.tasks ++ new)
    (akin : task.Akin task') (idle : ∀ c, ¬ (task.station c).InLine) (idle' : ∀ c, ¬ (task'.station c).InLine) :
    s.Turns t task s₁ task' where
  akin
  own c lined := by rw [line, lined, iff_of_false (idle c) (idle' c)]
  others c u _ := by rw [line]
  begins

theorem Turns.tasks (turns : s.Turns t task s₁ task') :
    ∃ new, s.Begins s₁ new ∧ (s₁.setTask t task').tasks = (s.tasks ++ new).set t task' := by
  obtain ⟨new, begins, tasks⟩ := turns.begins
  exact ⟨new, begins, by rw [setTask, tasks]⟩

theorem takeOver?_lines {addr : Endpoint} {settings : Settings} {socket : Socket} {belongs : Bool}
    (h : s.takeOver? addr settings socket belongs = some s') :
    (∀ c, s'.line c = s.line c) ∧ ∃ call, call.phase = .register ∧ Introductory call ∧ s'.tasks = s.tasks ++
      [.accept s.connections.length (.handshake call), .supervise s.connections.length .spawned] := by
  unfold System.takeOver? at h
  obtain ⟨made, fresh, h⟩ := Option.bind_eq_some_iff.1 h
  have empty : made.outbox.senders.members = [] := by
    unfold Connection.ofSocket? at fresh
    obtain ⟨_, _, fresh⟩ := Option.bind_eq_some_iff.1 fresh
    obtain ⟨_, _, fresh⟩ := Option.bind_eq_some_iff.1 fresh
    cases fresh
    rfl
  cases h
  refine ⟨fun c => ?_,
    { kind := .agentInfo, payload := Message.emptyPayload, timeout := settings.handshakeTimeout },
    rfl, ⟨rfl, rfl⟩, ?_⟩
  · simp only [System.line, System.spawn, getElem?_concat]
    split
    next last =>
      rw [last, List.getElem?_eq_none (Nat.le_refl _)]
      exact empty
    · rfl
  · simp only [System.spawn, List.append_assoc, List.cons_append, List.nil_append]

theorem listen_turns {phase : Listening} {out : Listening × System} (h : out ∈ phase.next s) :
    s.Turns t (.listen phase) out.2 (.listen out.1) := by
  have same (same : s.SameLines out.2) : s.Turns t (.listen phase) out.2 (.listen out.1) :=
    .of_same same.line ⟨[], .nothing, by rw [same.tasks, List.append_nil]⟩ .listen (fun _ => id) fun _ => id
  cases phase with
  | accepting =>
    rcases List.mem_append.1 h with stops | accepts
    · split at stops
      · cases List.mem_singleton.1 stops
        exact same (.refl s)
      · cases stops
    · split at accepts
      · cases accepts
      next addr settings socket arrivals _ =>
        rw [List.mem_singleton.1 accepts] at same ⊢
        dsimp only at same ⊢
        cases arrived : ({ s with arrivals } : System).takeOver? addr settings socket true with
        | none =>
          rw [arrived] at same
          exact same (.of_eq rfl rfl)
        | some s' =>
          obtain ⟨line, call, new, asks, tasks⟩ := takeOver?_lines arrived
          exact .of_same line ⟨_, .connection new asks, tasks⟩ .listen (fun _ => id) fun _ => id
  | snapshot =>
    cases List.mem_singleton.1 h
    exact same (.refl s)
  | halt agents =>
    cases List.mem_singleton.1 h
    exact same (.haltAll s)
  | closing agents closing =>
    cases agents with
    | nil =>
      cases List.mem_singleton.1 h
      exact same (.refl s)
    | cons agent agents =>
      obtain ⟨⟨progress, s₁⟩, closed, rfl⟩ := List.mem_map.1 h
      have closes : s.SameLines s₁ := Closing.next_sameLines closed
      cases progress <;> exact same closes
  | finished => cases h

theorem next_turns (founded : s.Founded) (h : s' ∈ s.next t) :
    ∃ task s₁ task', s.tasks[t]? = some task ∧ s.Turns t task s₁ task' ∧ s' = s₁.setTask t task' := by
  unfold next at h
  split at h
  · cases h
  next c phase found =>
    obtain ⟨⟨phase', s₁⟩, acted, rfl⟩ := List.mem_map.1 h
    exact ⟨_, s₁, _, found,
      .of_queues (Accepting.next_queues acted) (.accept (Accepting.asks_of_next acted)) (fun _ => rfl)
        (fun _ => rfl), rfl⟩
  next c phase found =>
    obtain ⟨⟨phase', s₁⟩, acted, rfl⟩ := List.mem_map.1 h
    have idle : ∀ phase other, ¬ ((Task.supervise c phase).station other).InLine := by
      intro phase other waits
      simp only [Task.station] at waits
      split at waits
      · cases phase <;> exact waits
      · exact waits
    refine ⟨_, s₁, _, found, ?_, rfl⟩
    rcases Supervising.next_lines acted with same | recruits
    · exact .of_same same.line ⟨[], .nothing, by rw [same.tasks, List.append_nil]⟩ .supervise (idle _) (idle _)
    · obtain ⟨id, tasks⟩ := recruits.tasks
      exact .of_same recruits.line ⟨_, .job recruits, tasks⟩ .supervise (idle _) (idle _)
  next c job phase found =>
    obtain ⟨⟨phase', s₁⟩, acted, rfl⟩ := List.mem_map.1 h
    exact ⟨_, s₁, _, found,
      .of_queues (Handling.next_queues acted) .handle (fun _ => rfl) (fun _ => rfl), rfl⟩
  next c phase found =>
    obtain ⟨⟨phase', s₁⟩, acted, rfl⟩ := List.mem_map.1 h
    have inside := founded.tasks _ (List.mem_of_getElem? found) c (List.mem_singleton_self c)
    exact ⟨_, s₁, _, found, .of_queues (Operating.next_queues (List.getElem?_eq_getElem inside) acted) .operate
      (fun _ => rfl) (fun _ => rfl), rfl⟩
  next phase found =>
    obtain ⟨⟨phase', s₁⟩, acted, rfl⟩ := List.mem_map.1 h
    exact ⟨_, s₁, _, found, listen_turns acted, rfl⟩

theorem abort_turns (s : System) (t : TaskId) :
    s.abort t = s ∨ ∃ c operation s₁, s.tasks[t]? = some (.operate c operation) ∧
      s.Turns t (.operate c operation) s₁ (.operate c .aborted) ∧
        s.abort t = s₁.setTask t (.operate c .aborted) := by
  unfold System.abort
  split
  next c result found => exact .inl (setTask_self found)
  next c operation _ found =>
    exact .inr ⟨c, operation, _, found,
      .of_queues (Operating.abort_queues operation) .operate (fun _ => rfl) (fun _ => rfl), rfl⟩
  · exact .inl rfl

/-- Those who stand in line are the tasks that wait there. -/
def LinedUp (s : System) : Prop := ∀ c t, t ∈ s.line c ↔ ((s.flow c).station t).InLine

theorem station_of_getElem? (s : System) (c : ConnectionId) (u : TaskId) :
    (s.flow c).station u = ((s.tasks[u]?).map (Task.station c)).getD .none := rfl

theorem inLine_append {new : List Task} (idle : ∀ task ∈ new, ¬ (task.station c).InLine)
    (tasks : s'.tasks = s.tasks ++ new) : ((s'.flow c).station u).InLine ↔ ((s.flow c).station u).InLine := by
  rw [station_of_getElem?, station_of_getElem?, tasks, List.getElem?_append]
  split
  · rfl
  next beyond =>
    rw [List.getElem?_eq_none (Nat.not_lt.1 beyond)]
    refine iff_of_false ?_ id
    cases found : new[u - s.tasks.length]? with
    | none => exact id
    | some task => exact idle task (List.mem_of_getElem? found)

theorem LinedUp.append {new : List Task} (linedUp : s.LinedUp) (line : ∀ c, s'.line c = s.line c)
    (idle : ∀ task ∈ new, ∀ c, ¬ (task.station c).InLine) (tasks : s'.tasks = s.tasks ++ new) : s'.LinedUp := by
  intro c u
  rw [line, inLine_append (fun task member => idle task member c) tasks, linedUp]

theorem LinedUp.same (linedUp : s.LinedUp) (same : s.SameLines s') : s'.LinedUp := by
  have nobody : ∀ task ∈ ([] : List Task), ∀ c, ¬ (task.station c).InLine := by simp
  exact linedUp.append same.line nobody (by rw [same.tasks, List.append_nil])

theorem LinedUp.turn (linedUp : s.LinedUp) (found : s.tasks[t]? = some task) (turns : s.Turns t task s₁ task') :
    (s₁.setTask t task').LinedUp := by
  obtain ⟨new, begins, tasks⟩ := turns.begins
  have inside : t < s₁.tasks.length := by
    have before : t < s.tasks.length := (List.getElem?_eq_some_iff.1 found).1
    rw [tasks, List.length_append]
    exact Nat.lt_of_lt_of_le before (Nat.le_add_right ..)
  intro c u
  have line : (s₁.setTask t task').line c = s₁.line c := rfl
  rw [line, flow_setTask inside, Flow.station_setStation]
  by_cases same : u = t
  · subst same
    rw [if_pos rfl]
    refine turns.own c ?_
    rw [← station_of_task found]
    exact linedUp c u
  · rw [if_neg same, turns.others c u same, linedUp,
      inLine_append (fun task member => begins.idle task member c) tasks]

theorem LinedUp.react {event : Event} (linedUp : s.LinedUp) (h : s.Genuine event) : (s.react event).LinedUp := by
  have socket (c : ConnectionId) (change : Socket → Socket) : s.SameLines (s.changeSocket c change) :=
    .update fun _ => rfl
  cases event with
  | takeOver addr settings socket belongs =>
    simp only [System.react]
    cases taken : s.takeOver? addr settings socket belongs with
    | none => exact linedUp
    | some s' =>
      obtain ⟨line, call, new, asks, tasks⟩ := takeOver?_lines taken
      have begins : s.Begins s' _ := .connection new asks
      exact linedUp.append line begins.idle tasks
  | operate c operation =>
    refine linedUp.append (fun _ => rfl) (fun task member other waits => ?_) rfl
    rw [List.mem_singleton.1 member, Task.station] at waits
    split at waits
    · have new := h.2
      cases operation with
      | calling shape call =>
        rw [Operating.station, show call.phase = .register from of_decide_eq_true new] at waits
        exact waits
      | sending message phase =>
        rw [show phase = .check from of_decide_eq_true new] at waits
        exact waits
      | _ => exact waits
    · exact waits
  | abort u =>
    dsimp only [System.react]
    rcases s.abort_turns u with same | ⟨c, operation, s₁, found, turns, same⟩
    · rw [same]
      exact linedUp
    · rw [same]
      exact linedUp.turn found turns
  | bind | peerWrites | peerEnds | peerReads | peerLeaves => exact linedUp.same (.update fun _ => rfl)
  | arrive | release | stop | elapse | unregister => exact linedUp.same (.of_eq rfl rfl)
  | halt => exact linedUp.same (.haltAll s)

theorem Happening.linedUp (founded : s.Founded) (linedUp : s.LinedUp) (h : s.Happening s') : s'.LinedUp := by
  cases h with
  | step h =>
    cases h with
    | act t h =>
      obtain ⟨task, s₁, task', found, turns, rfl⟩ := next_turns founded h
      exact linedUp.turn found turns
    | react event h => exact linedUp.react h.1
  | mood c change kept => exact linedUp.same (.update fun _ => rfl)

theorem Initial.linedUp (initial : s.Initial) : s.LinedUp := by
  intro c u
  have idle : (s.flow c).station u = .none := by
    rw [station_of_getElem?]
    cases found : s.tasks[u]? with
    | none => rfl
    | some task =>
      rw [initial.tasks task (List.mem_of_getElem? found)]
      rfl
  have empty : s.line c = [] := by simp [line, initial.connections]
  rw [idle, empty]
  exact iff_of_false List.not_mem_nil id

theorem Streaming.linedUp {past : List System} (h : Streaming (s :: past)) : s.LinedUp := by
  generalize run : s :: past = states at h
  induction h generalizing s past with
  | start initial _ =>
    cases run
    exact initial.linedUp
  | next h happening ih =>
    cases run
    exact happening.linedUp h.basis.1 (ih rfl)

inductive Newcomer (s s' : System) : Task → Prop where
  | job {c : ConnectionId} {id : JobId} (routes : s.RoutesUnawaited c s') : Newcomer s s' (.handle c id .admitted)
  | accept {c : ConnectionId} {call : Call} (new : call.phase = .register) (asks : Introductory call) :
    Newcomer s s' (.accept c (.handshake call))
  | supervise {c : ConnectionId} : Newcomer s s' (.supervise c .spawned)
  | operation {c : ConnectionId} {operation : Operating} (new : operation.isNew) :
    Newcomer s s' (.operate c operation)

theorem Begins.newcomer {new : List Task} (begins : s.Begins s₁ new) (same : s'.connections = s₁.connections)
    (member : task ∈ new) : s.Newcomer s' task := by
  cases begins with
  | nothing => cases member
  | job recruits =>
    rw [List.mem_singleton.1 member]
    obtain ⟨x, x', message, here, there, routed⟩ := recruits.routed
    exact .job ⟨x, x', message, here, by rw [same]; exact there, routed⟩
  | connection new asks =>
    rcases List.mem_cons.1 member with rfl | member
    · exact .accept new asks
    · rw [List.mem_singleton.1 member]
      exact .supervise

theorem akin_refl (task : Task) : task.Akin task := by
  cases task with
  | accept => exact .accept fun later same => ⟨later, same, rfl, rfl⟩
  | supervise => exact .supervise
  | handle => exact .handle
  | operate => exact .operate
  | listen => exact .listen

theorem Turns.other (turns : s.Turns t task s₁ task') (different : u ≠ t) {other : Task}
    (found : s.tasks[u]? = some other) : (s₁.setTask t task').tasks[u]? = some other := by
  obtain ⟨new, -, tasks⟩ := turns.tasks
  have inside : u < s.tasks.length := (List.getElem?_eq_some_iff.1 found).1
  rw [tasks, List.getElem?_set_ne (Ne.symm different), List.getElem?_append_left inside, found]

theorem Turns.acted (turns : s.Turns t task s₁ task') (found : s.tasks[t]? = some task) :
    (s₁.setTask t task').tasks[t]? = some task' := by
  obtain ⟨new, -, tasks⟩ := turns.tasks
  have inside : t < s.tasks.length := (List.getElem?_eq_some_iff.1 found).1
  rw [tasks, List.getElem?_set_self]
  rw [List.length_append]
  exact Nat.lt_of_lt_of_le inside (Nat.le_add_right ..)

theorem Turns.former (turns : s.Turns t task s₁ task') (found : s.tasks[t]? = some task) {later : Task}
    (now : (s₁.setTask t task').tasks[u]? = some later) :
    (∃ former, s.tasks[u]? = some former ∧ former.Akin later) ∨
      s.tasks[u]? = none ∧ s.Newcomer (s₁.setTask t task') later := by
  by_cases same : u = t
  · subst same
    obtain rfl := Option.some.inj ((turns.acted found).symm.trans now)
    exact .inl ⟨task, found, turns.akin⟩
  · obtain ⟨new, begins, tasks⟩ := turns.tasks
    rw [tasks, List.getElem?_set_ne (Ne.symm same), List.getElem?_append] at now
    split at now
    · exact .inl ⟨later, now, akin_refl later⟩
    next beyond =>
      exact .inr ⟨List.getElem?_eq_none (Nat.not_lt.1 beyond), begins.newcomer rfl (List.mem_of_getElem? now)⟩

theorem former_of_append {new : List Task} (tasks : s'.tasks = s.tasks ++ new)
    (newcomer : ∀ task ∈ new, s.Newcomer s' task) (now : s'.tasks[u]? = some task) :
    (∃ former, s.tasks[u]? = some former ∧ former.Akin task) ∨ s.tasks[u]? = none ∧ s.Newcomer s' task := by
  rw [tasks, List.getElem?_append] at now
  split at now
  · exact .inl ⟨task, now, akin_refl task⟩
  next beyond =>
    exact .inr ⟨List.getElem?_eq_none (Nat.not_lt.1 beyond), newcomer task (List.mem_of_getElem? now)⟩

theorem Happening.former (founded : s.Founded) (h : s.Happening s') (now : s'.tasks[u]? = some task) :
    (∃ former, s.tasks[u]? = some former ∧ former.Akin task) ∨ s.tasks[u]? = none ∧ s.Newcomer s' task := by
  have kept (same : s'.tasks = s.tasks) : (∃ former, s.tasks[u]? = some former ∧ former.Akin task) ∨
      s.tasks[u]? = none ∧ s.Newcomer s' task := by
    rw [same] at now
    exact .inl ⟨task, now, akin_refl task⟩
  cases h with
  | mood => exact kept rfl
  | step h =>
    cases h with
    | act t h =>
      obtain ⟨task, s₁, task', found, turns, rfl⟩ := next_turns founded h
      exact turns.former found now
    | react event h =>
      cases event with
      | takeOver addr settings socket belongs =>
        simp only [react] at now kept ⊢
        cases taken : s.takeOver? addr settings socket belongs with
        | none =>
          rw [taken] at kept
          exact kept rfl
        | some s' =>
          rw [taken] at now
          obtain ⟨-, call, new, asks, tasks⟩ := takeOver?_lines taken
          have begins : s.Begins s' _ := .connection new asks
          exact former_of_append tasks (fun _ => begins.newcomer rfl) now
      | operate c operation =>
        have newcomer : ∀ task ∈ [Task.operate c operation], s.Newcomer (s.spawn (.operate c operation)) task := by
          intro task member
          rw [List.mem_singleton.1 member]
          exact .operation h.1.2
        exact former_of_append rfl newcomer now
      | abort t =>
        dsimp only [react] at now kept ⊢
        rcases s.abort_turns t with same | ⟨c, operation, s₁, found, turns, same⟩
        · exact kept (congrArg System.tasks same)
        · rw [same] at now ⊢
          exact turns.former found now
      | bind | peerWrites | peerEnds | peerReads | peerLeaves | arrive | release | stop | elapse | unregister
      | halt => exact kept rfl

theorem Happening.operation (founded : s.Founded) (h : s.Happening s') {operation : Operating}
    (found : s.tasks[u]? = some (.operate c operation)) :
    s'.tasks[u]? = some (.operate c operation) ∨ s'.tasks[u]? = some (.operate c .aborted) ∨
      ∃ out ∈ operation.next s c u, s' = out.2.setTask u (.operate c out.1) := by
  cases h with
  | mood => exact .inl found
  | step h =>
    cases h with
    | act t h =>
      by_cases same : u = t
      · subst same
        simp only [next, found] at h
        obtain ⟨out, member, rfl⟩ := List.mem_map.1 h
        exact .inr (.inr ⟨out, member, rfl⟩)
      · obtain ⟨task, s₁, task', _, turns, rfl⟩ := next_turns founded h
        exact .inl (turns.other same found)
    | react event h =>
      cases event with
      | takeOver addr settings socket belongs =>
        simp only [react]
        cases taken : s.takeOver? addr settings socket belongs with
        | none => exact .inl found
        | some s' =>
          obtain ⟨-, _, _, _, tasks⟩ := takeOver?_lines taken
          exact .inl (getElem?_of_kept (tasks ▸ List.prefix_append ..) u _ found)
      | operate other begun => exact .inl (getElem?_of_kept (List.prefix_append ..) u _ found)
      | abort t =>
        dsimp only [react]
        rcases s.abort_turns t with same | ⟨other, broken, s₁, there, turns, same⟩
        · rw [same]
          exact .inl found
        · rw [same]
          by_cases own : u = t
          · subst own
            cases there.symm.trans found
            exact .inr (.inl (turns.acted found))
          · exact .inl (turns.other own found)
      | bind | peerWrites | peerEnds | peerReads | peerLeaves | arrive | release | stop | elapse | unregister
      | halt => exact .inl found

end System

end Fleetwire
