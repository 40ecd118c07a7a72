import Fleetwire.Proofs.Flow.Tasks
import Fleetwire.Proofs.Lifecycle.Tellings
import Fleetwire.Proofs.Replay
import Fleetwire.Proofs.Traffic.Simulation

namespace Fleetwire

def Socket.Untouched (socket : Socket) : Prop :=
  socket.incoming.readCount = 0 ∧ socket.outgoing.sent = []

structure Socket.SameBytes (socket socket' : Socket) : Prop where
  came : socket'.incoming.sent = socket.incoming.sent
  readCount : socket'.incoming.readCount = socket.incoming.readCount
  went : socket'.outgoing.sent = socket.outgoing.sent

namespace System

def Plain (s : System) (event : Event) : Prop :=
  s.Genuine event ∧ match event with
    | .arrive _ _ socket | .takeOver _ _ socket _ => socket.Untouched
    | _ => True

/-- A step of the server, or another mood of a socket. -/
inductive Happening (s : System) : System → Prop where
  | step {s' : System} (h : Step Plain s s') : Happening s s'
  | mood (c : ConnectionId) (change : Socket → Socket)
    (kept : ∀ socket : Socket, socket.SameBytes (change socket)) : Happening s (s.changeSocket c change)

/-- The states of a run of a server with moody sockets, the latest first. -/
inductive Streaming : List System → Prop where
  | start {s : System} (initial : s.Initial) (untouched : ∀ arrival ∈ s.arrivals, arrival.2.2.Untouched) :
    Streaming [s]
  | next {s s' : System} {past : List System} (h : Streaming (s :: past)) (h' : s.Happening s') :
    Streaming (s' :: s :: past)

def sentBetween (c : ConnectionId) (s s' : System) : List Message :=
  (s.tasks.zip s'.tasks).filterMap fun (task, task') => Task.sent? c task task'

/-- The messages that were sent over the connection `c` in a run, in the order in which their sends
returned. -/
def sends (c : ConnectionId) : List System → List Message
  | s' :: s :: past => sends c (s :: past) ++ sentBetween c s s'
  | _ => []

variable {s s' s₁ : System} {c : ConnectionId} {t : TaskId}

theorem sent?_self (c : ConnectionId) (task : Task) : Task.sent? c task task = none := by
  have call : ∀ phase : Calling, phase.sent? phase = none := fun phase => by cases phase <;> rfl
  cases task with
  | accept own phase => cases phase <;> simp [Task.sent?, Accepting.sent?, call]
  | handle own id phase =>
    cases phase with
    | acting left doing => cases doing <;> simp [Task.sent?, Handling.sent?, call]
    | _ => simp [Task.sent?, Handling.sent?]
  | operate own phase => cases phase <;> simp [Task.sent?, Operating.sent?, call]
  | _ => rfl

theorem getElem?_of_kept (kept : s.tasks <+: s'.tasks) (u : TaskId) (task : Task)
    (found : s.tasks[u]? = some task) : s'.tasks[u]? = some task := by
  obtain ⟨more, tasks⟩ := kept
  rw [← tasks, List.getElem?_append_left (List.getElem?_eq_some_iff.1 found).1]
  exact found

theorem sentBetween_of_kept (c : ConnectionId) (kept : s.tasks <+: s'.tasks) :
    sentBetween c s s' = [] := by
  unfold sentBetween
  rw [List.filterMap_eq_nil_iff]
  rintro ⟨task, task'⟩ member
  obtain ⟨t, found⟩ := List.mem_iff_getElem?.1 member
  obtain ⟨before, after⟩ := List.getElem?_zip_eq_some.1 found
  have same := getElem?_of_kept kept t task before
  obtain rfl := Option.some.inj (same.symm.trans after)
  exact sent?_self c task

theorem sentBetween_of_actor {task task' : Task}
    (actor : ∀ u : TaskId, u ≠ t → ∀ task : Task, s.tasks[u]? = some task → s'.tasks[u]? = some task)
    (before : s.tasks[t]? = some task) (after : s'.tasks[t]? = some task') :
    sentBetween c s s' = (Task.sent? c task task').toList := by
  have unique : ∀ (u : TaskId) (pair : Task × Task), (s.tasks.zip s'.tasks)[u]? = some pair →
      Task.sent? c pair.1 pair.2 ≠ none → u = t := by
    rintro u ⟨early, late⟩ both sent
    by_contra other
    obtain ⟨first, second⟩ := List.getElem?_zip_eq_some.1 both
    obtain rfl := Option.some.inj ((actor u other early first).symm.trans second)
    exact sent (sent?_self c early)
  have pair : (s.tasks.zip s'.tasks)[t]? = some (task, task') :=
    List.getElem?_zip_eq_some.2 ⟨before, after⟩
  rw [sentBetween, filterMap_of_unique unique, pair]
  rfl

/-- The step from `s` to `s'` is a move of the flow through each connection, which enqueues what was sent. -/
structure Flows (s s' : System) : Prop where
  move : ∀ c, ∃ posted, (s.flow c).Move posted (s'.flow c) ∧ sentBetween c s s' = posted.toList
  untouched : (∀ arrival ∈ s.arrivals, arrival.2.2.Untouched) →
    ∀ arrival ∈ s'.arrivals, arrival.2.2.Untouched
  actor : ∃ t : TaskId, ∀ u : TaskId, u ≠ t → ∀ task : Task, s.tasks[u]? = some task → s'.tasks[u]? = some task

theorem move_refl (l : Flow) : l.Move none l := by
  have move : l.Move none (l.setStation 0 (l.station 0)) := .act rfl .rest
  rwa [Flow.setStation_of_station rfl] at move

theorem Flows.of_still (still : s.Still s') : s.Flows s' := by
  refine ⟨fun c => ⟨none, ?_, sentBetween_of_kept c still.tasks⟩, ?_,
    0, fun u _ => getElem?_of_kept still.tasks u⟩
  · rw [still.flow c]
    exact move_refl _
  · rw [still.arrivals]
    exact id

theorem Flows.of_carries {task task' : Task} (found : s.tasks[t]? = some task)
    (carries : Task.Carries s task s₁ task') : s.Flows (s₁.setTask t task') := by
  have within : t < s₁.tasks.length :=
    Nat.lt_of_lt_of_le (List.getElem?_eq_some_iff.1 found).1 carries.tasks.length_le
  have acted : (s₁.setTask t task').tasks[t]? = some task' := by simp [setTask, within]
  have actor : ∀ u : TaskId, u ≠ t → ∀ other : Task, s.tasks[u]? = some other →
      (s₁.setTask t task').tasks[u]? = some other := by
    intro u different other there
    simp only [setTask, List.getElem?_set, if_neg (Ne.symm different)]
    exact getElem?_of_kept carries.tasks u other there
  refine ⟨fun c => ⟨_, ?_, sentBetween_of_actor actor found acted⟩, ?_, t, actor⟩
  · rw [flow_setTask within]
    exact .act (station_of_task found) (carries.act c)
  · rw [show (s₁.setTask t task').arrivals = s.arrivals from carries.arrivals]
    exact id

theorem Flows.spawn {task : Task}
    (begins : ∀ c, (s.flow c).Act .none none (task.station c) (s.flow c)) : s.Flows (s.spawn task) := by
  have kept : s.tasks <+: (s.spawn task).tasks := List.prefix_append ..
  refine ⟨fun c => ⟨none, ?_, sentBetween_of_kept c kept⟩, id, 0, fun u _ => getElem?_of_kept kept u⟩
  rw [flow_spawn]
  exact .act (station_beyond c) (begins c)

theorem setTask_self {task : Task} (found : s.tasks[t]? = some task) : s.setTask t task = s := by
  obtain ⟨inside, rfl⟩ := List.getElem?_eq_some_iff.1 found
  simp only [setTask, List.set_getElem_self]

theorem carries_of {task task' : Task} {p p' : Station} {posted : Option Message}
    (carries : s.Carries c p posted p' s') (station : ∀ other, task.station other = if c = other then p else .none)
    (station' : ∀ other, task'.station other = if c = other then p' else .none)
    (sent : ∀ other, Task.sent? other task task' = if c = other then posted else none) :
    Task.Carries s task s' task' := by
  refine ⟨fun other => ?_, carries.tasks, carries.arrivals⟩
  rw [station, station', sent]
  exact carries.act other

theorem lane_ofSocket? {addr : Endpoint} {settings : Settings} {socket : Socket} {connection : Connection}
    (made : Connection.ofSocket? addr settings socket = some connection) (untouched : socket.Untouched) :
    connection.lane = .new settings socket.incoming.sent := by
  unfold Connection.ofSocket? at made
  obtain ⟨router, _, made⟩ := Option.bind_eq_some_iff.1 made
  obtain ⟨_, _, made⟩ := Option.bind_eq_some_iff.1 made
  cases made
  obtain ⟨unread, unwritten⟩ := untouched
  simp only [Connection.lane, unread, unwritten]
  rfl

theorem Flows.takeOver {addr : Endpoint} {settings : Settings} {socket : Socket} {belongs : Bool}
    (untouched : socket.Untouched) (h : s.takeOver? addr settings socket belongs = some s') :
    s.Flows s' ∧ s.tasks <+: s'.tasks := by
  unfold System.takeOver? at h
  obtain ⟨made, fresh, h⟩ := Option.bind_eq_some_iff.1 h
  have lane := lane_ofSocket? fresh untouched
  generalize newEq : { made with belongs, halted := belongs && s.halted } = new at h
  generalize callEq : ({ kind := .agentInfo, payload := _, timeout := _ } : Call) = call at h
  have newLane : new.lane = .new settings socket.incoming.sent := by
    rw [← newEq]
    exact lane
  have newCall : call.phase.station = .none := by rw [← callEq]; rfl
  obtain ⟨s₁, added⟩ : ∃ s₁, s₁ = { s with connections := s.connections ++ [new] } := ⟨_, rfl⟩
  have result : (s₁.spawn (.accept s.connections.length (.handshake call))).spawn
      (.supervise s.connections.length .spawned) = s' := by
    rw [added]
    exact Option.some.inj h
  clear h
  have accepted : s₁.Still (s₁.spawn (.accept s.connections.length (.handshake call))) := by
    refine .spawn fun c => ?_
    simp only [Task.station, Accepting.station, newCall, ite_self]
  have tasks : s.tasks <+: s'.tasks := by
    rw [← result, added]
    exact (List.prefix_append ..).trans (List.prefix_append ..)
  have arrivals : s'.arrivals = s.arrivals := by rw [← result, added]; rfl
  refine ⟨⟨fun c => ⟨none, ?_, sentBetween_of_kept c tasks⟩, by rw [arrivals]; exact id,
    0, fun u _ => getElem?_of_kept tasks u⟩, tasks⟩
  rw [← result, flow_spawn, accepted.flow]
  by_cases own : s.connections.length = c
  · have absent : (s.flow c).lane = none := by simp [flow, ← own]
    have flow : s₁.flow c = { s.flow c with lane := some (.new settings socket.incoming.sent) } := by
      ext1
      · simp [System.flow, added, ← own, newLane]
      · simp [System.flow, added]
    have station : (Task.supervise s.connections.length .spawned).station c = .serving := if_pos own
    rw [flow, station]
    exact .arrive absent settings socket.incoming.sent
  · have flow : s₁.flow c = s.flow c := by
      have different : ¬ c = s.connections.length := fun same => own same.symm
      ext1 <;> simp [System.flow, added, getElem?_concat, different]
    have station : (Task.supervise s.connections.length .spawned).station c = .none := if_neg own
    have idle : (s.flow c).station (s₁.spawn (.accept s.connections.length (.handshake call))).tasks.length =
        .none := by
      have beyond : s.tasks.length ≤
          (s₁.spawn (.accept s.connections.length (.handshake call))).tasks.length := by
        rw [added]
        exact (List.prefix_append ..).length_le
      simp only [System.flow, List.getElem?_eq_none beyond, Option.map_none, Option.getD_none]
    rw [flow, station, Flow.setStation_of_station idle]
    exact move_refl _

theorem listen_flows {phase : Listening} {out : Listening × System}
    (untouched : ∀ arrival ∈ s.arrivals, arrival.2.2.Untouched)
    (found : s.tasks[t]? = some (.listen phase)) (h : out ∈ phase.next s) :
    s.Flows (out.2.setTask t (.listen out.1)) := by
  have still {phase' : Listening} {s' : System} (still : s.Still s') :
      s.Flows (s'.setTask t (.listen phase')) := by
    refine .of_carries found ⟨fun c => ?_, still.tasks, still.arrivals⟩
    rw [still.flow c]
    exact .rest
  cases phase with
  | accepting =>
    rcases List.mem_append.1 h with stops | accepts
    · split at stops
      · rw [List.mem_singleton.1 stops]
        exact still (.refl s)
      · cases stops
    · split at accepts
      · cases accepts
      next addr settings socket arrivals waiting =>
        rw [List.mem_singleton.1 accepts]
        have first : socket.Untouched :=
          untouched (addr, settings, socket) (by rw [waiting]; exact List.mem_cons_self ..)
        have others : ∀ arrival ∈ arrivals, arrival.2.2.Untouched :=
          fun arrival member => untouched arrival (by rw [waiting]; exact List.mem_cons_of_mem _ member)
        dsimp only
        cases arrived : ({ s with arrivals } : System).takeOver? addr settings socket true with
        | none =>
          have same : s.Flows (s.setTask t (.listen .accepting)) := still (.refl s)
          exact ⟨same.move, fun _ => others, same.actor⟩
        | some s' =>
          obtain ⟨flows, kept⟩ := Flows.takeOver first arrived
          rw [Option.getD_some, setTask_self (getElem?_of_kept kept t _ found)]
          exact ⟨flows.move, fun _ => flows.untouched others, flows.actor⟩
  | snapshot =>
    rw [List.mem_singleton.1 h]
    exact still (.refl s)
  | halt agents =>
    rw [List.mem_singleton.1 h]
    exact still (.haltAll s)
  | closing agents closing =>
    cases agents with
    | nil =>
      rw [List.mem_singleton.1 h]
      exact still (.refl s)
    | cons agent agents =>
      obtain ⟨⟨progress, s₁⟩, closed, rfl⟩ := List.mem_map.1 h
      have quiet := Closing.next_still closed
      cases progress <;> exact still quiet
  | finished => cases h

theorem next_carries (founded : s.Founded) (h : s' ∈ s.next t) :
    (∃ task s₁ task', s.tasks[t]? = some task ∧ task.Carries s s₁ task' ∧ s' = s₁.setTask t task') ∨
      ∃ phase, s.tasks[t]? = some (.listen phase) ∧ ∃ out ∈ phase.next s, s' = out.2.setTask t (.listen out.1) := by
  unfold next at h
  split at h
  · cases h
  next c phase found =>
    obtain ⟨⟨phase', s₁⟩, acted, rfl⟩ := List.mem_map.1 h
    exact .inl ⟨_, s₁, _, found,
      carries_of (Accepting.next_carries acted) (fun _ => rfl) (fun _ => rfl) fun _ => rfl, rfl⟩
  next c phase found =>
    obtain ⟨⟨phase', s₁⟩, acted, rfl⟩ := List.mem_map.1 h
    refine .inl ⟨_, s₁, _, found,
      carries_of (Supervising.next_carries acted) (fun _ => rfl) (fun _ => rfl) fun _ => ?_, rfl⟩
    rw [ite_self]
    rfl
  next c job phase found =>
    obtain ⟨⟨phase', s₁⟩, acted, rfl⟩ := List.mem_map.1 h
    exact .inl ⟨_, s₁, _, found,
      carries_of (Handling.next_carries acted) (fun _ => rfl) (fun _ => rfl) fun _ => rfl, rfl⟩
  next c phase found =>
    obtain ⟨⟨phase', s₁⟩, acted, rfl⟩ := List.mem_map.1 h
    have inside := founded.tasks _ (List.mem_of_getElem? found) c (List.mem_singleton_self c)
    exact .inl ⟨_, s₁, _, found, carries_of (Operating.next_carries (List.getElem?_eq_getElem inside) acted)
      (fun _ => rfl) (fun _ => rfl) fun _ => rfl, rfl⟩
  next phase found =>
    obtain ⟨out, acted, rfl⟩ := List.mem_map.1 h
    exact .inr ⟨phase, found, out, acted, rfl⟩

theorem next_flows (founded : s.Founded) (untouched : ∀ arrival ∈ s.arrivals, arrival.2.2.Untouched)
    (h : s' ∈ s.next t) : s.Flows s' := by
  rcases next_carries founded h with ⟨task, s₁, task', found, carries, rfl⟩ | ⟨phase, found, out, acted, rfl⟩
  · exact .of_carries found carries
  · exact listen_flows untouched found acted

theorem abort_flows (founded : s.Founded) (t : TaskId) : s.Flows (s.abort t) := by
  unfold abort
  split
  next c result found =>
    rw [setTask_self found]
    exact .of_still (.refl s)
  next c operation unfinished found =>
    have inside := founded.tasks _ (List.mem_of_getElem? found) c (List.mem_singleton_self c)
    have carries : s.Carries c operation.station none .none (operation.abort s c t) :=
      Operating.abort_carries (List.getElem?_eq_getElem inside) operation
    refine .of_carries found (carries_of carries (fun _ => rfl) (fun other => ?_) fun other => ?_)
    · simp only [Task.station, Operating.station]
    · simp only [Task.sent?]
      cases operation <;> rfl
  · exact .of_still (.refl s)

theorem begin_flows {operation : Operating} (inside : c < s.connections.length) (new : operation.isNew) :
    s.Flows (s.spawn (.operate c operation)) := by
  refine .spawn fun other => ?_
  by_cases own : c = other
  · subst own
    have here := List.getElem?_eq_getElem inside
    have begins (message : Message) : s.Carries c .none none (.sending message .check) s :=
      .turn here (.begin message) (.refl s)
    simp only [Task.station, if_pos]
    cases operation with
    | calling shape call =>
      rw [Operating.station, show call.phase = .register from of_decide_eq_true new]
      exact .rest
    | sending message phase =>
      rw [show phase = .check from of_decide_eq_true new]
      exact (begins message).here
    | _ => exact .rest
  · simp only [Task.station, if_neg own]
    exact .rest

theorem changeSocket_still (change : Socket → Socket) (kept : ∀ socket : Socket, socket.SameBytes (change socket)) :
    s.Still (s.changeSocket c change) := by
  refine .update fun x => ?_
  obtain ⟨came, readCount, went⟩ := kept x.socket
  simp only [Connection.lane, came, readCount, went]

theorem peerWrites_flows (c : ConnectionId) (bytes : Bytes) : s.Flows (s.react (.peerWrites c bytes)) := by
  refine ⟨fun other => ⟨none, ?_, sentBetween_of_kept other List.prefix_rfl⟩, id, 0, fun _ _ _ => id⟩
  dsimp only [react, changeSocket]
  by_cases own : other = c
  · subst own
    cases here : s.connections[other]? with
    | none =>
      rw [System.update, List.modify_eq_self (List.getElem?_eq_none_iff.1 here)]
      exact move_refl _
    | some x =>
      rw [flow_update here]
      exact .come (lane_of_connection here) (bytes.take x.socket.incoming.room)
  · rw [flow_update_other own]
    exact move_refl _

theorem react_flows {event : Event} (founded : s.Founded) (h : s.Plain event) : s.Flows (s.react event) := by
  obtain ⟨genuine, new⟩ := h
  have socket (c : ConnectionId) (change : Socket → Socket)
      (kept : ∀ socket : Socket, socket.SameBytes (change socket)) : s.Flows (s.changeSocket c change) :=
    .of_still (changeSocket_still change kept)
  cases event with
  | arrive addr settings socket =>
    refine ⟨fun c => ⟨none, move_refl _, sentBetween_of_kept c List.prefix_rfl⟩, fun untouched => ?_,
      0, fun _ _ _ => id⟩
    simp only [react, List.forall_mem_append, List.forall_mem_singleton]
    exact ⟨untouched, new⟩
  | takeOver addr settings socket belongs =>
    simp only [react]
    cases taken : s.takeOver? addr settings socket belongs with
    | none => exact .of_still (.refl s)
    | some s' => exact (Flows.takeOver new taken).1
  | operate c operation => exact begin_flows genuine.1 genuine.2
  | abort t => exact abort_flows founded t
  | bind c kind handler => exact .of_still (.update fun _ => rfl)
  | release | stop | elapse | unregister => exact .of_still (.of_eq rfl rfl rfl)
  | halt => exact .of_still (.haltAll s)
  | peerWrites c bytes => exact peerWrites_flows c bytes
  | peerEnds c | peerReads c count | peerLeaves c =>
    dsimp only [react]
    exact socket c _ fun _ => ⟨rfl, rfl, rfl⟩

theorem Happening.flows (founded : s.Founded) (untouched : ∀ arrival ∈ s.arrivals, arrival.2.2.Untouched)
    (h : s.Happening s') : s.Flows s' ∧ s'.Founded := by
  cases h with
  | step h =>
    cases h with
    | act t h => exact ⟨next_flows founded untouched h, (next_moves founded h).founded⟩
    | react event h => exact ⟨react_flows founded h, (react_moves founded h.1).founded⟩
  | mood c change kept =>
    exact ⟨.of_still (changeSocket_still change kept), (Grows.update c _).founded founded⟩

variable {past states : List System}

theorem Streaming.basis (h : Streaming (s :: past)) :
    s.Founded ∧ ∀ arrival ∈ s.arrivals, arrival.2.2.Untouched := by
  generalize run : s :: past = states at h
  induction h generalizing s past with
  | start initial untouched =>
    cases run
    exact ⟨initial.founded, untouched⟩
  | next h happening ih =>
    cases run
    obtain ⟨founded, untouched⟩ := ih rfl
    obtain ⟨flows, founded'⟩ := happening.flows founded untouched
    exact ⟨founded', flows.untouched untouched⟩

theorem Streaming.flows (h : Streaming (s' :: s :: past)) : s.Flows s' := by
  cases h with
  | next h happening =>
    obtain ⟨founded, untouched⟩ := h.basis
    exact (happening.flows founded untouched).1

theorem Streaming.earlier (h : Streaming (s' :: s :: past)) : Streaming (s :: past) := by
  cases h with
  | next h _ => exact h

theorem Initial.flow (initial : s.Initial) (c : ConnectionId) : (s.flow c).Sound [] := by
  have absent : (s.flow c).lane = none := by simp [System.flow, initial.connections]
  have idle : ∀ t, (s.flow c).station t = .none := by
    intro t
    cases found : s.tasks[t]? with
    | none => simp [System.flow, found]
    | some task =>
      rw [station_of_task found, initial.tasks task (List.mem_of_getElem? found)]
      rfl
  have nobody : ∀ t, ¬ ((s.flow c).station t).serves := by
    intro t serves
    rw [idle t] at serves
    cases serves
  refine ⟨?_, fun _ => ⟨rfl, idle⟩, ?_, fun t t' serves => absurd serves (nobody t), ?_⟩
  · intro x here
    rw [absent] at here
    cases here
  · intro x t here
    rw [absent] at here
    cases here
  · intro x t message phase here
    rw [absent] at here
    cases here

/-- In a run the flow through each connection is as it has to be after the sends that returned. -/
theorem Streaming.sound (h : Streaming (s :: past)) (c : ConnectionId) :
    (s.flow c).Sound (sends c (s :: past)) := by
  generalize run : s :: past = states at h
  induction h generalizing s past with
  | start initial untouched =>
    cases run
    exact initial.flow c
  | next h happening ih =>
    cases run
    obtain ⟨posted, move, sent⟩ := (h.next happening).flows.move c
    rw [sends, sent]
    exact (ih rfl).move move

def Choice.isPlain : Choice → Bool
  | .react (.arrive _ _ socket) | .react (.takeOver _ _ socket _) =>
    socket.incoming.readCount = 0 && socket.outgoing.sent = []
  | _ => true

theorem happening_of_choose? {choice : Choice} (h : s.choose? choice = some s') (plain : choice.isPlain) :
    s.Happening s' := by
  cases choice with
  | act t passed => exact .step (.act t (List.mem_of_getElem? h))
  | react event =>
    simp only [choose?] at h
    split at h
    next ordinary =>
      cases h
      refine .step (.react event ⟨ordinary.genuine, ?_⟩)
      cases event with
      | arrive | takeOver => simpa [Choice.isPlain, Socket.Untouched] using plain
      | _ => trivial
    · cases h

theorem streaming_replay (run : Streaming (s :: past)) (choices : List Choice)
    (plain : choices.all Choice.isPlain) :
    Streaming ((s.replay past choices).1 :: (s.replay past choices).2) := by
  induction choices generalizing s past with
  | nil => exact run
  | cons choice choices ih =>
    rw [List.all_cons, Bool.and_eq_true] at plain
    unfold replay
    split
    · exact run
    next s' chosen => exact ih (run.next (happening_of_choose? chosen plain.1)) plain.2

def resume (run : System × List System) (c : ConnectionId) (change : Socket → Socket)
    (choices : List Choice) : System × List System :=
  (run.1.changeSocket c change).replay (run.1 :: run.2) choices

theorem streaming_resume {run : System × List System} (streaming : Streaming (run.1 :: run.2))
    (c : ConnectionId) {change : Socket → Socket} (kept : ∀ socket : Socket, socket.SameBytes (change socket))
    (choices : List Choice) (plain : choices.all Choice.isPlain) :
    Streaming ((resume run c change choices).1 :: (resume run c change choices).2) :=
  streaming_replay (streaming.next (.mood c change kept)) choices plain

end System

end Fleetwire
