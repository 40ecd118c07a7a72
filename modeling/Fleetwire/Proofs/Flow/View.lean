import Fleetwire.Proofs.Flow
import Fleetwire.Proofs.Lifecycle.Served

namespace Fleetwire

def Connection.lane (x : Connection) : Lane where
  settings := x.settings
  came := x.socket.incoming.sent
  readCount := x.socket.incoming.readCount
  inbox := x.inbox
  routed := x.routed
  capacity := x.outbox.capacity
  accepted := x.outbox.accepted
  takenCount := x.outbox.takenCount
  isOpen := x.outbox.isOpen
  writing := x.writing
  went := x.socket.outgoing.sent

def Calling.station : Calling → Station
  | send request _ _ phase => .sending request phase
  | register | wait _ _ _ | forget _ _ => .none

def Accepting.station : Accepting → Station
  | handshake call => call.phase.station
  | _ => .none

def Supervising.station : Supervising → Station
  | spawned | serving => .serving
  | _ => .retired

def Handling.station : Handling → Station
  | acting _ (.sending answer phase) => .sending answer phase
  | acting _ (.relaying call) => call.phase.station
  | _ => .none

def Operating.station : Operating → Station
  | calling _ call => call.phase.station
  | sending message phase => .sending message phase
  | _ => .none

def Task.station (c : ConnectionId) : Task → Station
  | accept own phase => if own = c then phase.station else .none
  | supervise own phase => if own = c then phase.station else .none
  | handle own _ phase => if own = c then phase.station else .none
  | operate own phase => if own = c then phase.station else .none
  | listen _ => .none

def Calling.sent? : Calling → Calling → Option Message
  | send request _ _ _, wait _ _ _ => some request
  | _, _ => none

def Accepting.sent? : Accepting → Accepting → Option Message
  | handshake call, handshake call' => call.phase.sent? call'.phase
  | _, _ => none

def Handling.sent? : Handling → Handling → Option Message
  | acting _ (.sending answer _), acting _ .nothing => some answer
  | acting _ (.relaying call), acting _ (.relaying call') => call.phase.sent? call'.phase
  | _, _ => none

def Operating.sent? : Operating → Operating → Option Message
  | calling _ call, calling _ call' => call.phase.sent? call'.phase
  | sending message _, finished (.ok _) => some message
  | _, _ => none

def Task.sent? (c : ConnectionId) : Task → Task → Option Message
  | accept own phase, accept _ phase' => if own = c then phase.sent? phase' else none
  | handle own _ phase, handle _ _ phase' => if own = c then phase.sent? phase' else none
  | operate own phase, operate _ phase' => if own = c then phase.sent? phase' else none
  | _, _ => none

namespace System

def flow (c : ConnectionId) (s : System) : Flow where
  lane := (s.connections[c]?).map Connection.lane
  station t := ((s.tasks[t]?).map (Task.station c)).getD .none

variable {s s' s'' s₁ : System} {c other : ConnectionId} {t : TaskId} {x : Connection}

theorem station_of_task {task : Task} (h : s.tasks[t]? = some task) : (s.flow c).station t = task.station c := by
  simp [flow, h]

theorem lane_of_connection (h : s.connections[c]? = some x) : (s.flow c).lane = some x.lane := by
  simp [flow, h]

structure Still (s s' : System) : Prop where
  flow : ∀ c, s'.flow c = s.flow c
  tasks : s.tasks <+: s'.tasks
  arrivals : s'.arrivals = s.arrivals

theorem Still.refl (s : System) : s.Still s := ⟨fun _ => rfl, List.prefix_rfl, rfl⟩

theorem Still.trans (h : s.Still s') (h' : s'.Still s'') : s.Still s'' :=
  ⟨fun c => (h'.flow c).trans (h.flow c), h.tasks.trans h'.tasks, h'.arrivals.trans h.arrivals⟩

theorem Still.of_eq (connections : s'.connections = s.connections) (tasks : s'.tasks = s.tasks)
    (arrivals : s'.arrivals = s.arrivals) : s.Still s' :=
  ⟨fun c => by simp only [System.flow, connections, tasks], tasks ▸ List.prefix_rfl, arrivals⟩

theorem flow_update (found : s.connections[c]? = some x) (f : Connection → Connection) :
    (s.update c f).flow c = { s.flow c with lane := some (f x).lane } := by
  ext1 <;> try rfl
  simp [flow, update, found]

theorem flow_update_other (different : other ≠ c) (f : Connection → Connection) :
    (s.update c f).flow other = s.flow other := by
  ext1 <;> try rfl
  simp [flow, update, different.symm]

theorem Still.update {f : Connection → Connection} (same : ∀ x, (f x).lane = x.lane) :
    s.Still (s.update c f) := by
  refine ⟨fun other => ?_, List.prefix_rfl, rfl⟩
  by_cases own : other = c
  · subst own
    ext1 <;> try rfl
    simp only [System.flow, System.update, List.getElem?_modify]
    cases s.connections[other]? with
    | none => rfl
    | some x => simpa using same x
  · exact flow_update_other own f

theorem Still.logs (s : System) (lines : List LogLine) : s.Still { s with logs := s.logs ++ lines } :=
  .of_eq rfl rfl rfl

theorem Still.log (s : System) (level : Level) (text : String) (fields : List (String × String)) :
    s.Still (s.log level text fields) :=
  .logs s [⟨level, text, fields⟩]

theorem Still.sight (s : System) (c : ConnectionId) (moment : Moment) (job : Job) :
    s.Still (s.sight c moment job) := by
  unfold System.sight
  split <;> exact .of_eq rfl rfl rfl

theorem Still.haltAll (s : System) : s.Still s.haltAll := by
  refine ⟨fun c => ?_, List.prefix_rfl, rfl⟩
  ext1 <;> try rfl
  simp only [System.flow, System.haltAll, List.getElem?_map, Option.map_map]
  rfl

theorem Still.deliver? {errand : Errand} {failure : Option (List String)}
    (h : s.deliver? errand = some (failure, s')) : s.Still s' := by
  unfold System.deliver? at h
  split at h
  · cases h
    split
    · cases errand.report <;> exact .of_eq rfl rfl rfl
    · exact .of_eq rfl rfl rfl
  · cases h

theorem Still.publish? {errand : Errand} {addr : String × String}
    (h : s.publish? addr errand = some s') : s.Still s' := by
  unfold System.publish? at h
  obtain ⟨⟨failure, s₁⟩, delivered, h⟩ := Option.bind_eq_some_iff.1 h
  have still := Still.deliver? delivered
  cases failure with
  | none => cases h; exact still
  | some causes => cases h; exact still.trans (.log _ _ _ _)

theorem flow_setTask {task : Task} (inside : t < s.tasks.length) :
    (s.setTask t task).flow c = (s.flow c).setStation t (task.station c) := by
  ext1 <;> try rfl
  funext u
  simp only [flow, setTask, Flow.setStation, List.getElem?_set]
  by_cases same : u = t
  · subst u
    simp [inside]
  · have different : ¬ t = u := fun e => same e.symm
    simp [same, different]

theorem flow_spawn {task : Task} :
    (s.spawn task).flow c = (s.flow c).setStation s.tasks.length (task.station c) := by
  ext1 <;> try rfl
  funext u
  simp only [flow, spawn, Flow.setStation, getElem?_concat]
  split <;> rfl

theorem station_beyond (c : ConnectionId) : (s.flow c).station s.tasks.length = .none := by
  simp [flow]

theorem Still.spawn {task : Task} (idle : ∀ c, task.station c = .none) : s.Still (s.spawn task) := by
  refine ⟨fun c => ?_, List.prefix_append .., rfl⟩
  rw [flow_spawn, idle c]
  exact Flow.setStation_of_station (station_beyond c)

/-- The action makes `p'` of the station `p` in the flow through the connection `c`, and enqueues `posted`
there; through others nothing flows. -/
structure Carries (s : System) (c : ConnectionId) (p : Station) (posted : Option Message) (p' : Station)
    (s' : System) : Prop where
  here : (s.flow c).Act p posted p' (s'.flow c)
  elsewhere : ∀ other, other ≠ c → s'.flow other = s.flow other
  tasks : s.tasks <+: s'.tasks
  arrivals : s'.arrivals = s.arrivals

variable {p p' : Station} {posted : Option Message}

theorem Carries.of_still (still : s.Still s') : s.Carries c p none p s' := by
  refine ⟨?_, fun other _ => still.flow other, still.tasks, still.arrivals⟩
  rw [still.flow c]
  exact .rest

theorem Carries.before_still (h : s.Carries c p posted p' s₁) (still : s₁.Still s') :
    s.Carries c p posted p' s' := by
  refine ⟨?_, fun other different => ?_, h.tasks.trans still.tasks, still.arrivals.trans h.arrivals⟩
  · rw [still.flow c]
    exact h.here
  · rw [still.flow, h.elsewhere other different]

theorem Carries.update (found : s.connections[c]? = some x) {f : Connection → Connection}
    (act : x.lane.Act p posted p' (f x).lane) : s.Carries c p posted p' (s.update c f) := by
  refine ⟨?_, fun other different => flow_update_other different f, List.prefix_rfl, rfl⟩
  rw [flow_update found]
  exact .act (lane_of_connection found) act

theorem Carries.turn (found : s.connections[c]? = some x) (act : x.lane.Act p posted p' x.lane)
    (still : s.Still s') : s.Carries c p posted p' s' := by
  refine ⟨?_, fun other _ => still.flow other, still.tasks, still.arrivals⟩
  have same : s.flow c = { s.flow c with lane := some x.lane } := by rw [← lane_of_connection found]
  rw [still.flow c]
  generalize s.flow c = l at same
  have here : l.lane = some x.lane := by rw [same]
  have acted : l.Act p posted p' { l with lane := some x.lane } := .act here act
  rwa [← same] at acted

theorem Carries.act (h : s.Carries c p posted p' s') (other : ConnectionId) :
    (s.flow other).Act (if c = other then p else .none) (if c = other then posted else none)
      (if c = other then p' else .none) (s'.flow other) := by
  by_cases own : c = other
  · subst own
    simpa only [if_pos] using h.here
  · simp only [if_neg own]
    rw [h.elsewhere other fun same => own same.symm]
    exact .rest

end System

structure Task.Carries (s : System) (task : Task) (s' : System) (task' : Task) : Prop where
  act : ∀ c, (s.flow c).Act (task.station c) (Task.sent? c task task') (task'.station c) (s'.flow c)
  tasks : s.tasks <+: s'.tasks
  arrivals : s'.arrivals = s.arrivals

end Fleetwire
