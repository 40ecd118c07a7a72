import Fleetwire.Proofs.Lifecycle.Served
import Fleetwire.Proofs.Router
import Fleetwire.Proofs.Traffic

namespace Fleetwire

def Connection.exchange (connection : Connection) : Exchange where
  router := connection.router
  routed := connection.routed
  limit := connection.settings.maxFrameSize
  stage := connection.stage
  closed := connection.closed
  halted := connection.halted
  isOpen := connection.outbox.isOpen

def Closing.part : Closing → Part
  | halt => .none
  | look | claim | wait => .hurrying
  | failAll => .failing
  | publish => .failed

def Accepting.part (own c : ConnectionId) : Accepting → Part
  | handshake call => if own = c then .calling call else .none
  | refuse _ closing => if own = c then closing.part else .none
  | replace old closing => if old = c then closing.part else .none
  | _ => .none

def Supervising.part : Supervising → Part
  | spawned | serving | leaving _ | claim | finished => .none
  | halt => .seizing
  | failAll => .failing
  | _ => .failed

def Handling.part : Handling → Part
  | acting _ (.relaying call) => .calling call
  | acting _ (.closing phase) => phase.part
  | _ => .none

def Operating.part : Operating → Part
  | calling _ call => .calling call
  | closing phase => phase.part
  | aborted => .dropped
  | notifying _ _ | sending _ _ | finished _ => .none

def Listening.part (c : ConnectionId) : Listening → Part
  | closing (agent :: _) phase => if agent = c then phase.part else .none
  | _ => .none

def Task.part (c : ConnectionId) : Task → Part
  | accept own phase => phase.part own c
  | supervise own phase => if own = c then phase.part else .none
  | handle own _ phase => if own = c then phase.part else .none
  | operate own phase => if own = c then phase.part else .none
  | listen phase => phase.part c

namespace System

def traffic (c : ConnectionId) (s : System) : Traffic where
  now := s.now
  nextId := s.nextId
  exchange := (s.connections[c]?).map Connection.exchange
  part t := ((s.tasks[t]?).map (Task.part c)).getD .none

variable {s s' s'' : System} {c other : ConnectionId} {t : TaskId} {x : Connection}

theorem part_of_task {task : Task} (h : s.tasks[t]? = some task) :
    (s.traffic c).part t = task.part c := by
  simp [traffic, h]

theorem exchange_of_connection (h : s.connections[c]? = some x) :
    (s.traffic c).exchange = some x.exchange := by
  simp [traffic, h]

/-- No task relies on a connection that there is not, nor is one in the directory. -/
structure Founded (s : System) : Prop where
  tasks : ∀ task ∈ s.tasks, ∀ c ∈ task.relies, c < s.connections.length
  entries : ∀ identity c, s.directory.get? identity = some c → c < s.connections.length

structure Grows (s s' : System) : Prop where
  connections : s.connections.length ≤ s'.connections.length
  tasks : s.tasks.length ≤ s'.tasks.length
  founded : s.Founded → s'.Founded

theorem Grows.refl (s : System) : s.Grows s := ⟨Nat.le_refl _, Nat.le_refl _, id⟩

theorem Grows.trans (h : s.Grows s') (h' : s'.Grows s'') : s.Grows s'' :=
  ⟨Nat.le_trans h.connections h'.connections, Nat.le_trans h.tasks h'.tasks,
    fun founded => h'.founded (h.founded founded)⟩

theorem Grows.of_eq (connections : s'.connections.length = s.connections.length)
    (tasks : s'.tasks = s.tasks) (entries : ∀ identity c, s'.directory.get? identity = some c →
      s.directory.get? identity = some c ∨ c < s.connections.length) : s.Grows s' := by
  refine ⟨Nat.le_of_eq connections.symm, Nat.le_of_eq (congrArg List.length tasks.symm), fun founded => ?_⟩
  constructor
  · rw [tasks, connections]
    exact founded.tasks
  · intro identity c entry
    rw [connections]
    exact (entries identity c entry).elim (founded.entries identity c) id

theorem Grows.update (c : ConnectionId) (f : Connection → Connection) : s.Grows (s.update c f) :=
  .of_eq (List.length_modify ..) rfl fun _ _ => .inl

theorem Grows.spawn {task : Task} (relies : ∀ c ∈ task.relies, c < s.connections.length) :
    s.Grows (s.spawn task) := by
  refine ⟨Nat.le_refl _, by simp [System.spawn], fun founded => ⟨fun other member => ?_, founded.entries⟩⟩
  rcases List.mem_append.1 member with old | new
  · exact founded.tasks other old
  · rw [List.mem_singleton.1 new]
    exact relies

theorem Founded.setTask {task : Task} (founded : s.Founded)
    (relies : ∀ c ∈ task.relies, c < s.connections.length) : (s.setTask t task).Founded := by
  refine ⟨fun other member => ?_, founded.entries⟩
  rcases List.mem_or_eq_of_mem_set member with old | new
  · exact founded.tasks other old
  · exact new ▸ relies

structure Same (s s' : System) : Prop where
  traffic : ∀ c, s'.traffic c = s.traffic c
  grows : s.Grows s'

theorem Same.refl (s : System) : s.Same s := ⟨fun _ => rfl, .refl s⟩

theorem Same.trans (h : s.Same s') (h' : s'.Same s'') : s.Same s'' :=
  ⟨fun c => (h'.traffic c).trans (h.traffic c), h.grows.trans h'.grows⟩

theorem Same.of_eq (now : s'.now = s.now) (nextId : s'.nextId = s.nextId)
    (connections : s'.connections = s.connections) (tasks : s'.tasks = s.tasks)
    (entries : ∀ identity c, s'.directory.get? identity = some c →
      s.directory.get? identity = some c ∨ c < s.connections.length) : s.Same s' := by
  refine ⟨fun c => ?_, .of_eq (congrArg List.length connections) tasks entries⟩
  simp only [System.traffic, now, nextId, connections, tasks]

theorem traffic_update (found : s.connections[c]? = some x) (f : Connection → Connection) :
    (s.update c f).traffic c = { s.traffic c with exchange := some (f x).exchange } := by
  ext1 <;> try rfl
  simp [traffic, update, found]

theorem traffic_update_other (different : other ≠ c) (f : Connection → Connection) :
    (s.update c f).traffic other = s.traffic other := by
  ext1 <;> try rfl
  simp [traffic, update, different.symm]

theorem Same.update {f : Connection → Connection} (same : ∀ x, (f x).exchange = x.exchange) :
    s.Same (s.update c f) := by
  refine ⟨fun other => ?_, .update c f⟩
  by_cases own : other = c
  · subst own
    ext1 <;> try rfl
    simp only [System.traffic, System.update, List.getElem?_modify]
    cases s.connections[other]? with
    | none => rfl
    | some x => simpa using same x
  · exact traffic_update_other own f

theorem traffic_update_congr (same : s.Same s') {f : Connection → Connection} {g : Exchange → Exchange}
    (change : ∀ x, (f x).exchange = g x.exchange) (other : ConnectionId) :
    (s'.update c f).traffic other = (s.update c f).traffic other := by
  by_cases own : other = c
  · subst own
    have both : ∀ s : System, (s.update other f).traffic other =
        { s.traffic other with exchange := (s.traffic other).exchange.map g } := by
      intro s
      ext1 <;> try rfl
      simp only [System.traffic, System.update, List.getElem?_modify]
      cases s.connections[other]? with
      | none => rfl
      | some x => simpa using change x
    rw [both, both, same.traffic]
  · rw [traffic_update_other own, traffic_update_other own, same.traffic]

theorem Same.logs (s : System) (lines : List LogLine) : s.Same { s with logs := s.logs ++ lines } :=
  Same.of_eq rfl rfl rfl rfl fun _ _ => .inl

theorem Same.log (s : System) (level : Level) (text : String) (fields : List (String × String)) :
    s.Same (s.log level text fields) :=
  Same.logs s [⟨level, text, fields⟩]

theorem Same.sight (s : System) (c : ConnectionId) (moment : Moment) (job : Job) :
    s.Same (s.sight c moment job) := by
  unfold System.sight
  split <;> exact Same.of_eq rfl rfl rfl rfl fun _ _ => .inl

theorem Same.spawn {task : Task} (idle : ∀ c, task.part c = .none)
    (relies : ∀ c ∈ task.relies, c < s.connections.length) : s.Same (s.spawn task) := by
  refine ⟨fun c => ?_, .spawn relies⟩
  ext1 <;> try rfl
  funext t
  simp only [System.traffic, System.spawn, getElem?_concat]
  split
  next last => rw [last, List.getElem?_eq_none (Nat.le_refl _)]; exact idle c
  next => rfl

theorem Same.deliver (s : System) (c : ConnectionId) (report : Report) :
    s.Same (s.deliver c report).2 := by
  unfold System.deliver
  dsimp only
  split
  · cases report <;> exact Same.of_eq rfl rfl rfl rfl fun _ _ => .inl
  · exact Same.of_eq rfl rfl rfl rfl fun _ _ => .inl

theorem Same.deliver? {errand : Errand} {failure : Option (List String)}
    (h : s.deliver? errand = some (failure, s')) : s.Same s' := by
  unfold System.deliver? at h
  split at h
  · cases h
    exact Same.deliver _ _ _
  · cases h

theorem Same.publish? {errand : Errand} {addr : String × String}
    (h : s.publish? addr errand = some s') : s.Same s' := by
  unfold System.publish? at h
  obtain ⟨⟨failure, s₁⟩, delivered, h⟩ := Option.bind_eq_some_iff.1 h
  have same := Same.deliver? delivered
  cases failure with
  | none => cases h; exact same
  | some causes => cases h; exact same.trans (Same.log _ _ _ _)

structure Mild (s s' : System) : Prop where
  traffic : ∀ c, (s.traffic c).Mild (s'.traffic c)
  grows : s.Grows s'

end System

theorem Exchange.Mild.trans {e e' e'' : Exchange} (h : e.Mild e') (h' : e'.Mild e'') : e.Mild e'' where
  pending := h'.pending.trans h.pending
  slots := h'.slots.trans h.slots
  routed := h'.routed.trans h.routed
  limit := h'.limit.trans h.limit
  stage atEnd := h.stage (h'.stage atEnd)
  closed := h'.closed.trans h.closed
  halted told := h'.halted (h.halted told)
  isOpen writes := h.isOpen (h'.isOpen writes)

theorem Exchange.Mild.of_calls {e e' : Exchange} (router : e'.router.pending = e.router.pending ∧
    e'.router.slots = e.router.slots) (same : e' = { e with router := e'.router }) : e.Mild e' := by
  rw [same]
  exact ⟨router.1, router.2, rfl, rfl, id, rfl, id, id⟩

namespace Traffic

variable {l l' l'' : Traffic}

theorem Mild.refl (l : Traffic) : l.Mild l where
  now := rfl
  nextId := Nat.le_refl _
  exchange := by
    cases l.exchange with
    | none => exact .none
    | some e => exact .some (.refl e)
  part := rfl

theorem Mild.trans (h : l.Mild l') (h' : l'.Mild l'') : l.Mild l'' where
  now := h'.now.trans h.now
  nextId := Nat.le_trans h.nextId h'.nextId
  exchange := by
    have first := h.exchange
    have second := h'.exchange
    generalize l.exchange = before, l'.exchange = middle, l''.exchange = after at first second ⊢
    cases first with
    | none => exact second
    | some far =>
      cases second with
      | some near => exact .some (far.trans near)
  part := h'.part.trans h.part

end Traffic

namespace System

variable {s s' s'' : System} {c other : ConnectionId} {t : TaskId} {x : Connection}

theorem Mild.trans (h : s.Mild s') (h' : s'.Mild s'') : s.Mild s'' :=
  ⟨fun c => (h.traffic c).trans (h'.traffic c), h.grows.trans h'.grows⟩

theorem Same.mild (h : s.Same s') : s.Mild s' := by
  refine ⟨fun c => ?_, h.grows⟩
  rw [h.traffic c]
  exact .refl _

theorem Mild.update {f : Connection → Connection} (mild : ∀ x, s.connections[c]? = some x →
    x.exchange.Mild (f x).exchange) : s.Mild (s.update c f) := by
  refine ⟨fun other => ?_, .update c f⟩
  by_cases own : other = c
  · subst own
    cases found : s.connections[other]? with
    | none =>
      rw [System.update, List.modify_eq_self (List.getElem?_eq_none_iff.1 found)]
      exact .refl _
    | some x =>
      rw [traffic_update found]
      refine ⟨rfl, Nat.le_refl _, ?_, rfl⟩
      rw [exchange_of_connection found]
      exact .some (mild x found)
  · rw [traffic_update_other own]
    exact .refl _

theorem Mild.haltAll (s : System) : s.Mild s.haltAll := by
  refine ⟨fun c => ⟨rfl, Nat.le_refl _, ?_, rfl⟩, .of_eq (List.length_map ..) rfl fun _ _ => .inl⟩
  simp only [System.traffic, System.haltAll, List.getElem?_map, Option.map_map]
  cases s.connections[c]? with
  | none => exact .none
  | some x =>
    refine .some ⟨rfl, rfl, rfl, rfl, id, rfl, fun halted => ?_, id⟩
    simp only [Function.comp_apply, Connection.exchange]
    rw [show x.halted = true from halted, Bool.true_or]

/-- The action makes `p'` of the part `p` in the traffic of the connection `c`; others hardly notice it. -/
structure Deals (s : System) (c : ConnectionId) (p p' : Part) (s' : System) : Prop where
  here : (s.traffic c).Act p p' (s'.traffic c)
  elsewhere : ∀ other, other ≠ c → (s.traffic other).Mild (s'.traffic other)
  grows : s.Grows s'

variable {p p' : Part}

theorem Deals.of_mild (mild : s.Mild s') : s.Deals c p p s' :=
  ⟨.mild (mild.traffic c), fun other _ => mild.traffic other, mild.grows⟩

theorem Deals.of_same (same : s.Same s') : s.Deals c p p s' := .of_mild same.mild

theorem Deals.after_same (h : s.Deals c p p' s') (same : s'.Same s'') : s.Deals c p p' s'' := by
  refine ⟨?_, fun other different => ?_, h.grows.trans same.grows⟩
  · rw [same.traffic c]
    exact h.here
  · rw [same.traffic other]
    exact h.elsewhere other different

theorem Deals.of_step (found : s.connections[c]? = some x) {f : Connection → Connection} {n : Nat}
    (step : Part.Step s.now s.nextId x.exchange p p' n (f x).exchange) (growth : s.nextId ≤ n)
    (result : ∀ other, s'.traffic other = { (s.update c f).traffic other with nextId := n })
    (grows : s.Grows s') : s.Deals c p p' s' := by
  refine ⟨?_, fun other different => ?_, grows⟩
  · rw [result, traffic_update found]
    exact .deal (exchange_of_connection found) step
  · rw [result, traffic_update_other different]
    exact ⟨rfl, growth, (Traffic.Mild.refl _).exchange, rfl⟩

theorem Deals.update (found : s.connections[c]? = some x) {f : Connection → Connection}
    (step : Part.Step s.now s.nextId x.exchange p p' s.nextId (f x).exchange) :
    s.Deals c p p' (s.update c f) :=
  .of_step found step (Nat.le_refl _) (fun _ => rfl) (.update c f)

theorem Deals.act (h : s.Deals c p p' s') (other : ConnectionId) :
    (s.traffic other).Act (if c = other then p else .none) (if c = other then p' else .none)
      (s'.traffic other) := by
  by_cases own : c = other
  · subst own
    rw [if_pos rfl, if_pos rfl]
    exact h.here
  · rw [if_neg own, if_neg own]
    exact .mild (h.elsewhere other fun same => own same.symm)

theorem traffic_setTask {task : Task} (inside : t < s.tasks.length) :
    (s.setTask t task).traffic c = (s.traffic c).setPart t (task.part c) := by
  ext1 <;> try rfl
  funext u
  simp only [traffic, setTask, Traffic.setPart, List.getElem?_set]
  by_cases same : u = t
  · subst u
    simp [inside]
  · have different : ¬ t = u := fun e => same e.symm
    simp [same, different]

theorem traffic_spawn {task : Task} :
    (s.spawn task).traffic c = (s.traffic c).setPart s.tasks.length (task.part c) := by
  ext1 <;> try rfl
  funext u
  simp only [traffic, spawn, Traffic.setPart, getElem?_concat]
  split <;> rfl

end System

end Fleetwire
