import Fleetwire.Proofs.Lifecycle.Simulation
import Fleetwire.Proofs.Traffic.Tasks

namespace Fleetwire

namespace Traffic

variable {l l' : Traffic} {t : TaskId} {p : Part}

theorem Move.of_mild (same : l.Mild l') : l.Move l' := by
  have unchanged : l'.setPart 0 (l.part 0) = l' := setPart_of_part (congrFun same.part 0)
  rw [← unchanged]
  exact .act rfl (.mild same)

end Traffic

namespace System

variable {s s' : System} {t : TaskId} {c : ConnectionId}

/-- What happens to a server whose operations concern connections that there are. -/
def Genuine (s : System) : Event → Prop
  | .operate c operation => c < s.connections.length ∧ operation.isNew
  | _ => True

theorem Ordinary.genuine {event : Event} (h : s.Ordinary event) : s.Genuine event := by
  cases event with
  | operate c operation =>
    obtain ⟨x, found, _⟩ := serves_iff.1 h.1
    exact ⟨(List.getElem?_eq_some_iff.1 found).1, h.2⟩
  | _ => trivial

structure Moves (s s' : System) : Prop where
  traffic : ∀ c, (s.traffic c).Move (s'.traffic c)
  founded : s'.Founded

theorem Moves.of_mild (founded : s.Founded) (mild : s.Mild s') : s.Moves s' :=
  ⟨fun c => .of_mild (mild.traffic c), mild.grows.founded founded⟩

theorem Moves.of_same (founded : s.Founded) (same : s.Same s') : s.Moves s' := .of_mild founded same.mild

theorem Moves.of_deals {task task' : Task} (founded : s.Founded) (found : s.tasks[t]? = some task)
    (deals : Task.Deals s task s' task') : s.Moves (s'.setTask t task') := by
  have inside : t < s.tasks.length := (List.getElem?_eq_some_iff.1 found).1
  refine ⟨fun c => ?_, (deals.grows.founded founded).setTask deals.relies⟩
  rw [traffic_setTask (Nat.lt_of_lt_of_le inside deals.grows.tasks)]
  exact .act (part_of_task found) (deals.act c)

theorem Moves.spawn {task : Task} (founded : s.Founded)
    (begins : ∀ c, (s.traffic c).Act .none (task.part c) (s.traffic c))
    (relies : ∀ c ∈ task.relies, c < s.connections.length) : s.Moves (s.spawn task) := by
  refine ⟨fun c => ?_, (Grows.spawn relies).founded founded⟩
  rw [traffic_spawn]
  have idle : (s.traffic c).part s.tasks.length = .none := by simp [System.traffic]
  exact .act idle (begins c)

theorem calls_bind (r : Router) (handlers : List (MessageKind × Handler)) :
    let bound := handlers.foldl (fun r (kind, handler) => r.bind kind handler) r
    bound.pending = r.pending ∧ bound.slots = r.slots := by
  induction handlers generalizing r with
  | nil => exact ⟨rfl, rfl⟩
  | cons handler handlers ih => exact ih _

theorem exchange_ofSocket? {addr : Endpoint} {settings : Settings} {socket : Socket}
    {connection : Connection} (h : Connection.ofSocket? addr settings socket = some connection) :
    (connection.router.pending = {} ∧ connection.router.slots = []) ∧ connection.routed = [] ∧
      connection.stage = .initializing := by
  unfold Connection.ofSocket? at h
  obtain ⟨router, made, h⟩ := Option.bind_eq_some_iff.1 h
  obtain ⟨_, _, h⟩ := Option.bind_eq_some_iff.1 h
  cases h
  unfold Router.ofLimits? at made
  split at made
  · cases made
    exact ⟨calls_bind _ Connection.standingHandlers, rfl, rfl⟩
  · cases made

theorem Moves.takeOver {addr : Endpoint} {settings : Settings} {socket : Socket} {belongs : Bool}
    (founded : s.Founded) (h : s.takeOver? addr settings socket belongs = some s') : s.Moves s' := by
  unfold System.takeOver? at h
  obtain ⟨made, fresh, h⟩ := Option.bind_eq_some_iff.1 h
  obtain ⟨calls, routed, stage⟩ := exchange_ofSocket? fresh
  generalize newEq : { made with belongs, halted := belongs && s.halted } = new at h
  generalize callEq : ({ kind := .agentInfo, payload := _, timeout := _ } : Call) = call at h
  have newCall : call.phase = .register := callEq ▸ rfl
  obtain ⟨s₁, added⟩ : ∃ s₁, s₁ = { s with connections := s.connections ++ [new] } := ⟨_, rfl⟩
  have result : (s₁.spawn (.accept s.connections.length (.handshake call))).spawn
      (.supervise s.connections.length .spawned) = s' := by
    rw [added]
    exact Option.some.inj h
  clear h
  have supervised : (s₁.spawn (.accept s.connections.length (.handshake call))).Same s' :=
    result ▸ Same.spawn (fun _ => Part.none_if.symm) nofun
  have tasks : s₁.tasks = s.tasks := by rw [added]
  have grown : s.connections.length ≤ s₁.connections.length := by simp [added]
  have founded₁ : s₁.Founded := by
    constructor
    · rw [tasks]
      exact fun task member c relied => Nat.lt_of_lt_of_le (founded.tasks task member c relied) grown
    · intro identity c entry
      refine Nat.lt_of_lt_of_le (founded.entries identity c ?_) grown
      rw [added] at entry
      exact entry
  have accepted : s₁.Grows (s₁.spawn (.accept s.connections.length (.handshake call))) :=
    .spawn nofun
  refine ⟨fun c => ?_, supervised.grows.founded (accepted.founded founded₁)⟩
  have idle : (s.traffic c).part s.tasks.length = .none := by simp [System.traffic]
  rw [supervised.traffic, traffic_spawn, tasks]
  by_cases own : s.connections.length = c
  · have exchange : s₁.traffic c = { s.traffic c with exchange := some new.exchange } := by
      ext1 <;> simp [System.traffic, added, ← own]
    have part : (Task.accept s.connections.length (.handshake call)).part c = .calling call := if_pos own
    have absent : (s.traffic c).exchange = none := by simp [System.traffic, ← own]
    subst newEq
    rw [exchange, part]
    exact .arrive absent idle newCall calls routed stage
  · have exchange : s₁.traffic c = s.traffic c := by
      have different : ¬ c = s.connections.length := fun same => own same.symm
      ext1 <;> simp [System.traffic, added, getElem?_concat, different]
    have part : (Task.accept s.connections.length (.handshake call)).part c = .none := if_neg own
    rw [exchange, part, Traffic.setPart_of_part idle]
    exact .of_mild (.refl _)

theorem listen_moves {phase : Listening} {out : Listening × System} (founded : s.Founded)
    (found : s.tasks[t]? = some (.listen phase)) (h : out ∈ phase.next s) :
    s.Moves (out.2.setTask t (.listen out.1)) := by
  have relied := founded.tasks _ (List.mem_of_getElem? found)
  cases phase with
  | accepting =>
    rcases List.mem_append.1 h with stops | accepts
    · split at stops
      · rw [List.mem_singleton.1 stops]
        exact .of_deals founded found
          (.of_mild (Same.refl s).mild (fun _ => rfl) (fun _ => rfl) nofun)
      · cases stops
    · split at accepts
      · cases accepts
      next addr settings socket arrivals _ =>
        rw [List.mem_singleton.1 accepts]
        have taken : s.Same { s with arrivals } := Same.of_eq rfl rfl rfl rfl fun _ _ => .inl
        dsimp only
        cases arrived : ({ s with arrivals } : System).takeOver? addr settings socket true with
        | none =>
          exact .of_deals founded found (.of_mild taken.mild (fun _ => rfl) (fun _ => rfl) nofun)
        | some s' =>
          have moves := Moves.takeOver (taken.grows.founded founded) arrived
          have found' : s'.tasks[t]? = some (.listen .accepting) :=
            (takeOver?_arrives arrived).1.tasks t _ found
          refine ⟨fun c => ?_, moves.founded.setTask nofun⟩
          rw [Option.getD_some, traffic_setTask (List.getElem?_eq_some_iff.1 found').1,
            Traffic.setPart_of_part (part_of_task found'), ← taken.traffic c]
          exact moves.traffic c
  | snapshot =>
    rw [List.mem_singleton.1 h]
    refine .of_deals founded found (.of_mild (Same.refl s).mild (fun _ => rfl) (fun _ => rfl) ?_)
    intro c member
    obtain ⟨identity, entry⟩ := Directory.mem_agents.1 member
    exact founded.entries identity c entry
  | halt agents =>
    rw [List.mem_singleton.1 h]
    refine .of_deals founded found (.of_mild (Mild.haltAll s) (fun _ => rfl) (fun c => ?_) relied)
    cases agents with
    | nil => rfl
    | cons agent agents => exact Part.none_if.symm
  | closing agents closing =>
    cases agents with
    | nil =>
      rw [List.mem_singleton.1 h]
      exact .of_deals founded found
        (.of_mild (Same.refl s).mild (fun _ => rfl) (fun _ => rfl) nofun)
    | cons agent agents =>
      obtain ⟨⟨progress, s₁⟩, closed, rfl⟩ := List.mem_map.1 h
      have inside : agent < s.connections.length := relied agent (List.mem_cons_self ..)
      have deals := Closing.next_deals (List.getElem?_eq_getElem inside) closed
      apply Moves.of_deals founded found
      cases progress with
      | going closing => exact .of_deals deals (fun _ => rfl) (fun _ => rfl) relied
      | ended result =>
        refine .of_deals deals (fun _ => rfl) (fun c => ?_) fun c member =>
          relied c (List.mem_cons_of_mem _ member)
        cases agents with
        | nil => exact Part.none_if
        | cons next agents => exact Part.none_if.symm.trans Part.none_if
  | finished => cases h

theorem next_moves (founded : s.Founded) (h : s' ∈ s.next t) : s.Moves s' := by
  unfold next at h
  split at h
  · cases h
  next c phase found =>
    obtain ⟨⟨phase', s₁⟩, acted, rfl⟩ := List.mem_map.1 h
    exact .of_deals founded found
      (Accepting.next_deals founded (founded.tasks _ (List.mem_of_getElem? found)) acted)
  next c phase found =>
    obtain ⟨⟨phase', s₁⟩, acted, rfl⟩ := List.mem_map.1 h
    exact .of_deals founded found (Supervising.next_deals acted)
  next c job phase found =>
    obtain ⟨⟨phase', s₁⟩, acted, rfl⟩ := List.mem_map.1 h
    exact .of_deals founded found (Handling.next_deals acted)
  next c phase found =>
    obtain ⟨⟨phase', s₁⟩, acted, rfl⟩ := List.mem_map.1 h
    have inside := founded.tasks _ (List.mem_of_getElem? found) c (List.mem_singleton_self c)
    exact .of_deals founded found (Operating.next_deals inside acted)
  next phase found =>
    obtain ⟨⟨phase', s₁⟩, acted, rfl⟩ := List.mem_map.1 h
    exact listen_moves founded found acted

theorem abort_moves (founded : s.Founded) (t : TaskId) : s.Moves (s.abort t) := by
  unfold abort
  split
  next c result found =>
    exact .of_deals founded found (.of_mild (Same.refl s).mild (fun _ => Part.none_if.symm)
      (fun _ => Part.none_if.symm) (founded.tasks _ (List.mem_of_getElem? found)))
  next c operation _ found =>
    have relied : ∀ other ∈ [c], other < s.connections.length :=
      founded.tasks _ (List.mem_of_getElem? found)
    exact .of_deals founded found
      (.of_deals Operating.abort_deals (fun _ => rfl) (fun _ => rfl) relied)
  · exact .of_same founded (Same.refl s)

theorem begin_moves {operation : Operating} (founded : s.Founded) (inside : c < s.connections.length)
    (new : operation.isNew) : s.Moves (s.spawn (.operate c operation)) := by
  refine .spawn founded (fun other => ?_) fun other member => List.mem_singleton.1 member ▸ inside
  by_cases own : c = other
  · rw [Task.part, if_pos own]
    cases operation with
    | calling shape call => exact .begin call (of_decide_eq_true new)
    | closing phase =>
      rw [show phase = .halt from of_decide_eq_true new]
      exact .mild (.refl _)
    | notifying kind payload | sending message phase => exact .mild (.refl _)
    | finished result | aborted => cases new
  · rw [Task.part, if_neg own]
    exact .mild (.refl _)

theorem react_moves {event : Event} (founded : s.Founded) (h : s.Genuine event) :
    s.Moves (s.react event) := by
  have socket : ∀ (c : ConnectionId) (f : Socket → Socket), s.Moves (s.changeSocket c f) := by
    intro c f
    exact .of_same founded (Same.update fun _ => rfl)
  cases event with
  | takeOver addr settings socket belongs =>
    simp only [react]
    cases taken : s.takeOver? addr settings socket belongs with
    | none => exact .of_same founded (Same.refl s)
    | some s' => exact Moves.takeOver founded taken
  | operate c operation => exact begin_moves founded h.1 h.2
  | abort t => exact abort_moves founded t
  | bind c kind handler =>
    exact .of_mild founded (Mild.update fun _ _ => .of_calls ⟨rfl, rfl⟩ rfl)
  | arrive | release | stop =>
    exact .of_same founded (.of_eq rfl rfl rfl rfl fun _ _ => .inl)
  | elapse nanoseconds =>
    exact ⟨fun c => .elapse (Nat.le_add_right _ _), founded.tasks, founded.entries⟩
  | halt => exact .of_mild founded (Mild.haltAll s)
  | unregister identity =>
    refine .of_same founded (.of_eq rfl rfl rfl rfl fun other c entry => .inl ?_)
    dsimp only [react] at entry
    rw [Directory.get?_remove] at entry
    split at entry
    · cases entry
    · exact entry
  | peerWrites c bytes | peerEnds c | peerReads c count | peerLeaves c =>
    dsimp only [react]
    exact socket c _

theorem Step.moves (founded : s.Founded) (h : Step Genuine s s') : s.Moves s' := by
  cases h with
  | act t h => exact next_moves founded h
  | react event h => exact react_moves founded h

variable {states past : List System}

theorem Initial.founded (h : s.Initial) : s.Founded := by
  constructor
  · intro task member c relied
    rw [h.tasks task member] at relied
    cases relied
  · intro identity c entry
    rw [h.directory] at entry
    cases entry

theorem Run.founded (h : Run Genuine states) : ∀ s ∈ states, s.Founded := by
  induction h with
  | start initial =>
    intro s member
    rw [List.mem_singleton.1 member]
    exact initial.founded
  | step _ step ih =>
    intro s member
    rcases List.mem_cons.1 member with rfl | member
    · exact (step.moves (ih _ (List.mem_cons_self ..))).founded
    · exact ih s member

theorem Run.course (h : Run Genuine states) (c : ConnectionId) :
    Traffic.Course (states.map (traffic c)) := by
  induction h with
  | start initial =>
    refine .start ?_ fun t => ?_
    · simp [traffic, initial.connections]
    · simp only [traffic]
      cases found : (_ : System).tasks[t]? with
      | none => rfl
      | some task =>
        rw [initial.tasks task (List.mem_of_getElem? found)]
        rfl
  | step run step ih =>
    exact .move ih ((step.moves (run.founded _ (List.mem_cons_self ..))).traffic c)

end System

end Fleetwire
