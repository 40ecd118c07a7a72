import Mathlib.Algebra.BigOperators.Group.List.Basic
import Mathlib.Algebra.GroupWithZero.Nat
import Mathlib.Data.Prod.Lex
import Fleetwire.Proofs.Dialogue.Sound
import Fleetwire.Proofs.Quiescence.Order
import Fleetwire.Proofs.Tasks

namespace Fleetwire

theorem Calling.rank_pos (phase : Calling) : 0 < phase.rank := by
  cases phase with
  | send _ _ _ phase => cases phase <;> exact Nat.zero_lt_succ _
  | register | wait | forget => exact Nat.zero_lt_succ _

def Task.isSpawned (c : ConnectionId) : Task → Bool
  | supervise own .spawned => own = c
  | _ => false

def Task.effort (c : ConnectionId) (task : Task) : Nat :=
  match task.call? c with
  | some call => call.phase.rank
  | none => if task.isSpawned c then 1 else 0

def Task.Engaged (c : ConnectionId) (task : Task) : Prop := task.call? c ≠ none ∨ task.station c = .serving

/-- Bytes that are still to be read, taken apart, framed or written, each counted as often as it can be acted on. -/
def Lane.load (x : Lane) : Nat :=
  ((x.accepted.drop x.takenCount).map fun envelope => envelope.length + Frame.lengthSize + 1).sum + x.writing.length +
    2 * (x.came.length - x.readCount) + x.inbox.held.length

namespace System

def effort (s : System) (c : ConnectionId) : Nat := (s.tasks.map (Task.effort c)).sum

def load (s : System) (c : ConnectionId) : Nat := ((s.flow c).lane.map Lane.load).getD 0

/-- A call may leave an envelope behind for each of its actions, so calls weigh more than bytes. -/
def work (s : System) (c : ConnectionId) : Nat ×ₗ Nat := toLex (s.effort c, s.load c)

def Engages (s : System) (c : ConnectionId) (t : TaskId) : Prop := ∃ task, s.tasks[t]? = some task ∧ task.Engaged c

end System

variable {s s' s₁ : System} {c : ConnectionId} {t : TaskId} {x : Connection} {task task' : Task} {call : Call}

theorem Task.effort_of_call? (calls : task.call? c = some call) : task.effort c = call.phase.rank := by
  rw [effort, calls]

theorem Task.effort_of_idle (idle : ¬ task.Engaged c) : task.effort c = 0 := by
  obtain ⟨silent, away⟩ := not_or.1 idle
  have unspawned : ¬ task.isSpawned c := by
    intro spawned
    cases task with
    | supervise own phase =>
      cases phase with
      | spawned => exact away (if_pos (of_decide_eq_true spawned))
      | _ => cases spawned
    | _ => cases spawned
  rw [effort, not_not.1 silent]
  exact if_neg unspawned

theorem Calling.station_ne_serving (phase : Calling) : phase.station ≠ .serving := by
  cases phase <;> simp [station]

theorem Task.of_serving (serving : task.station c = .serving) :
    task = .supervise c .spawned ∨ task = .supervise c .serving := by
  cases task with
  | supervise own phase =>
    simp only [station] at serving
    split at serving
    next same =>
      subst same
      cases phase with
      | spawned => exact .inl rfl
      | serving => exact .inr rfl
      | _ => cases serving
    · cases serving
  | accept own phase =>
    simp only [station] at serving
    split at serving
    · cases phase with
      | handshake call => exact absurd serving call.phase.station_ne_serving
      | _ => cases serving
    · cases serving
  | handle own id phase =>
    simp only [station] at serving
    split at serving
    · cases phase with
      | acting left doing =>
        cases doing with
        | relaying call => exact absurd serving call.phase.station_ne_serving
        | _ => cases serving
      | _ => cases serving
    · cases serving
  | operate own phase =>
    simp only [station] at serving
    split at serving
    · cases phase with
      | calling shape call => exact absurd serving call.phase.station_ne_serving
      | _ => cases serving
    · cases serving
  | listen => cases serving

theorem Calling.of_station {phase : Calling} {message : Message} {sending : Sending}
    (sends : phase.station = .sending message sending) :
    ∃ slot deadline, phase = .send message slot deadline sending := by
  cases phase <;> cases sends
  exact ⟨_, _, rfl⟩

theorem Task.of_sending {message : Message} {phase : Sending} (sends : task.station c = .sending message phase) :
    (∃ call slot deadline, task.call? c = some call ∧ call.phase = .send message slot deadline phase) ∨
      (∃ id doing, task = .handle c id doing) ∨ task = .operate c (.sending message phase) := by
  cases task with
  | supervise own phase =>
    simp only [station] at sends
    split at sends
    · cases phase <;> cases sends
    · cases sends
  | accept own phase =>
    simp only [station] at sends
    split at sends
    next same =>
      cases phase with
      | handshake call =>
        obtain ⟨slot, deadline, sent⟩ := Calling.of_station sends
        exact .inl ⟨call, slot, deadline, by simp [call?, part, Accepting.part, same], sent⟩
      | _ => cases sends
    · cases sends
  | handle own id phase =>
    simp only [station] at sends
    split at sends
    next same => exact .inr (.inl ⟨id, phase, same ▸ rfl⟩)
    · cases sends
  | operate own phase =>
    simp only [station] at sends
    split at sends
    next same =>
      subst same
      cases phase with
      | calling shape call =>
        obtain ⟨slot, deadline, sent⟩ := Calling.of_station sends
        exact .inl ⟨call, slot, deadline, by simp [call?, part, Operating.part], sent⟩
      | sending =>
        cases sends
        exact .inr (.inr rfl)
      | _ => cases sends
    · cases sends
  | listen => cases sends

theorem Call.next_rank_lt (here : s.connections[c]? = some x) {phase : Calling}
    (h : (.going phase, s') ∈ call.next s c t) : phase.rank < call.phase.rank := by
  obtain ⟨n, e, _, act, _⟩ := Call.next_comes here h
  exact act.rank_lt

theorem Accepting.next_effort {out : Accepting × System} (h : out ∈ (Accepting.handshake call).next s c t) :
    (Task.accept c out.1).effort c < call.phase.rank := by
  obtain ⟨x, here, action⟩ := action_of_next h
  cases action with
  | @ask _ phase s₁ acted =>
    have calls : (Task.accept c (.handshake { call with phase })).call? c = some { call with phase } := by
      simp [Task.call?, Task.part, Accepting.part]
    rw [Task.effort_of_call? calls]
    exact Call.next_rank_lt here acted
  | @introduce _ response s₁ =>
    have done : (Task.accept c (introduce s₁ c x response).1).effort c = 0 := by
      unfold introduce
      split <;> simp [Task.effort, Task.call?, Task.part, Accepting.part, Closing.part, Task.isSpawned]
    exact done ▸ call.phase.rank_pos

theorem Operating.next_effort (here : s.connections[c]? = some x) {shape : Option MessagePack.Shape}
    {out : Operating × System} (h : out ∈ (Operating.calling shape call).next s c t) :
    (Task.operate c out.1).effort c < call.phase.rank := by
  obtain ⟨⟨progress, s₁⟩, acted, rfl⟩ := List.mem_map.1 h
  cases progress with
  | going phase =>
    have calls : (Task.operate c (.calling shape { call with phase })).call? c = some { call with phase } := by
      simp [Task.call?, Task.part, Operating.part]
    rw [Task.effort_of_call? calls]
    exact Call.next_rank_lt here acted
  | ended response =>
    have done : (Task.operate c (.finished (result call.kind shape response))).effort c = 0 := by
      simp [Task.effort, Task.call?, Task.part, Operating.part, Task.isSpawned]
    exact done ▸ call.phase.rank_pos

theorem Socket.arrival_bytes {socket : Socket} {chunk : Bytes} (arrives : socket.arrival = .bytes chunk) :
    chunk.length ≤ socket.incoming.waiting.length := by
  unfold Socket.arrival at arrives
  dsimp only at arrives
  split at arrives
  · cases arrives
  · split at arrives
    · cases arrives
      exact Nat.zero_le _
    · cases arrives
  · cases arrives
    exact List.length_take_le' ..

namespace Lane

variable {x : Lane}

theorem load_receive {payload : Bytes} {inbox : FrameBuffer} (found : x.inbox.next? = .ok (some (payload, inbox)))
    (routed : List Message) : ({ x with inbox, routed } : Lane).load < x.load := by
  obtain ⟨-, frame, encoded, held, -⟩ := FrameBuffer.next?_payload found
  have size := Frame.length_encode encoded
  simp only [load, held, List.length_append, size, Frame.lengthSize]
  omega

theorem load_fetch {chunk : Bytes} (some : chunk ≠ []) (waits : chunk.length ≤ x.came.length - x.readCount) :
    ({ x with inbox := x.inbox.extend chunk, readCount := x.readCount + chunk.length } : Lane).load < x.load := by
  have size := List.length_pos_iff.2 some
  simp only [load, FrameBuffer.extend, List.length_append]
  omega

theorem load_take {envelope frame : Bytes} (idle : x.writing = []) (next : x.accepted[x.takenCount]? = some envelope)
    (encoded : Frame.encode envelope = .ok frame) :
    ({ x with takenCount := x.takenCount + 1, writing := frame } : Lane).load < x.load := by
  have size := Frame.length_encode encoded
  have first : x.accepted.drop x.takenCount = envelope :: x.accepted.drop (x.takenCount + 1) := by
    obtain ⟨inside, rfl⟩ := List.getElem?_eq_some_iff.1 next
    exact List.drop_eq_getElem_cons inside
  simp only [load, first, idle, size, List.map_cons, List.sum_cons, List.length_nil]
  omega

theorem load_write {count : Nat} (some : 0 < count) (busy : x.writing ≠ []) (went : Bytes) :
    ({ x with went, writing := x.writing.drop count } : Lane).load < x.load := by
  have size := List.length_pos_iff.2 busy
  simp only [load, List.length_drop]
  omega

end Lane

theorem System.connection_update (here : s.connections[c]? = some x) (f : Connection → Connection) :
    (s.update c f).connections[c]? = some (f x) := by
  simp [update, here]

namespace Supervising

/-- The connection was `x`; if it stays open, something was read, taken apart, framed or written. -/
def Unloads (c : ConnectionId) (x : Connection) (out : Supervising × System) : Prop :=
  ∃ x', out.2.connections[c]? = some x' ∧ (x'.outbox.isOpen → out.1 = .serving ∧ x'.lane.load < x.lane.load)

theorem leave_unloads {y : Connection} (here : s.connections[c]? = some y) (departure : Departure) :
    Unloads c x (leave s c departure) := by
  refine ⟨_, System.connection_update here _, fun isOpen => ?_⟩
  cases isOpen

theorem receive_unloads (here : s.connections[c]? = some x) {payload : Bytes} {inbox : FrameBuffer}
    (found : x.inbox.next? = .ok (some (payload, inbox))) : Unloads c x (.serving, receive s c x payload inbox) := by
  have less (routed : List Message) : ({ x.lane with inbox, routed } : Lane).load < x.lane.load :=
    Lane.load_receive found routed
  unfold receive
  split
  · exact ⟨_, System.connection_update here _, fun _ => ⟨rfl, less x.routed⟩⟩
  next message _ =>
    dsimp only
    split <;> exact ⟨_, System.connection_update here _, fun _ => ⟨rfl, less (x.routed ++ [message])⟩⟩

theorem Action.unloads (here : s.connections[c]? = some x) {out : Supervising × System}
    (action : Action s c t x .serving out) : Unloads c x out := by
  cases action with
  | receive found => exact receive_unloads here found
  | @fetch chunk _ arrives some =>
    have waits : chunk.length ≤ x.lane.came.length - x.lane.readCount := by
      have size := Socket.arrival_bytes arrives
      rwa [Pipe.waiting, List.length_drop] at size
    exact ⟨_, System.connection_update here _, fun _ => ⟨rfl, Lane.load_fetch some waits⟩⟩
  | load done taken encoded =>
    obtain ⟨next, rfl⟩ := Outbox.take?_eq_some.1 taken
    have less := Lane.load_take (x := x.lane) done next (Lane.encode_of_encodeWithin encoded)
    exact ⟨_, System.connection_update here _, fun _ => ⟨rfl, less⟩⟩
  | reject => exact leave_unloads (System.connection_update here _) _
  | write busy _ some =>
    have busy : x.lane.writing ≠ [] := busy
    exact ⟨_, System.connection_update here _, fun _ => ⟨rfl, Lane.load_write (Nat.pos_of_ne_zero some) busy _⟩⟩
  | leave => exact leave_unloads here _

end Supervising

namespace System

theorem lane_of_carries (carries : task.Carries s s₁ task')
    (idle : task.station c = .none ∨ task.station c = .retired) :
    (s₁.flow c).lane = (s.flow c).lane := by
  have act := carries.act c
  generalize task.station c = p, Task.sent? c task task' = posted, task'.station c = p', s₁.flow c = l' at act idle
  cases act with
  | rest => rfl
  | act here act =>
    rw [here]
    rcases idle with rfl | rfl
    · cases act
      rfl
    · cases act

theorem listen_lane (inside : c < s.connections.length) {phase : Listening} {out : Listening × System}
    (h : out ∈ phase.next s) : (out.2.flow c).lane = (s.flow c).lane := by
  have still {s' : System} (still : s.Still s') : (s'.flow c).lane = (s.flow c).lane := by rw [still.flow]
  cases phase with
  | accepting =>
    rcases List.mem_append.1 h with stops | accepts
    · split at stops
      · cases List.mem_singleton.1 stops
        rfl
      · cases stops
    · split at accepts
      · cases accepts
      next addr settings socket arrivals waiting =>
        cases List.mem_singleton.1 accepts
        dsimp only
        unfold System.takeOver?
        dsimp only
        cases Connection.ofSocket? addr settings socket with
        | none => rfl
        | some made => simp [System.flow, System.spawn, List.getElem?_append_left inside]
  | snapshot =>
    cases List.mem_singleton.1 h
    rfl
  | halt agents =>
    cases List.mem_singleton.1 h
    exact still (.haltAll s)
  | closing agents closing =>
    cases agents with
    | nil =>
      cases List.mem_singleton.1 h
      rfl
    | cons agent agents =>
      obtain ⟨⟨progress, s₁⟩, closed, rfl⟩ := List.mem_map.1 h
      have quiet := still (Closing.next_still closed)
      cases progress <;> exact quiet
  | finished => cases h

theorem effort_of_begins {new : List Task} (begins : s.Begins s' new) (inside : c < s.connections.length) :
    ∀ task ∈ new, task.effort c = 0 := by
  intro task member
  cases begins with
  | nothing => cases member
  | job =>
    rw [List.mem_singleton.1 member]
    simp [Task.effort, Task.call?, Task.part, Handling.part, Task.isSpawned]
  | connection =>
    have other : s.connections.length ≠ c := Nat.ne_of_gt inside
    rcases List.mem_cons.1 member with rfl | member
    · simp [Task.effort, Task.call?, Task.part, Accepting.part, Task.isSpawned, other]
    · rw [List.mem_singleton.1 member]
      simp [Task.effort, Task.call?, Task.part, Task.isSpawned, other]

theorem effort_of_turns (turns : s.Turns t task s₁ task') (found : s.tasks[t]? = some task)
    (inside : c < s.connections.length) :
    (s₁.setTask t task').effort c + task.effort c = s.effort c + task'.effort c := by
  obtain ⟨new, begins, tasks⟩ := turns.tasks
  have whole : ((s.tasks ++ new).map (Task.effort c)).sum = s.effort c := by
    have begun : (new.map (Task.effort c)).sum = 0 := by
      refine List.sum_eq_zero fun effort member => ?_
      obtain ⟨task, among, rfl⟩ := List.mem_map.1 member
      exact effort_of_begins begins inside task among
    rw [List.map_append, List.sum_append, begun, effort, Nat.add_zero]
  have before : t < s.tasks.length := (List.getElem?_eq_some_iff.1 found).1
  have there : (s.tasks ++ new)[t]? = some task := by rw [List.getElem?_append_left before, found]
  obtain ⟨within, rfl⟩ := List.getElem?_eq_some_iff.1 there
  -- Both sums are that of the other tasks and one more.
  have sum (other : Task) : (((s.tasks ++ new).set t other).map (Task.effort c)).sum =
      (((s.tasks ++ new).map (Task.effort c)).take t).sum + other.effort c +
        (((s.tasks ++ new).map (Task.effort c)).drop (t + 1)).sum := by
    rw [List.map_set, List.sum_set, List.length_map, if_pos within]
  have former := sum (s.tasks ++ new)[t]
  rw [List.set_getElem_self, whole] at former
  rw [former, effort, tasks, sum]
  omega

variable {past : List System} {answers : Answers}

theorem InDialogue.effort_lt (dialogue : s.InDialogue past c) (here : s.connections[c]? = some x)
    (found : s.tasks[t]? = some task) (calls : task.call? c = some call) (h : s' ∈ s.next t)
    (now : s'.tasks[t]? = some task') : task'.effort c < task.effort c := by
  rw [Task.effort_of_call? calls]
  rcases Task.call?_cases calls with rfl | ⟨id, left, rfl⟩ | ⟨shape, rfl⟩
  · simp only [next, found, List.mem_map] at h
    obtain ⟨out, acted, rfl⟩ := h
    rw [eq_of_setTask now]
    exact Accepting.next_effort acted
  · exact absurd found (dialogue.jobless t id _)
  · simp only [next, found, List.mem_map] at h
    obtain ⟨out, acted, rfl⟩ := h
    rw [eq_of_setTask now]
    exact Operating.next_effort here acted

theorem serving_work (here : s.connections[c]? = some x) (found : s.tasks[t]? = some (.supervise c .serving))
    (h : s' ∈ s.next t) (isOpen : ∀ x', s'.connections[c]? = some x' → x'.outbox.isOpen)
    (now : s'.tasks[t]? = some task') : task' = .supervise c .serving ∧ s'.load c < s.load c := by
  simp only [next, found, List.mem_map, Supervising.next, here] at h
  obtain ⟨out, acted, rfl⟩ := h
  obtain ⟨x', there, unloads⟩ := (Supervising.action_of_serve (t := t) acted).unloads here
  obtain ⟨serving, less⟩ := unloads (isOpen x' there)
  refine ⟨(eq_of_setTask now).trans (congrArg _ serving), ?_⟩
  have after : ((out.2.setTask t (.supervise c out.1)).flow c).lane = some x'.lane := lane_of_connection there
  rw [load, load, after, lane_of_connection here]
  exact less

theorem Dialogue.operation (h : Dialogue answers c s past) (here : s.connections[c]? = some x) {phase : Operating}
    (found : s.tasks[t]? = some (.operate c phase)) :
    (∃ shape call, phase = .calling shape call) ∨ ∃ result, phase = .finished result := by
  cases (h.conversing s List.mem_cons_self x here).typed t _ found with
  | calling => exact .inl ⟨_, _, rfl⟩
  | finished => exact .inr ⟨_, rfl⟩

theorem Dialogue.idle (h : Dialogue answers c s past) (here : s.connections[c]? = some x)
    (found : s.tasks[t]? = some task) (idle : ¬ task.Engaged c) (acts : s' ∈ s.next t)
    (now : s'.tasks[t]? = some task') : ¬ task'.Engaged c := by
  obtain ⟨silent, away⟩ := not_or.1 idle
  obtain ⟨former, s₁, later, there, turns, same⟩ := next_turns h.run.basis.1 acts
  obtain rfl := Option.some.inj (there.symm.trans found)
  obtain rfl : task' = later := eq_of_setTask (same ▸ now)
  have akin := turns.akin
  rintro (calls | serving)
  · obtain ⟨call, calls⟩ := Option.ne_none_iff_exists'.1 calls
    rcases Task.call?_cases calls with rfl | ⟨id, left, rfl⟩ | ⟨shape, rfl⟩
    -- Whoever calls after the action has called before it.
    · cases akin with
      | accept asks =>
        obtain ⟨call, rfl, -⟩ := asks _ rfl
        exact silent (by simp [Task.call?, Task.part, Accepting.part])
    · cases akin with
      | handle => exact h.sound.1.jobless t _ _ found
    · cases akin with
      | operate =>
        rcases h.operation here found with ⟨shape, call, rfl⟩ | ⟨result, rfl⟩
        · exact silent (by simp [Task.call?, Task.part, Operating.part])
        · simp [next, found, Operating.next] at acts
  -- A supervisor that has left does not come back.
  · have left : ∀ phase later, former = .supervise c phase → task' = .supervise c later → later.hasLeft := by
      rintro phase later rfl rfl
      have hasLeft : phase.hasLeft := by
        cases phase with
        | spawned | serving => exact absurd (if_pos rfl) away
        | _ => rfl
      simp only [next, found, List.mem_map] at acts
      obtain ⟨out, acted, rfl⟩ := acts
      cases eq_of_setTask now
      exact Supervising.next_hasLeft hasLeft acted
    rcases Task.of_serving serving with rfl | rfl <;> cases akin with
      | supervise => cases left _ _ rfl rfl

theorem Dialogue.station (h : Dialogue answers c s past) (here : s.connections[c]? = some x)
    (found : s.tasks[t]? = some task) (idle : ¬ task.Engaged c) :
    task.station c = .none ∨ task.station c = .retired := by
  obtain ⟨silent, away⟩ := not_or.1 idle
  cases station : task.station c with
  | none => exact .inl rfl
  | retired => exact .inr rfl
  | serving => exact absurd station away
  | sending message phase =>
    rcases Task.of_sending station with ⟨call, slot, deadline, calls, -⟩ | ⟨id, doing, rfl⟩ | rfl
    · exact absurd (calls ▸ Option.some_ne_none call) silent
    · exact absurd found (h.sound.1.jobless t id doing)
    · rcases h.operation here found with ⟨shape, call, same⟩ | ⟨result, same⟩ <;> cases same

/-- Each action of a task that is engaged on the connection does a part of the work there, and those of other tasks
leave it as it is. -/
theorem Dialogue.next_work (h : Dialogue answers c s' (s :: past)) (here : s.connections[c]? = some x)
    (acts : s' ∈ s.next t) :
    (s.Engages c t → s'.work c < s.work c) ∧ (¬ s.Engages c t → s'.work c = s.work c) := by
  have founded := h.earlier.run.basis.1
  have inside : c < s.connections.length := (List.getElem?_eq_some_iff.1 here).1
  obtain ⟨task, s₁, task', found, turns, same⟩ := next_turns founded acts
  have now : s'.tasks[t]? = some task' := same ▸ turns.acted found
  have efforts : s'.effort c + task.effort c = s.effort c + task'.effort c :=
    same ▸ effort_of_turns turns found inside
  constructor
  · rintro ⟨actor, there, calls | serving⟩ <;> obtain rfl := Option.some.inj (there.symm.trans found)
    · obtain ⟨call, calls⟩ := Option.ne_none_iff_exists'.1 calls
      have less := h.earlier.sound.1.effort_lt here found calls acts now
      exact Prod.Lex.toLex_lt_toLex.2 (.inl (by dsimp only; omega))
    · rcases Task.of_serving serving with rfl | rfl
      · simp only [next, found, Supervising.next, here, List.map_cons, List.map_nil, List.mem_singleton] at acts
        obtain rfl := eq_of_setTask (acts ▸ now)
        refine Prod.Lex.toLex_lt_toLex.2 (.inl ?_)
        have begun : (Task.supervise c .spawned).effort c = 1 := by
          simp [Task.effort, Task.call?, Task.part, Supervising.part, Task.isSpawned]
        have serves : (Task.supervise c .serving).effort c = 0 := by
          simp [Task.effort, Task.call?, Task.part, Supervising.part, Task.isSpawned]
        dsimp only
        omega
      · have isOpen : ∀ x', s'.connections[c]? = some x' → x'.outbox.isOpen := fun x' there =>
          (h.conversing s' List.mem_cons_self x' there).isOpen.2.2
        obtain ⟨rfl, less⟩ := serving_work here found acts isOpen now
        refine Prod.Lex.toLex_lt_toLex.2 (.inr ⟨?_, less⟩)
        dsimp only
        omega
  -- Nobody but who is engaged has an effort, so it stays as it is with the load.
  · intro others
    have idle : ¬ task.Engaged c := fun engaged => others ⟨task, found, engaged⟩
    have before := Task.effort_of_idle idle
    have after := Task.effort_of_idle (h.earlier.idle here found idle acts now)
    have load : s'.load c = s.load c := by
      have lane : (s'.flow c).lane = (s.flow c).lane := by
        rcases next_carries founded acts with ⟨actor, s₁, _, there, carries, rfl⟩ | ⟨phase, -, out, acted, rfl⟩
        · obtain rfl := Option.some.inj (there.symm.trans found)
          have same : (s₁.flow c).lane = (s.flow c).lane :=
            lane_of_carries carries (h.earlier.station here found idle)
          exact same
        · exact listen_lane inside acted
      rw [System.load, System.load, lane]
    rw [work, work, load, show s'.effort c = s.effort c by omega]

end System

end Fleetwire
