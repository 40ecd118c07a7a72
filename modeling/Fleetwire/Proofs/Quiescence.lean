import Fleetwire.Proofs.Quiescence.Order
import Fleetwire.Proofs.Replay

namespace Fleetwire

/-- The connection has to be closed: nothing more can come in, or go out, a handler broke down, or it was told
to close. -/
inductive Connection.Doomed (x : Connection) : Prop where
  | ended (h : x.socket.incoming.ended)
  | unreadable {reason : String} (h : x.socket.arrival = .fault reason)
  | malformed {error : StreamError} (h : x.inbox.next? = .error error)
  | unwritable {reason : String} (writing : x.writing ≠ [])
    (h : x.socket.accepts x.writing.length = .error reason)
  | fault (h : x.router.faulted)
  | halted (h : x.halted)

def Task.engaged : Task → Bool
  | accept _ (.handshake _) | accept _ (.finished _) => false
  | accept _ _ => true
  | task => task.closing?.isSome

theorem Socket.arrival_ne_notReady {socket : Socket} (ended : socket.incoming.ended) :
    socket.arrival ≠ .notReady := by
  unfold arrival
  dsimp only
  split
  · nofun
  · rw [if_pos ended]
    nofun
  · nofun

namespace Supervising

variable {s : System} {c : ConnectionId} {x : Connection}

theorem inbound_ne_nil (stops : x.socket.arrival ≠ .notReady ∨ ∃ error, x.inbox.next? = .error error) :
    inbound s c x ≠ [] := by
  unfold inbound
  split
  · exact List.cons_ne_nil _ _
  · exact List.cons_ne_nil _ _
  next found =>
    split
    next waits =>
      rcases stops with arrives | ⟨error, malformed⟩
      · exact absurd waits arrives
      · rw [found] at malformed
        cases malformed
    · exact List.cons_ne_nil _ _
    · exact List.cons_ne_nil _ _
    · exact List.cons_ne_nil _ _

theorem serve_ne_nil (doomed : x.Doomed) : serve s c x ≠ [] := by
  unfold serve
  simp only [ne_eq, List.append_eq_nil_iff, not_and]
  rintro ⟨⟨noInbound, noOutbound⟩, noFault⟩ notHalted
  cases doomed with
  | ended h => exact inbound_ne_nil (.inl (Socket.arrival_ne_notReady h)) noInbound
  | unreadable h =>
    have stops : x.socket.arrival ≠ .notReady := by
      rw [h]
      nofun
    exact inbound_ne_nil (.inl stops) noInbound
  | malformed h => exact inbound_ne_nil (.inr ⟨_, h⟩) noInbound
  | unwritable writing h =>
    have busy : x.writing.isEmpty = false := List.isEmpty_eq_false_iff.2 writing
    simp [outbound, busy, h] at noOutbound
  | fault h => simp [h] at noFault
  | halted h => simp [h] at notHalted

end Supervising

theorem Closing.waits_of_next {s : System} {c : ConnectionId} {x : Connection} {closing : Closing}
    (here : s.connections[c]? = some x) (idle : closing.next s c = []) : closing = .wait ∧ x.stage ≠ .closed := by
  cases closing with
  | wait =>
    simp only [Closing.next, here] at idle
    split at idle
    · cases idle
    next isOpen => exact ⟨rfl, isOpen⟩
  | look =>
    simp only [Closing.next, here] at idle
    cases idle
  | claim =>
    simp only [Closing.next, here] at idle
    split at idle <;> cases idle
  | halt | failAll | publish => cases idle

namespace System

variable {s : System} {t u : TaskId} {c : ConnectionId} {x : Connection} {past : List System}

/-- No task can go on, and nobody waits for a collaborator. -/
structure AtRest (s : System) : Prop where
  idle : ∀ t, s.next t = []
  settled : ∀ task ∈ s.tasks, task.errand? = none

theorem atRest_iff :
    s.AtRest ↔ (∀ t < s.tasks.length, (s.next t).isEmpty) ∧ ∀ task ∈ s.tasks, task.errand?.isNone := by
  simp only [List.isEmpty_iff, Option.isNone_iff_eq_none]
  constructor
  · rintro ⟨idle, settled⟩
    exact ⟨fun t _ => idle t, settled⟩
  · rintro ⟨idle, settled⟩
    refine ⟨fun t => ?_, settled⟩
    by_cases inside : t < s.tasks.length
    · exact idle t inside
    · simp [System.next, Nat.le_of_not_lt inside]

instance (s : System) : Decidable s.AtRest := decidable_of_iff _ atRest_iff.symm

/-- The supervisor of the connection has found a reason to leave it. -/
def Departing (s : System) (c : ConnectionId) : Prop :=
  ∃ (u : TaskId) (departure : Departure), s.tasks[u]? = some (.supervise c (.leaving departure))

theorem AtRest.not_errand (rest : s.AtRest) {task : Task} {errand : ConnectionId × Errand × Bool}
    (found : s.tasks[t]? = some task) (underWay : task.errand? = some errand) : False := by
  rw [rest.settled task (List.mem_of_getElem? found)] at underWay
  cases underWay

theorem accept_of_duty {p : Entering} (duty : s.lifecycle.duty t = .accept c p) :
    ∃ phase, s.tasks[t]? = some (.accept c phase) ∧ phase.stance = p := by
  simp only [System.lifecycle] at duty
  cases found : s.tasks[t]? with
  | none =>
    rw [found] at duty
    cases duty
  | some task =>
    rw [found] at duty
    cases task with
    | accept own phase =>
      cases duty
      exact ⟨phase, rfl, rfl⟩
    | _ => cases duty

theorem supervise_of_duty {q : Leaving} (duty : s.lifecycle.duty u = .supervise c q) :
    ∃ phase, s.tasks[u]? = some (.supervise c phase) ∧ phase.stance = q := by
  simp only [System.lifecycle] at duty
  cases found : s.tasks[u]? with
  | none =>
    rw [found] at duty
    cases duty
  | some task =>
    rw [found] at duty
    cases task with
    | supervise own phase =>
      cases duty
      exact ⟨phase, rfl, rfl⟩
    | _ => cases duty

theorem connection_of_life {life : Life} (h : s.lifecycle.life c = some life) :
    ∃ x, s.connections[c]? = some x ∧ x.life = life :=
  Option.map_eq_some_iff.1 h

theorem AtRest.accept_waits (rest : s.AtRest) (order : s.InOrder) {phase : Accepting}
    (found : s.tasks[t]? = some (.accept c phase)) (here : s.connections[c]? = some x) :
    phase.stance.Waits s.lifecycle t x.life := by
  have idle := rest.idle t
  simp only [System.next, found, List.map_eq_nil_iff] at idle
  obtain ⟨u, q, stands⟩ :=
    order.linedUp.staffed.stands_of_accept (duty_of_task found) (life_of_connection here)
  obtain ⟨told, sound⟩ := order.linedUp.sound stands
  -- Whoever registers knows the identity, and so can go on where no lock is to be waited for.
  have known : phase.stance.introduced → ∃ announced, x.announced = some announced :=
    fun introduced => Option.ne_none_iff_exists'.1 (sound.introduced.known introduced)
  cases phase with
  | handshake | replace => trivial
  | finished result => cases result <;> trivial
  | marking | announcing => exact (rest.not_errand found rfl).elim
  | refuse error closing =>
    cases closing with
    | failAll | publish =>
      simp only [Accepting.next, here] at idle
      cases List.map_eq_nil_iff.1 idle
    | _ => trivial
  | awaitLifecycle =>
    obtain ⟨announced, known⟩ := known rfl
    simp only [Accepting.next, here, known, Accepting.register] at idle
    split at idle
    · cases idle
    next waits => exact waits
  | awaitIdentity =>
    obtain ⟨announced, known⟩ := known rfl
    simp only [Accepting.next, here, known, Accepting.register] at idle
    split at idle
    · cases idle
    next waits =>
      intro identity same
      have own : announced.identity = identity := by
        simpa [Life.identity?, Connection.life, known] using same
      rw [← own]
      exact waits
  | _ =>
    obtain ⟨announced, known⟩ := known rfl
    simp only [Accepting.next, here, known, Accepting.register] at idle
    cases idle

theorem AtRest.supervise_waits (rest : s.AtRest) {phase : Supervising}
    (found : s.tasks[u]? = some (.supervise c phase)) (here : s.connections[c]? = some x) :
    phase.stance.Waits s.lifecycle u x.life := by
  have idle := rest.idle u
  simp only [System.next, found, List.map_eq_nil_iff] at idle
  cases phase with
  | spawned | serving | leaving | claim | finished => trivial
  | marking | announcing => exact (rest.not_errand found rfl).elim
  | awaitLifecycle failed =>
    simp only [Supervising.next, here] at idle
    split at idle
    · split at idle <;> cases idle
    next waits => exact waits
  | awaitIdentity failed identity =>
    simp only [Supervising.next, here] at idle
    split at idle
    · cases idle
    next waits => exact waits
  | _ =>
    simp only [Supervising.next, here] at idle
    cases idle

theorem AtRest.lifecycle (rest : s.AtRest) (order : s.InOrder) : s.lifecycle.AtRest := by
  constructor
  · intro t c p life duty alive
    obtain ⟨phase, found, rfl⟩ := accept_of_duty duty
    obtain ⟨x, here, rfl⟩ := connection_of_life alive
    exact rest.accept_waits order found here
  · intro u c q life duty alive
    obtain ⟨phase, found, rfl⟩ := supervise_of_duty duty
    obtain ⟨x, here, rfl⟩ := connection_of_life alive
    exact rest.supervise_waits found here

theorem AtRest.serves_or_gone (rest : s.AtRest) (order : s.InOrder) (here : s.connections[c]? = some x) :
    (∃ u : TaskId, s.tasks[u]? = some (.supervise c .serving)) ∧ Supervising.serve s c x = [] ∨
      x.stage = .closed ∧ ∀ identity, s.directory.get? identity ≠ some c := by
  obtain ⟨t, p, u, q, stands⟩ := order.linedUp.staffed.stands (life_of_connection here)
  obtain ⟨phase, found, stance⟩ := supervise_of_duty stands.supervises
  have idle := rest.idle u
  simp only [System.next, found, List.map_eq_nil_iff] at idle
  rcases (order.linedUp.rests (rest.lifecycle order) stands).2 with serving | finished
  · left
    rw [serving] at stance
    cases phase with
    | serving =>
      simp only [Supervising.next, here] at idle
      exact ⟨⟨u, found⟩, idle⟩
    | spawned | leaving =>
      simp only [Supervising.next, here] at idle
      cases idle
    | claim =>
      simp only [Supervising.next, here] at idle
      split at idle <;> cases idle
    | _ => cases stance
  · right
    subst finished
    exact order.linedUp.gone (rest.lifecycle order) stands

theorem AtRest.gone_of_doomed (rest : s.AtRest) (order : s.InOrder) (here : s.connections[c]? = some x)
    (doomed : x.Doomed) : x.stage = .closed ∧ ∀ identity, s.directory.get? identity ≠ some c := by
  rcases rest.serves_or_gone order here with ⟨_, idle⟩ | gone
  · exact absurd idle (Supervising.serve_ne_nil doomed)
  · exact gone

theorem AtRest.gone_of_left (rest : s.AtRest) (order : s.InOrder) (here : s.connections[c]? = some x)
    (left : s.Left u c) : x.stage = .closed ∧ ∀ identity, s.directory.get? identity ≠ some c := by
  rcases rest.serves_or_gone order here with ⟨⟨v, serving⟩, _⟩ | gone
  · obtain ⟨phase, found, hasLeft⟩ := left
    have same : u = v :=
      order.linedUp.staffed.supervisor_unique (duty_of_task found) (duty_of_task serving)
    subst same
    rw [serving] at found
    cases found
    cases hasLeft
  · exact gone

theorem AtRest.not_closing (rest : s.AtRest) (run : Run Regular (s :: past)) {task : Task} {closing : Closing}
    (found : s.tasks[t]? = some task) (part : task.part c = closing.part) (here : s.connections[c]? = some x) :
    closing.next s c ≠ [] := by
  intro idle
  obtain ⟨waits, isOpen⟩ := Closing.waits_of_next here idle
  subst waits
  obtain ⟨y, there, halted⟩ := run.halted found part
  rw [here] at there
  cases there
  exact isOpen (rest.gone_of_doomed (run.inOrder s (List.mem_cons_self ..)) here (.halted halted)).1

theorem AtRest.accept_disengaged (rest : s.AtRest) (run : Run Regular (s :: past)) {phase : Accepting}
    (found : s.tasks[t]? = some (.accept c phase)) : (Task.accept c phase).engaged = false := by
  have order := run.inOrder s (List.mem_cons_self ..)
  have idle := rest.idle t
  simp only [System.next, found, List.map_eq_nil_iff] at idle
  have living := order.linedUp.staffed.acceptor_living (duty_of_task found)
  obtain ⟨life, alive⟩ := Option.ne_none_iff_exists'.1 living
  obtain ⟨x, here, rfl⟩ := connection_of_life alive
  obtain ⟨u, q, stands⟩ := order.linedUp.staffed.stands_of_accept (duty_of_task found) alive
  have ended := (order.linedUp.rests (rest.lifecycle order) stands).1
  cases phase with
  | handshake | finished => rfl
  | refuse error closing =>
    simp only [Accepting.next, here] at idle
    exact absurd (List.map_eq_nil_iff.1 idle) (rest.not_closing run found (if_pos rfl) here)
  | replace old closing =>
    obtain ⟨told, sound⟩ := order.linedUp.sound stands
    obtain ⟨announced, known⟩ : ∃ announced, x.announced = some announced :=
      Option.ne_none_iff_exists'.1 (sound.introduced.known rfl)
    simp only [Accepting.next, here, known, Accepting.register] at idle
    have relied : old ∈ [c, old] := List.mem_cons_of_mem _ (List.mem_singleton_self old)
    obtain ⟨y, there⟩ := run.connection found relied
    exact absurd (List.map_eq_nil_iff.1 idle) (rest.not_closing run found (if_pos rfl) there)
  | _ => rcases ended with same | same | same <;> cases same

theorem AtRest.handle_disengaged (rest : s.AtRest) (run : Run Regular (s :: past)) {id : JobId}
    {phase : Handling} (found : s.tasks[t]? = some (.handle c id phase)) :
    (Task.handle c id phase).engaged = false := by
  have idle := rest.idle t
  simp only [System.next, found, List.map_eq_nil_iff] at idle
  obtain ⟨x, here⟩ := run.connection found (List.mem_singleton_self c)
  cases phase with
  | acting left doing =>
    cases doing with
    | closing closing =>
      have work : (s.desk c).work t = some (id, .acting left (.closing closing)) :=
        (work_of_task found).trans (if_pos rfl)
      obtain ⟨job, known, _⟩ := (((run.inOrder s (List.mem_cons_self ..)).busy c).manned work).2 (by simp)
      have admitted : x.router.jobs.get? id = some job :=
        (Desk.job?_of_table (table?_of_connection here) id).symm.trans known
      simp only [Handling.next, here, admitted, Handling.carryOn] at idle
      exact absurd (List.map_eq_nil_iff.1 idle) (rest.not_closing run found (if_pos rfl) here)
    | _ => rfl
  | _ => rfl

theorem AtRest.disengaged (rest : s.AtRest) (run : Run Regular (s :: past)) (task : Task)
    (member : task ∈ s.tasks) : task.engaged = false := by
  obtain ⟨t, found⟩ := List.mem_iff_getElem?.1 member
  have idle := rest.idle t
  cases task with
  | accept c phase => exact rest.accept_disengaged run found
  | supervise c phase => rfl
  | handle c id phase => exact rest.handle_disengaged run found
  | operate c phase =>
    cases phase with
    | closing closing =>
      simp only [System.next, found, Operating.next, List.map_eq_nil_iff] at idle
      obtain ⟨x, here⟩ := run.connection found (List.mem_singleton_self c)
      exact absurd idle (rest.not_closing run found (if_pos rfl) here)
    | _ => rfl
  | listen phase =>
    cases phase with
    | closing agents closing =>
      simp only [System.next, found, List.map_eq_nil_iff] at idle
      cases agents with
      | nil => cases idle
      | cons agent agents =>
        obtain ⟨x, here⟩ := run.connection found (List.mem_cons_self ..)
        exact absurd (List.map_eq_nil_iff.1 idle) (rest.not_closing run found (if_pos rfl) here)
    | _ => rfl

/-- No deadlock, and no connection that is stuck. Where no task can go on and nobody waits for a collaborator,
every closing and every registration is over, with its wait for a connection that it evicts; and a connection
whose supervisor ever found a reason to leave it, or would find one, is closed and in no entry. -/
theorem nothing_hangs_at_rest (run : Run Regular (s :: past)) (rest : s.AtRest) :
    (∀ task ∈ s.tasks, task.engaged = false) ∧
      ∀ (c : ConnectionId) (x : Connection), s.connections[c]? = some x →
        (x.Doomed ∨ ∃ former ∈ s :: past, former.Departing c) →
        x.stage = .closed ∧ ∀ identity, s.directory.get? identity ≠ some c := by
  have order := run.inOrder s (List.mem_cons_self ..)
  refine ⟨rest.disengaged run, fun c x here reason => ?_⟩
  rcases reason with doomed | ⟨former, member, u, departure, leaving⟩
  · exact rest.gone_of_doomed order here doomed
  · have left : former.Left u c := ⟨.leaving departure, leaving, rfl⟩
    exact rest.gone_of_left order here (run.left member left)

/-- One agent takes the place of another. Then a handler of its connection closes it, while another handler stalls,
and the server's user closes it, too. -/
def closings : List Choice :=
  let frame (n : Nat) (kind : MessageKind) : Bytes :=
    (Frame.encode (Message.request (.fresh n) kind Message.emptyPayload).encode).toOption.getD []
  handover ++ .react (.bind 1 .heartbeat { actions := [.close] }) ::
    .react (.bind 1 .fileMonitor { actions := [.stall] }) ::
    .react (.peerWrites 1 (frame 7 .heartbeat ++ frame 8 .fileMonitor)) :: .replicate 3 (.act 3 0) ++
    .replicate 5 (.act 4 0) ++ .replicate 2 (.act 5 0) ++ .react (.operate 1 (.closing .halt)) ::
    .replicate 2 (.act 6 0) ++ .replicate 14 (.act 3 0) ++ .replicate 2 (.act 4 0) ++ [.act 6 0]

theorem nothing_hangs_after_closings :
    let s := (replay {} [] closings).1
    s.AtRest ∧ (∀ task ∈ s.tasks, task.engaged = false) ∧
      ∀ c < 2, ∃ x, s.connections[c]? = some x ∧ x.halted ∧ x.stage = .closed ∧
        ∀ identity, s.directory.get? identity ≠ some c := by
  have run := (run_replay_empty closings).mono fun _ _ => Ordinary.regular
  have rest : (replay {} [] closings).1.AtRest := by decide +kernel
  have told : ∀ c < 2, ((replay {} [] closings).1.connections[c]?).any Connection.halted := by decide +kernel
  obtain ⟨returned, gone⟩ := nothing_hangs_at_rest run rest
  refine ⟨rest, returned, fun c inside => ?_⟩
  obtain ⟨x, here, halted⟩ := (Option.any_eq_true _ _).1 (told c inside)
  exact ⟨x, here, halted, gone c x here (.inl (.halted halted))⟩

end System

end Fleetwire
