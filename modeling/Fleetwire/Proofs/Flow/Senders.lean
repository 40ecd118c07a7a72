import Fleetwire.Proofs.Flow.Simulation

namespace Fleetwire

def Station.InLine : Station → Prop
  | sending _ (.wait _) => True
  | _ => False

namespace System

def line (s : System) (c : ConnectionId) : List TaskId :=
  ((s.connections[c]?).map fun x => x.outbox.senders.members).getD []

variable {s s' s'' s₁ : System} {c other : ConnectionId} {t u : TaskId} {x : Connection}

theorem line_of_connection (here : s.connections[c]? = some x) : s.line c = x.outbox.senders.members := by
  simp [line, here]

theorem line_update (found : s.connections[c]? = some x) (f : Connection → Connection) :
    (s.update c f).line c = (f x).outbox.senders.members := by
  simp [line, update, found]

theorem line_update_other (different : other ≠ c) (f : Connection → Connection) :
    (s.update c f).line other = s.line other := by
  simp [line, update, different.symm]

structure SameLines (s s' : System) : Prop where
  line : ∀ c, s'.line c = s.line c
  tasks : s'.tasks = s.tasks

theorem SameLines.refl (s : System) : s.SameLines s := ⟨fun _ => rfl, rfl⟩

theorem SameLines.trans (h : s.SameLines s') (h' : s'.SameLines s'') : s.SameLines s'' :=
  ⟨fun c => (h'.line c).trans (h.line c), h'.tasks.trans h.tasks⟩

theorem SameLines.of_eq (connections : s'.connections = s.connections) (tasks : s'.tasks = s.tasks) :
    s.SameLines s' :=
  ⟨fun c => by simp only [System.line, connections], tasks⟩

theorem SameLines.update {f : Connection → Connection} (same : ∀ x, (f x).outbox.senders = x.outbox.senders) :
    s.SameLines (s.update c f) := by
  refine ⟨fun other => ?_, rfl⟩
  by_cases own : other = c
  · subst own
    simp only [System.line, System.update, List.getElem?_modify]
    cases s.connections[other]? <;> simp [same]
  · exact line_update_other own f

theorem SameLines.logs (s : System) (lines : List LogLine) : s.SameLines { s with logs := s.logs ++ lines } :=
  .of_eq rfl rfl

theorem SameLines.log (s : System) (level : Level) (text : String) (fields : List (String × String)) :
    s.SameLines (s.log level text fields) :=
  .of_eq rfl rfl

theorem SameLines.sight (s : System) (c : ConnectionId) (moment : Moment) (job : Job) :
    s.SameLines (s.sight c moment job) := by
  unfold System.sight
  split <;> exact .of_eq rfl rfl

theorem SameLines.haltAll (s : System) : s.SameLines s.haltAll := by
  refine ⟨fun c => ?_, rfl⟩
  simp only [System.line, System.haltAll, List.getElem?_map, Option.map_map]
  rfl

theorem SameLines.deliver? {errand : Errand} {failure : Option (List String)}
    (h : s.deliver? errand = some (failure, s')) : s.SameLines s' := by
  unfold System.deliver? at h
  split at h
  · cases h
    split
    · cases errand.report <;> exact .of_eq rfl rfl
    · exact .of_eq rfl rfl
  · cases h

theorem SameLines.publish? {errand : Errand} {addr : String × String}
    (h : s.publish? addr errand = some s') : s.SameLines s' := by
  unfold System.publish? at h
  obtain ⟨⟨failure, s₁⟩, delivered, h⟩ := Option.bind_eq_some_iff.1 h
  have same := SameLines.deliver? delivered
  cases failure with
  | none => cases h; exact same
  | some causes => cases h; exact same.trans (.log _ _ _ _)

/-- The action makes `p'` of the station `p` of the task in the flow through the connection `c`. It joins and leaves
the line there as its station says, and others stay where they are. -/
structure Queues (s : System) (c : ConnectionId) (t : TaskId) (p p' : Station) (s' : System) : Prop where
  own : (t ∈ s.line c ↔ p.InLine) → (t ∈ s'.line c ↔ p'.InLine)
  others : ∀ u, u ≠ t → (u ∈ s'.line c ↔ u ∈ s.line c)
  elsewhere : ∀ other, other ≠ c → s'.line other = s.line other
  tasks : s'.tasks = s.tasks

variable {p p' : Station}

theorem Queues.of_same (same : s.SameLines s') (still : p.InLine ↔ p'.InLine) : s.Queues c t p p' s' where
  own lined := by rw [same.line, lined, still]
  others u _ := by rw [same.line]
  elsewhere other _ := same.line other
  tasks := same.tasks

theorem Queues.quiet (same : s.SameLines s') (idle : ¬ p.InLine) (idle' : ¬ p'.InLine) :
    s.Queues c t p p' s' :=
  .of_same same (iff_of_false idle idle')

theorem Queues.before_same (h : s.Queues c t p p' s₁) (same : s₁.SameLines s') : s.Queues c t p p' s' where
  own lined := by rw [same.line, h.own lined]
  others u different := by rw [same.line, h.others u different]
  elsewhere other different := (same.line other).trans (h.elsewhere other different)
  tasks := same.tasks.trans h.tasks

theorem Queues.join (found : s.connections[c]? = some x) (waits : p'.InLine) {f : Connection → Connection}
    (joins : (f x).outbox.senders = x.outbox.senders.join t) : s.Queues c t p p' (s.update c f) := by
  have joined : (s.update c f).line c = s.line c ++ [t] := by
    rw [line_update found, joins, line_of_connection found]
    rfl
  refine ⟨fun _ => ?_, fun u different => ?_, fun other different => line_update_other different f, rfl⟩
  · simp [joined, waits]
  · simp [joined, different]

theorem mem_line_leave {f : Connection → Connection}
    (leaves : ∀ x, (f x).outbox.senders = x.outbox.senders.leave t) :
    u ∈ (s.update c f).line c ↔ u ∈ s.line c ∧ u ≠ t := by
  cases found : s.connections[c]? with
  | none => simp [line, update, found]
  | some x => rw [line_update found, leaves, Line.mem_leave, line_of_connection found]

theorem Queues.then_leave {q : Station} (h : s.Queues c t p q s₁) (gone : ¬ p'.InLine)
    {f : Connection → Connection} (leaves : ∀ x, (f x).outbox.senders = x.outbox.senders.leave t) :
    s.Queues c t p p' (s₁.update c f) := by
  refine ⟨fun _ => ?_, fun u different => ?_, fun other different => ?_, h.tasks⟩
  · rw [mem_line_leave leaves]
    simp [gone]
  · rw [mem_line_leave leaves, and_iff_left different, h.others u different]
  · rw [line_update_other different, h.elsewhere other different]

theorem Queues.leave (gone : ¬ p'.InLine) {f : Connection → Connection}
    (leaves : ∀ x, (f x).outbox.senders = x.outbox.senders.leave t) : s.Queues c t p p' (s.update c f) :=
  (Queues.of_same (.refl s) (Iff.refl p.InLine)).then_leave gone leaves

end System

open Fleetwire.System

variable {s s' : System} {c : ConnectionId} {t : TaskId} {connection : Connection}

def Sending.stationOf (message : Message) : Progress Sending (Except LinkError Unit) → Station
  | .going phase => .sending message phase
  | .ended _ => .none

theorem Sending.next_queues (here : s.connections[c]? = some connection) {message : Message} {phase : Sending}
    {out : Progress Sending (Except LinkError Unit) × System} (h : out ∈ phase.next s c t message) :
    s.Queues c t (.sending message phase) (stationOf message out.1) out.2 := by
  cases action_of_next h with
  | closed | tooLarge | check => exact .quiet (.refl s) not_false not_false
  | @queue envelope => exact .join here (show Station.InLine (.sending message (.wait envelope)) from trivial) rfl
  | accept | giveUp => exact .leave id fun _ => rfl

namespace Call

def stationOf : Progress Calling (Except LinkError Bytes) → Station
  | .going phase => phase.station
  | .ended _ => .none

theorem next_queues {call : Call} {out : Progress Calling (Except LinkError Bytes) × System}
    (h : out ∈ call.next s c t) : s.Queues c t call.phase.station (stationOf out.1) out.2 := by
  obtain ⟨connection, here, action⟩ := action_of_next h
  obtain ⟨kind, payload, timeout, phase⟩ := call
  cases action with
  | register current =>
    cases current
    have registered (router : Router) : s.SameLines (s.update c fun x => { x with router }) := .update fun _ => rfl
    exact .quiet ((registered _).trans (.of_eq rfl rfl)) not_false not_false
  | send current sends | sent current sends =>
    cases current
    exact Sending.next_queues here sends
  | unsent current sends =>
    cases current
    exact (Sending.next_queues here sends).then_leave id fun _ => rfl
  | expire | expireWaiting => exact .leave id fun _ => rfl
  | answer current | lose current =>
    cases current
    exact .quiet (.refl s) not_false not_false
  | forget current =>
    cases current
    exact .quiet (.update fun _ => rfl) not_false not_false
  | @forgetLate request after current =>
    cases current
    have forgotten : s.SameLines (s.update c fun x => { x with router := (x.router.cancel request.id).2 }) :=
      .update fun _ => rfl
    exact .quiet (forgotten.trans (.logs _ [_])) not_false not_false

theorem abort_queues (call : Call) : s.Queues c t call.phase.station .none (call.abort s c t) := by
  unfold abort
  split
  · exact .leave id fun _ => rfl
  · exact .leave id fun _ => rfl
  next unsent _ =>
    refine .quiet (.refl s) (fun waits => ?_) nofun
    cases current : call.phase with
    | send => exact absurd current (unsent _ _ _ _)
    | _ =>
      rw [current] at waits
      exact waits

end Call

theorem Closing.next_sameLines {phase : Closing} {out : Progress Closing Unit × System}
    (h : out ∈ phase.next s c) : s.SameLines out.2 := by
  cases action_of_next h with
  | halt | claim | failAll | publish => exact .update fun _ => rfl
  | look | forgo | wait => exact .refl s

namespace Operating

theorem next_queues (here : s.connections[c]? = some connection) {phase : Operating} {out : Operating × System}
    (h : out ∈ phase.next s c t) : s.Queues c t phase.station out.1.station out.2 := by
  cases phase with
  | calling shape call =>
    obtain ⟨⟨progress, s₁⟩, called, rfl⟩ := List.mem_map.1 h
    have queues := Call.next_queues called
    cases progress <;> exact queues
  | notifying kind payload =>
    rw [List.mem_singleton.1 h]
    exact .quiet (.of_eq rfl rfl) not_false not_false
  | sending message phase =>
    obtain ⟨⟨progress, s₁⟩, sent, rfl⟩ := List.mem_map.1 h
    have queues := Sending.next_queues here sent
    cases progress <;> exact queues
  | closing phase =>
    obtain ⟨⟨progress, s₁⟩, closed, rfl⟩ := List.mem_map.1 h
    have same := Closing.next_sameLines closed
    cases progress <;> exact .quiet same not_false not_false
  | finished | aborted => cases h

theorem abort_queues (operation : Operating) :
    s.Queues c t operation.station .none (operation.abort s c t) := by
  cases operation with
  | calling shape call => exact Call.abort_queues call
  | sending message phase => exact .leave id fun _ => rfl
  | _ => exact .quiet (.refl s) not_false not_false

end Operating

namespace Accepting

theorem introduce_sameLines (response : Except LinkError Bytes) :
    s.SameLines (introduce s c connection response).2 := by
  unfold introduce
  split
  · exact .log ..
  next announced _ =>
    have known : s.SameLines (s.update c fun x => { x with announced := some announced }) := .update fun _ => rfl
    exact known.trans (.log ..)

theorem enter_sameLines (announced : Announcement) : s.SameLines (enter s c connection announced).2 := by
  unfold enter
  dsimp only
  split
  · exact .of_eq rfl rfl
  · split
    · exact .of_eq rfl rfl
    · exact .log ..

theorem conclude_sameLines (announced : Announcement) (verdict : Verdict) :
    s.SameLines (conclude s connection announced verdict).2 := by
  cases verdict with
  | admitted displaced =>
    cases displaced with
    | none => exact .refl s
    | some old => exact .log ..
  | gone | refused => exact .refl s

theorem Action.queues {phase : Accepting} {out : Accepting × System} (action : Action s c t connection phase out) :
    s.Queues c t phase.station out.1.station out.2 := by
  cases action with
  | ask called => exact Call.next_queues called
  | @introduce call response s₁ called =>
    have none : (Accepting.introduce s₁ c connection response).1.station = .none := (introduce_still response).2
    rw [none]
    exact (Call.next_queues called).before_same (introduce_sameLines response)
  | refuse closed | refused closed | replace closed | replaced _ closed =>
    exact .quiet (Closing.next_sameLines closed) not_false not_false
  | queueLifecycle | activate => exact .quiet (.update fun _ => rfl) not_false not_false
  | awaitLifecycle =>
    refine .quiet (.refl s) not_false ?_
    dsimp only
    split <;> exact not_false
  | queueIdentity | releaseIdentity => exact .quiet (.of_eq rfl rfl) not_false not_false
  | @enter announced =>
    have none : (Accepting.enter s c connection announced).1.station = .none := (enter_still announced).2
    rw [none]
    exact .quiet (enter_sameLines announced) not_false not_false
  | mark _ delivered => exact .quiet (.deliver? delivered) not_false not_false
  | complain _ delivered =>
    have told := SameLines.deliver? delivered
    exact .quiet (told.trans (.log ..)) not_false not_false
  | announce published => exact .quiet (.publish? published) not_false not_false
  | @conclude announced verdict =>
    have released : s.SameLines (s.releaseLifecycle c t) := .update fun _ => rfl
    have none : (Accepting.conclude (s.releaseLifecycle c t) connection announced verdict).1.station = .none :=
      (conclude_still announced verdict).2
    rw [none]
    exact .quiet (released.trans (conclude_sameLines announced verdict)) not_false not_false

theorem next_queues {phase : Accepting} {out : Accepting × System} (h : out ∈ phase.next s c t) :
    s.Queues c t phase.station out.1.station out.2 := by
  obtain ⟨connection, _, action⟩ := action_of_next h
  exact action.queues

end Accepting

namespace Handling

theorem finish_sameLines (id : JobId) (ending : Ending) :
    s.SameLines (finish s c connection id ending).2 := by
  have stored (router : Router) : s.SameLines (s.update c fun x => { x with router }) := .update fun _ => rfl
  exact (stored _).trans (.logs ..)

theorem Performs.queues (here : s.connections[c]? = some connection) {id : JobId} {job : Job} {phase : Handling}
    {out : Handling × System} (performs : Performs s c t connection id job phase out) :
    s.Queues c t phase.station out.1.station out.2 := by
  cases performs with
  | queue | noteHeartbeat => exact .quiet (.update fun _ => rfl) not_false not_false
  | start => exact .quiet (.sight ..) not_false not_false
  | finish =>
    have seen : s.SameLines (s.sight c .finish job) := .sight ..
    exact .quiet (seen.trans (finish_sameLines id _)) not_false not_false
  | breakOff => exact .quiet (finish_sameLines id _) not_false not_false
  | begin begins => cases begins <;> exact .quiet (.refl s) not_false not_false
  | noteAnnouncement | recordFile | reportFile => exact .quiet (.log ..) not_false not_false
  | pass | passed => exact .quiet (.of_eq rfl rfl) not_false not_false
  | send sends | sent sends | lost sends => exact Sending.next_queues here sends
  | unsent sends => exact (Sending.next_queues here sends).before_same (finish_sameLines id _)
  | ask called => exact Call.next_queues called
  | answered called =>
    have queues := Call.next_queues called
    exact ⟨queues.own, queues.others, queues.elsewhere, queues.tasks⟩
  | close closed | closed closed => exact .quiet (Closing.next_sameLines closed) not_false not_false
  | record delivered => exact .quiet (.deliver? delivered) not_false not_false
  | unrecorded delivered =>
    have told : s.SameLines _ := .deliver? delivered
    exact .quiet (told.trans (finish_sameLines id _)) not_false not_false
  | report published => exact .quiet (.publish? published) not_false not_false

theorem next_queues {id : JobId} {phase : Handling} {out : Handling × System}
    (h : out ∈ phase.next s c t id) : s.Queues c t phase.station out.1.station out.2 := by
  obtain ⟨connection, job, here, _, performs⟩ := performs_of_next h
  exact performs.queues here

end Handling

def System.RoutesUnawaited (s : System) (c : ConnectionId) (s' : System) : Prop :=
  ∃ x x' message, s.connections[c]? = some x ∧ s'.connections[c]? = some x' ∧
    x'.routed = x.routed ++ [message] ∧ x.router.pending.get? message.id = none

structure System.BeginsJob (s : System) (c : ConnectionId) (s' : System) : Prop where
  line : ∀ other, s'.line other = s.line other
  tasks : ∃ id, s'.tasks = s.tasks ++ [.handle c id .admitted]
  routed : s.RoutesUnawaited c s'

theorem Router.unawaited_of_handler {r : Router} {message : Message} (h : (r.route message).1 = .handler) :
    r.pending.get? message.id = none := by
  unfold Router.route at h
  split at h
  · cases h
  next unawaited => exact unawaited

namespace Supervising

theorem receive_lines (here : s.connections[c]? = some connection) (payload : Bytes) (inbox : FrameBuffer) :
    s.SameLines (receive s c connection payload inbox) ∨ s.BeginsJob c (receive s c connection payload inbox) := by
  unfold receive
  split
  · have dropped : s.SameLines (s.update c fun x => { x with inbox }) := .update fun _ => rfl
    exact .inl (dropped.trans (.logs ..))
  next message decoded =>
    have routed (router : Router) : s.SameLines
        (s.update c fun x => { x with inbox, router, routed := x.routed ++ [message] }) := .update fun _ => rfl
    have logged := (routed (connection.router.route message).2.2).trans
      (.logs _ (connection.router.route message).2.1)
    dsimp only
    split
    next handler =>
      right
      refine ⟨logged.line, ⟨_, rfl⟩, connection, { connection with
        inbox, router := (connection.router.route message).2.2, routed := connection.routed ++ [message] },
        message, here, ?_, rfl, Router.unawaited_of_handler handler⟩
      simp [System.spawn, System.update, here]
    · exact .inl logged

theorem leave_sameLines (departure : Departure) : s.SameLines (leave s c departure).2 :=
  .update fun _ => rfl

theorem unregister_sameLines (failed : Nat) (identity : String) :
    s.SameLines (unregister s c failed identity).2 := by
  unfold unregister
  dsimp only
  split <;> exact .of_eq rfl rfl

theorem Action.lines {phase : Supervising} {out : Supervising × System} (here : s.connections[c]? = some connection)
    (action : Action s c t connection phase out) : s.SameLines out.2 ∨ s.BeginsJob c out.2 := by
  have took {envelope : Bytes} {outbox : Outbox} (taken : connection.outbox.take? = some (envelope, outbox))
      {f : Connection → Connection} (takes : ∀ x, (f x).outbox = outbox) : s.SameLines (s.update c f) := by
    have kept : outbox.senders = connection.outbox.senders := by rw [← (Outbox.take?_eq_some.1 taken).2]
    refine ⟨fun other => ?_, rfl⟩
    by_cases own : other = c
    · subst own
      rw [line_update here, line_of_connection here, takes, kept]
    · exact line_update_other own f
  cases action with
  | receive => exact receive_lines here _ _
  | load _ taken => exact .inl (took taken fun _ => rfl)
  | @reject envelope outbox error _ taken =>
    have before : s.SameLines (s.update c fun x => { x with outbox }) := took taken fun _ => rfl
    exact .inl (before.trans (leave_sameLines _))
  | leave => exact .inl (leave_sameLines _)
  | start | fetch | write | claim | halt | failAll | queueLifecycle | releaseLifecycle | publish =>
    exact .inl (.update fun _ => rfl)
  | remark => exact .inl (.logs ..)
  | forgo | skip => exact .inl (.refl s)
  | queueIdentity | releaseIdentity => exact .inl (.of_eq rfl rfl)
  | unregister => exact .inl (unregister_sameLines ..)
  | mark delivered => exact .inl (.deliver? delivered)
  | complain delivered =>
    have told := SameLines.deliver? delivered
    exact .inl (told.trans (.log ..))
  | announce published => exact .inl (.publish? published)
  | farewell => exact .inl (.log ..)

theorem next_lines {phase : Supervising} {out : Supervising × System} (h : out ∈ phase.next s c t) :
    s.SameLines out.2 ∨ s.BeginsJob c out.2 := by
  obtain ⟨connection, here, action⟩ := action_of_next h
  exact action.lines here

end Supervising

end Fleetwire
