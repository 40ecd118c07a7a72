import Fleetwire.Proofs.Actions
import Fleetwire.Proofs.Flow.View

namespace Fleetwire

open Fleetwire.System

variable {s s' : System} {c : ConnectionId} {t : TaskId} {connection : Connection}

theorem Sending.next_carries (here : s.connections[c]? = some connection) {message : Message}
    {phase : Sending} {out : Progress Sending (Except LinkError Unit) × System}
    (h : out ∈ phase.next s c t message) :
    match out.1 with
    | .going phase' => s.Carries c (.sending message phase) none (.sending message phase') out.2
    | .ended (.ok ()) => s.Carries c (.sending message phase) (some message) .none out.2
    | .ended (.error _) => s.Carries c (.sending message phase) none .none out.2 := by
  have stops {s' : System} (still : s.Still s') : s.Carries c (.sending message phase) none .none s' :=
    .turn here .stop still
  cases action_of_next h with
  | closed | tooLarge => exact stops (.refl s)
  | check found _ small =>
    cases here.symm.trans found
    exact .turn here (.check small) (.refl s)
  | queue => exact .turn here .queue (.update fun _ => rfl)
  | accept found isOpen roomy =>
    cases here.symm.trans found
    have room : connection.lane.accepted.length - connection.lane.takenCount < connection.lane.capacity := by
      by_contra full
      have none : connection.outbox.capacity - connection.outbox.waiting.length = 0 := by
        rw [Outbox.waiting, List.length_drop]
        exact Nat.sub_eq_zero_of_le (Nat.not_lt.1 full)
      rw [Outbox.hasRoomFor, none] at roomy
      simp [Line.admits] at roomy
    exact .update here (.post isOpen room)
  | giveUp => exact stops (.update fun _ => rfl)

namespace Call

theorem giveUp_still (slot : SlotId) : s.Still (giveUp s c t slot) := .update fun _ => rfl

def Carries (s : System) (c : ConnectionId) (call : Call) :
    Progress Calling (Except LinkError Bytes) × System → Prop
  | (.going phase, s') => s.Carries c call.phase.station (call.phase.sent? phase) phase.station s'
  | (.ended _, s') => call.phase.station = .none ∧ s.Still s'

theorem next_carries {call : Call} {out : Progress Calling (Except LinkError Bytes) × System}
    (h : out ∈ call.next s c t) : Carries s c call out := by
  obtain ⟨connection, here, action⟩ := action_of_next h
  obtain ⟨kind, payload, timeout, phase⟩ := call
  cases action with
  | register current =>
    cases current
    have registered (router : Router) : s.Still (s.update c fun x => { x with router }) := .update fun _ => rfl
    exact .turn here (.begin _) ((registered _).trans (.of_eq rfl rfl rfl))
  | send current sends | sent current sends =>
    cases current
    exact Sending.next_carries here sends
  | unsent current sends =>
    cases current
    exact System.Carries.before_still (Sending.next_carries here sends) (giveUp_still _)
  | expire current =>
    cases current
    exact .turn here .stop (giveUp_still _)
  | expireWaiting current =>
    cases current
    exact .of_still (giveUp_still _)
  | answer current =>
    cases current
    exact ⟨rfl, .refl s⟩
  | lose current =>
    cases current
    exact .of_still (.refl s)
  | forget current =>
    cases current
    exact ⟨rfl, .update fun _ => rfl⟩
  | @forgetLate request after current =>
    cases current
    have forgotten : s.Still (s.update c fun x => { x with router := (x.router.cancel request.id).2 }) :=
      .update fun _ => rfl
    exact ⟨rfl, forgotten.trans (.logs _ [_])⟩

theorem abort_carries (here : s.connections[c]? = some connection) (call : Call) :
    s.Carries c call.phase.station none .none (call.abort s c t) := by
  unfold abort
  split
  next current =>
    rw [current]
    exact .turn here .stop (giveUp_still _)
  next current =>
    rw [current]
    exact .of_still (giveUp_still _)
  next unsent _ =>
    cases current : call.phase with
    | send => exact absurd current (unsent _ _ _ _)
    | _ => exact .of_still (.refl s)

end Call

theorem Closing.next_still {phase : Closing} {out : Progress Closing Unit × System}
    (h : out ∈ phase.next s c) : s.Still out.2 := by
  cases action_of_next h with
  | halt | claim | failAll | publish => exact .update fun _ => rfl
  | look | forgo | wait => exact .refl s

namespace Operating

theorem next_carries (here : s.connections[c]? = some connection) {phase : Operating}
    {out : Operating × System} (h : out ∈ phase.next s c t) :
    s.Carries c phase.station (phase.sent? out.1) out.1.station out.2 := by
  cases phase with
  | calling shape call =>
    obtain ⟨⟨progress, s₁⟩, called, rfl⟩ := List.mem_map.1 h
    have carries := Call.next_carries called
    cases progress with
    | going phase => exact carries
    | ended response =>
      obtain ⟨none, still⟩ := carries
      dsimp only [station, sent?]
      rw [none]
      exact .of_still still
  | notifying kind payload =>
    rw [List.mem_singleton.1 h]
    exact .turn here (.begin _) (.of_eq rfl rfl rfl)
  | sending message phase =>
    obtain ⟨⟨progress, s₁⟩, sent, rfl⟩ := List.mem_map.1 h
    have carries := Sending.next_carries here sent
    cases progress with
    | going phase => exact carries
    | ended result => cases result <;> exact carries
  | closing phase =>
    obtain ⟨⟨progress, s₁⟩, closed, rfl⟩ := List.mem_map.1 h
    have still := Closing.next_still closed
    cases progress <;> exact .of_still still
  | finished | aborted => cases h

theorem abort_carries (here : s.connections[c]? = some connection) (operation : Operating) :
    s.Carries c operation.station none .none (operation.abort s c t) := by
  cases operation with
  | calling shape call => exact Call.abort_carries here call
  | sending message phase => exact .turn here .stop (.update fun _ => rfl)
  | _ => exact .of_still (.refl s)

end Operating

namespace Accepting

theorem introduce_still (response : Except LinkError Bytes) :
    s.Still (introduce s c connection response).2 ∧ (introduce s c connection response).1.station = .none := by
  unfold introduce
  split
  · exact ⟨.log .., rfl⟩
  next announced _ =>
    have known : s.Still (s.update c fun x => { x with announced := some announced }) := .update fun _ => rfl
    exact ⟨known.trans (.log ..), rfl⟩

theorem enter_still (announced : Announcement) :
    s.Still (enter s c connection announced).2 ∧ (enter s c connection announced).1.station = .none := by
  unfold enter
  dsimp only
  split
  · exact ⟨.of_eq rfl rfl rfl, rfl⟩
  · split
    · exact ⟨.of_eq rfl rfl rfl, rfl⟩
    · exact ⟨.log .., rfl⟩

theorem conclude_still (announced : Announcement) (verdict : Verdict) :
    s.Still (conclude s connection announced verdict).2 ∧
      (conclude s connection announced verdict).1.station = .none := by
  cases verdict with
  | admitted displaced =>
    cases displaced with
    | none => exact ⟨.refl s, rfl⟩
    | some old => exact ⟨.log .., rfl⟩
  | gone | refused => exact ⟨.refl s, rfl⟩

theorem Action.carries {phase : Accepting} {out : Accepting × System} (action : Action s c t connection phase out) :
    s.Carries c phase.station (phase.sent? out.1) out.1.station out.2 := by
  cases action with
  | ask called => exact Call.next_carries called
  | @introduce call response s₁ called =>
    obtain ⟨idle, still⟩ := Call.next_carries called
    obtain ⟨introduced, none⟩ := @introduce_still s₁ c connection response
    have unsent : (Accepting.handshake call).sent? (Accepting.introduce s₁ c connection response).1 = .none := by
      dsimp only [Accepting.introduce]
      split <;> rfl
    rw [show (Accepting.handshake call).station = .none from idle, unsent, none]
    exact .of_still (still.trans introduced)
  | refuse closed | refused closed | replace closed | replaced _ closed => exact .of_still (Closing.next_still closed)
  | queueLifecycle | activate => exact .of_still (.update fun _ => rfl)
  | awaitLifecycle =>
    have none : (if connection.closed then Accepting.releaseLifecycle .gone else .queueIdentity).station = .none := by
      split <;> rfl
    rw [none]
    exact .of_still (.refl s)
  | queueIdentity | releaseIdentity => exact .of_still (.of_eq rfl rfl rfl)
  | @enter announced =>
    obtain ⟨still, none⟩ := @enter_still s c connection announced
    rw [none]
    exact .of_still still
  | mark _ delivered => exact .of_still (.deliver? delivered)
  | complain _ delivered =>
    have told := Still.deliver? delivered
    exact .of_still (told.trans (.log ..))
  | announce published => exact .of_still (.publish? published)
  | @conclude announced verdict =>
    have released : s.Still (s.releaseLifecycle c t) := .update fun _ => rfl
    obtain ⟨concluded, none⟩ := @conclude_still (s.releaseLifecycle c t) connection announced verdict
    rw [none]
    exact .of_still (released.trans concluded)

theorem next_carries {phase : Accepting} {out : Accepting × System} (h : out ∈ phase.next s c t) :
    s.Carries c phase.station (phase.sent? out.1) out.1.station out.2 := by
  obtain ⟨connection, _, action⟩ := action_of_next h
  exact action.carries

end Accepting

namespace Handling

theorem finish_still (id : JobId) (ending : Ending) :
    s.Still (finish s c connection id ending).2 ∧ (finish s c connection id ending).1 = .finished := by
  have stored (router : Router) : s.Still (s.update c fun x => { x with router }) := .update fun _ => rfl
  exact ⟨(stored _).trans (.logs ..), rfl⟩

theorem Performs.carries (here : s.connections[c]? = some connection) {id : JobId} {job : Job} {phase : Handling}
    {out : Handling × System} (performs : Performs s c t connection id job phase out) :
    s.Carries c phase.station (phase.sent? out.1) out.1.station out.2 := by
  cases performs with
  | queue | noteHeartbeat => exact .of_still (.update fun _ => rfl)
  | start => exact .of_still (.sight ..)
  | finish =>
    have seen : s.Still (s.sight c .finish job) := .sight ..
    exact .of_still (seen.trans (finish_still id _).1)
  | breakOff => exact .of_still (finish_still id _).1
  | begin begins =>
    cases begins with
    | reply | refuse => exact .turn here (.begin _) (.refl s)
    | relay | close => exact .of_still (.refl s)
  | noteAnnouncement | recordFile | reportFile => exact .of_still (.log ..)
  | pass | passed => exact .of_still (.of_eq rfl rfl rfl)
  | send sends | sent sends | lost sends => exact Sending.next_carries here sends
  | unsent sends => exact Carries.before_still (Sending.next_carries here sends) (finish_still id _).1
  | ask called => exact Call.next_carries called
  | answered called =>
    obtain ⟨idle, still⟩ := Call.next_carries called
    dsimp only [station, sent?]
    rw [idle]
    exact .turn here (.begin _) still
  | close closed | closed closed => exact .of_still (Closing.next_still closed)
  | record delivered => exact .of_still (.deliver? delivered)
  | unrecorded delivered =>
    have told : s.Still _ := .deliver? delivered
    exact .of_still (told.trans (finish_still id _).1)
  | report published => exact .of_still (.publish? published)

theorem next_carries {id : JobId} {phase : Handling} {out : Handling × System}
    (h : out ∈ phase.next s c t id) : s.Carries c phase.station (phase.sent? out.1) out.1.station out.2 := by
  obtain ⟨connection, job, here, _, performs⟩ := performs_of_next h
  exact performs.carries here

end Handling

namespace Supervising

theorem leave_carries (here : s.connections[c]? = some connection) (departure : Departure) :
    s.Carries c .serving none .retired (leave s c departure).2 :=
  .update here .leave

theorem receive_carries (here : s.connections[c]? = some connection) {payload : Bytes}
    {inbox : FrameBuffer} (found : connection.inbox.next? = .ok (some (payload, inbox))) :
    s.Carries c .serving none .serving (receive s c connection payload inbox) := by
  have next : connection.lane.inbox.next? = .ok (some (payload, inbox)) := found
  have received := Lane.Act.receive next
  unfold receive
  split
  next error undecoded =>
    have lost : Message.ofPayload? payload = none := by
      rw [Message.ofPayload?, undecoded]
      rfl
    rw [lost] at received
    have dropped : s.Carries c .serving none .serving (s.update c fun x => { x with inbox }) := by
      refine .update here ?_
      simpa [Connection.lane] using received
    exact dropped.before_still (.logs ..)
  next message decoded =>
    have came : Message.ofPayload? payload = some message := by
      rw [Message.ofPayload?, decoded]
      rfl
    rw [came] at received
    have routed (router : Router) : s.Carries c .serving none .serving
        (s.update c fun x => { x with inbox, router, routed := x.routed ++ [message] }) :=
      .update here received
    have logged := (routed (connection.router.route message).2.2).before_still
      (.logs _ (connection.router.route message).2.1)
    dsimp only
    split
    · refine logged.before_still (.spawn fun other => ?_)
      simp [Task.station, Handling.station]
    · exact logged

theorem upcoming_of_arrival {x : Connection} {chunk : Bytes} (arrival : x.socket.arrival = .bytes chunk) :
    ∃ count, chunk = x.lane.upcoming count := by
  unfold Socket.arrival at arrival
  dsimp only at arrival
  split at arrival
  · cases arrival
  · split at arrival
    · cases arrival
      exact ⟨0, rfl⟩
    · cases arrival
  · cases arrival
    exact ⟨_, rfl⟩

theorem unregister_still (failed : Nat) (identity : String) :
    s.Still (unregister s c failed identity).2 ∧ (unregister s c failed identity).1.station = .retired := by
  unfold unregister
  dsimp only
  split <;> exact ⟨.of_eq rfl rfl rfl, rfl⟩

theorem Action.carries {phase : Supervising} {out : Supervising × System} (here : s.connections[c]? = some connection)
    (action : Action s c t connection phase out) : s.Carries c phase.station none out.1.station out.2 := by
  have updates {f : Connection → Connection} {p : Station} (same : ∀ x, (f x).lane = x.lane) :
      s.Carries c p none p (s.update c f) := .of_still (.update same)
  cases action with
  | receive found => exact receive_carries here found
  | fetch _ arrival =>
    obtain ⟨count, rfl⟩ := upcoming_of_arrival arrival
    exact .update here (.fetch count)
  | load idle taken encoded =>
    obtain ⟨next, rfl⟩ := Outbox.take?_eq_some.1 taken
    exact .update here (.load idle next encoded)
  | reject idle taken unwritable =>
    obtain ⟨next, rfl⟩ := Outbox.take?_eq_some.1 taken
    have twice : ((s.update c fun x => { x with outbox :=
          { connection.outbox with takenCount := connection.outbox.takenCount + 1 } }).update c
          fun x => { x with socket := x.socket.drop, outbox := x.outbox.close }) =
        s.update c fun x => { x with
          socket := x.socket.drop
          outbox := Outbox.close
            { connection.outbox with takenCount := connection.outbox.takenCount + 1 } } := by
      simp only [System.update, List.modify_modify_eq]
      rfl
    dsimp only [Supervising.leave]
    rw [twice]
    exact .update here (.refuse idle next unwritable)
  | @write count => exact .update here (.write count)
  | leave => exact leave_carries here _
  | start | claim | halt | failAll | queueLifecycle | releaseLifecycle | publish => exact updates fun _ => rfl
  | remark => exact .of_still (.logs ..)
  | forgo | skip => exact .of_still (.refl s)
  | queueIdentity | releaseIdentity => exact .of_still (.of_eq rfl rfl rfl)
  | @unregister failed identity =>
    obtain ⟨still, station⟩ := @unregister_still s c failed identity
    rw [station]
    exact .of_still still
  | mark delivered => exact .of_still (.deliver? delivered)
  | complain delivered =>
    have told := Still.deliver? delivered
    exact .of_still (told.trans (.log ..))
  | announce published => exact .of_still (.publish? published)
  | farewell => exact .of_still (.log ..)

theorem next_carries {phase : Supervising} {out : Supervising × System} (h : out ∈ phase.next s c t) :
    s.Carries c phase.station none out.1.station out.2 := by
  obtain ⟨connection, here, action⟩ := action_of_next h
  exact action.carries here

end Supervising

end Fleetwire
