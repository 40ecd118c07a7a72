import Fleetwire.Proofs.Actions
import Fleetwire.Proofs.Jobs.View
import Fleetwire.Proofs.Lifecycle.Bystanders

namespace Fleetwire

namespace Router

structure Alike (r r' : Router) : Prop where
  handlers : r'.handlers = r.handlers
  jobs : r'.jobs = r.jobs
  admitted : r'.admitted = r.admitted

variable {r r' r'' : Router}

theorem Alike.refl (r : Router) : r.Alike r := ⟨rfl, rfl, rfl⟩

theorem Alike.trans (h : r.Alike r') (h' : r'.Alike r'') : r.Alike r'' :=
  ⟨h'.handlers.trans h.handlers, h'.jobs.trans h.jobs, h'.admitted.trans h.admitted⟩

theorem alike_closeSlot (r : Router) (slot : SlotId) : r.Alike (r.closeSlot slot) := ⟨rfl, rfl, rfl⟩

theorem alike_expect (r : Router) (id : MessageId) : r.Alike (r.expect id).2 := by
  unfold expect
  split <;> exact ⟨rfl, rfl, rfl⟩

theorem alike_cancel (r : Router) (id : MessageId) : r.Alike (r.cancel id).2 := by
  unfold cancel
  split <;> exact ⟨rfl, rfl, rfl⟩

theorem alike_failAll (r : Router) : r.Alike r.failAll.2 := by
  have all : ∀ (slots : List SlotId) (r : Router), r.Alike (slots.foldl closeSlot r) := by
    intro slots
    induction slots with
    | nil => exact Alike.refl
    | cons slot slots ih => exact fun r => (alike_closeSlot r slot).trans (ih _)
  have closed := all r.pending.values r
  exact ⟨closed.handlers, closed.jobs, closed.admitted⟩

theorem route_cases (r : Router) (message : Message) :
    (r.route message).1 ≠ .handler ∧ r.Alike (r.route message).2.2 ∨
      (r.route message).1 = .handler ∧ ∃ handler, r.handlers.get? message.kind = some handler ∧
        (r.route message).2.2 = { r with
          jobs := r.jobs.insert r.admitted { handler, message }
          admitted := r.admitted + 1 } := by
  unfold route
  split
  · refine .inl ⟨nofun, ?_⟩
    unfold respond
    dsimp only
    split <;> exact ⟨rfl, rfl, rfl⟩
  · split
    · exact .inl ⟨nofun, .refl r⟩
    next handler bound =>
      split
      · exact .inr ⟨rfl, handler, bound, rfl⟩
      · exact .inl ⟨nofun, rfl, rfl, rfl⟩

end Router

open Fleetwire.System

variable {s s' : System} {c : ConnectionId} {t : TaskId} {connection : Connection}

theorem idle_update {f : Connection → Connection} (identity : ∀ x, (f x).identity? = x.identity?)
    (alike : ∀ x, s.connections[c]? = some x → x.router.Alike (f x).router) : s.Idle (s.update c f) := by
  apply Idle.update
  intro x here
  obtain ⟨handlers, jobs, admitted⟩ := alike x here
  simp only [Connection.table, identity, handlers, jobs, admitted]

theorem idle_update_same {f : Connection → Connection} (identity : ∀ x, (f x).identity? = x.identity?)
    (router : ∀ x, (f x).router = x.router) : s.Idle (s.update c f) :=
  idle_update identity fun x _ => by rw [router x]; exact .refl _

theorem Sending.next_idle {message : Message} {phase : Sending}
    {out : Progress Sending (Except LinkError Unit) × System}
    (h : out ∈ phase.next s c t message) : s.Idle out.2 := by
  cases action_of_next h with
  | closed | tooLarge | check => exact .refl s
  | queue | accept | giveUp => exact idle_update_same (fun _ => rfl) fun _ => rfl

namespace Call

theorem giveUp_idle (slot : SlotId) : s.Idle (giveUp s c t slot) :=
  idle_update (fun _ => rfl) fun _ _ => ⟨rfl, rfl, rfl⟩

theorem next_idle {call : Call} {out : Progress Calling (Except LinkError Bytes) × System}
    (h : out ∈ call.next s c t) : s.Idle out.2 := by
  obtain ⟨connection, found, action⟩ := action_of_next h
  have forgotten (id : MessageId) : s.Idle (s.update c fun x => { x with router := (x.router.cancel id).2 }) :=
    idle_update (fun _ => rfl) fun x _ => Router.alike_cancel x.router id
  cases action with
  | register =>
    have registered : s.Idle (s.update c fun x =>
        { x with router := (connection.router.expect (.fresh s.nextId)).2 }) := by
      refine idle_update (fun _ => rfl) fun x here => ?_
      rw [found] at here
      cases here
      exact Router.alike_expect _ _
    exact registered.trans (.of_same rfl rfl rfl rfl)
  | send _ sends | sent _ sends => exact Sending.next_idle sends
  | unsent _ sends =>
    have idle := Sending.next_idle sends
    exact idle.trans (giveUp_idle _)
  | expire | expireWaiting => exact giveUp_idle _
  | answer | lose => exact .refl s
  | forget => exact forgotten _
  | forgetLate => exact (forgotten _).trans (.logs _ [_])

theorem abort_idle (call : Call) : s.Idle (call.abort s c t) := by
  unfold abort
  split
  · exact giveUp_idle _
  · exact giveUp_idle _
  · exact .refl s

end Call

theorem Closing.next_idle {phase : Closing} {out : Progress Closing Unit × System}
    (h : out ∈ phase.next s c) : s.Idle out.2 := by
  cases action_of_next h with
  | halt | claim | publish => exact idle_update_same (fun _ => rfl) fun _ => rfl
  | failAll => exact idle_update (fun _ => rfl) fun x _ => Router.alike_failAll x.router
  | look | forgo | wait => exact .refl s

namespace Operating

theorem next_idle {phase : Operating} {out : Operating × System} (h : out ∈ phase.next s c t) :
    s.Idle out.2 := by
  cases phase with
  | calling shape call =>
    obtain ⟨⟨progress, s₁⟩, called, rfl⟩ := List.mem_map.1 h
    have idle : s.Idle s₁ := Call.next_idle called
    cases progress <;> exact idle
  | notifying kind payload =>
    rw [List.mem_singleton.1 h]
    exact .of_same rfl rfl rfl rfl
  | sending message phase =>
    obtain ⟨⟨progress, s₁⟩, sent, rfl⟩ := List.mem_map.1 h
    have idle : s.Idle s₁ := Sending.next_idle sent
    cases progress <;> exact idle
  | closing phase =>
    obtain ⟨⟨progress, s₁⟩, closed, rfl⟩ := List.mem_map.1 h
    have idle : s.Idle s₁ := Closing.next_idle closed
    cases progress <;> exact idle
  | finished | aborted => cases h

theorem abort_idle (operation : Operating) : s.Idle (operation.abort s c t) := by
  cases operation with
  | calling shape call => exact Call.abort_idle call
  | sending message phase => exact idle_update_same (fun _ => rfl) fun _ => rfl
  | _ => exact .refl s

end Operating

namespace Accepting

def Stirs (s : System) (c : ConnectionId) (s' : System) : Prop :=
  s.Idle s' ∨ ∃ identity : String, s.Alters c (fun table => { table with identity := some identity }) s'

theorem introduce_stirs (response : Except LinkError Bytes) : Stirs s c (introduce s c connection response).2 := by
  unfold introduce
  cases announcement response with
  | error error => exact .inl (.log ..)
  | ok announced =>
    have known : s.Alters c (fun table => { table with identity := some announced.identity })
        (s.update c fun x => { x with announced := some announced }) := .update fun _ _ => rfl
    exact .inr ⟨announced.identity, known.before_idle (.log ..)⟩

theorem enter_idle (announced : Announcement) : s.Idle (enter s c connection announced).2 := by
  unfold enter
  dsimp only
  split
  · exact .of_same rfl rfl rfl rfl
  · split
    · exact .of_same rfl rfl rfl rfl
    · exact .log ..

theorem conclude_idle (announced : Announcement) (verdict : Verdict) :
    s.Idle (conclude s connection announced verdict).2 := by
  cases verdict with
  | admitted displaced =>
    cases displaced with
    | none => exact .refl s
    | some old => exact .log ..
  | gone | refused => exact .refl s

theorem Action.stirs {phase : Accepting} {out : Accepting × System} (proper : (Task.accept c phase).Proper s)
    (action : Action s c t connection phase out) : Stirs s c out.2 := by
  have transition : ∀ {errand : Errand}, (Task.accept c phase).errand? = some (c, errand, true) →
      errand.report.isRecord = false := by
    intro errand underWay
    exact not_isRecord_of_isTransition (proper.errands c errand true underWay).2
  cases action with
  | ask called => exact .inl (Call.next_idle called)
  | @introduce call response s₁ called =>
    have idle : s.Idle s₁ := Call.next_idle called
    have introduced : Stirs s₁ c (Accepting.introduce s₁ c connection response).2 := introduce_stirs response
    rcases introduced with same | ⟨identity, known⟩
    · exact .inl (idle.trans same)
    · exact .inr ⟨identity, known.after_idle idle⟩
  | refuse closed | refused closed | replace closed | replaced _ closed => exact .inl (Closing.next_idle closed)
  | queueLifecycle | activate => exact .inl (idle_update_same (fun _ => rfl) fun _ => rfl)
  | awaitLifecycle => exact .inl (.refl s)
  | queueIdentity | releaseIdentity => exact .inl (.of_same rfl rfl rfl rfl)
  | enter => exact .inl (enter_idle _)
  | mark _ delivered => exact .inl ((tells_of_deliver? delivered).1.idle (transition rfl))
  | complain _ delivered =>
    have told := (tells_of_deliver? delivered).1.idle (transition rfl)
    exact .inl (told.trans (.log ..))
  | announce published =>
    obtain ⟨failed, told⟩ := tells_of_publish? published
    exact .inl (told.idle (transition rfl))
  | @conclude announced verdict =>
    have released : s.Idle (s.releaseLifecycle c t) := idle_update_same (fun _ => rfl) fun _ => rfl
    exact .inl (released.trans (conclude_idle announced verdict))

theorem next_stirs {phase : Accepting} {out : Accepting × System} (proper : (Task.accept c phase).Proper s)
    (h : out ∈ phase.next s c t) : Stirs s c out.2 := by
  obtain ⟨connection, _, action⟩ := action_of_next h
  exact action.stirs proper

end Accepting

namespace Supervising

inductive Stirs (s : System) (c : ConnectionId) (s' : System) : Prop where
  | idle (idle : s.Idle s')
  | enlist {s₁ : System} {table : Table} {handler : Handler} {message : Message}
    (here : s.table? c = some table) (bound : table.handlers.get? message.kind = some handler)
    (alters : s.Alters c (·.enlist { handler, message }) s₁)
    (result : s' = s₁.spawn (.handle c table.admitted .admitted))

theorem leave_idle (departure : Departure) : s.Idle (leave s c departure).2 :=
  idle_update_same (fun _ => rfl) fun _ => rfl

theorem receive_stirs (here : s.connections[c]? = some connection) (payload : Bytes) (inbox : FrameBuffer) :
    Stirs s c (receive s c connection payload inbox) := by
  unfold receive
  split
  · have kept : s.Idle (s.update c fun x => { x with inbox }) := idle_update_same (fun _ => rfl) fun _ => rfl
    exact .idle (kept.trans (.logs ..))
  next message _ =>
    have decided := connection.router.route_cases message
    generalize connection.router.route message = routed at decided ⊢
    obtain ⟨fate, lines, router⟩ := routed
    dsimp only at decided ⊢
    rcases decided with ⟨other, alike⟩ | ⟨rfl, handler, bound, rfl⟩
    · rw [if_neg other]
      have routed : s.Idle (s.update c fun x => { x with inbox, router, routed := x.routed ++ [message] }) := by
        refine idle_update (fun _ => rfl) fun x found => ?_
        rw [here] at found
        cases found
        exact alike
      exact .idle (routed.trans (.logs ..))
    · rw [if_pos rfl]
      refine .enlist (table?_of_connection here) bound (Alters.before_idle (.update fun x found => ?_) (.logs ..)) rfl
      rw [here] at found
      cases found
      rfl

theorem unregister_idle (failed : Nat) (identity : String) : s.Idle (unregister s c failed identity).2 := by
  unfold unregister
  dsimp only
  split <;> exact .of_same rfl rfl rfl rfl

theorem Action.stirs {phase : Supervising} {out : Supervising × System} (proper : (Task.supervise c phase).Proper s)
    (here : s.connections[c]? = some connection) (action : Action s c t connection phase out) : Stirs s c out.2 := by
  have transition : ∀ {errand : Errand}, (Task.supervise c phase).errand? = some (c, errand, true) →
      errand.report.isRecord = false := by
    intro errand underWay
    exact not_isRecord_of_isTransition (proper.errands c errand true underWay).2
  cases action with
  | receive => exact receive_stirs here _ _
  | start | fetch | load | write | claim | halt | queueLifecycle | releaseLifecycle | publish =>
    exact .idle (idle_update_same (fun _ => rfl) fun _ => rfl)
  | @reject envelope outbox error =>
    have taken : s.Idle (s.update c fun x => { x with outbox }) := idle_update_same (fun _ => rfl) fun _ => rfl
    exact .idle (taken.trans (leave_idle _))
  | leave => exact .idle (leave_idle _)
  | remark => exact .idle (.logs ..)
  | forgo | skip => exact .idle (.refl s)
  | failAll =>
    refine .idle (idle_update (fun _ => rfl) fun x found => ?_)
    rw [here] at found
    cases found
    exact Router.alike_failAll connection.router
  | queueIdentity | releaseIdentity => exact .idle (.of_same rfl rfl rfl rfl)
  | unregister => exact .idle (unregister_idle ..)
  | mark delivered => exact .idle ((tells_of_deliver? delivered).1.idle (transition rfl))
  | complain delivered =>
    have told := (tells_of_deliver? delivered).1.idle (transition rfl)
    exact .idle (told.trans (.log ..))
  | announce published =>
    obtain ⟨failed, told⟩ := tells_of_publish? published
    exact .idle (told.idle (transition rfl))
  | farewell => exact .idle (.log ..)

theorem next_stirs {phase : Supervising} {out : Supervising × System}
    (proper : (Task.supervise c phase).Proper s) (h : out ∈ phase.next s c t) : Stirs s c out.2 := by
  obtain ⟨connection, here, action⟩ := action_of_next h
  exact action.stirs proper here

end Supervising

namespace Handling

inductive Stirs (s : System) (c : ConnectionId) (identity : Option String) (id : JobId) (job : Job) :
    Handling → Handling × System → Prop where
  | go {phase phase' : Handling} {s' : System} (goes : phase.Goes c identity job phase') (idle : s.Idle s') :
    Stirs s c identity id job phase (phase', s')
  | finish {phase : Handling} {s' : System} (ends : phase.Ends job) (alters : s.Alters c (·.finish id) s') :
    Stirs s c identity id job phase (.finished, s')
  | record {left : List Action} {file : ConfigFile} {errand errand' : Errand} {s' : System}
    (told : s.Tells errand false s') (other : errand'.report.isRecord = false) :
    Stirs s c identity id job (.acting left (.recording file errand)) (.acting left (.reporting errand'), s')
  | report {left : List Action} {errand : Errand} {failed : Bool} {s' : System}
    (told : s.Tells errand failed s') :
    Stirs s c identity id job (.acting left (.reporting errand)) (.acting left .nothing, s')
  | lose {left : List Action} {file : ConfigFile} {errand : Errand} {s₁ s' : System}
    (told : s.Tells errand true s₁) (excused : s.collaborators.mayFail errand.report)
    (alters : s₁.Alters c (·.finish id) s') :
    Stirs s c identity id job (.acting left (.recording file errand)) (.finished, s')

variable {id : JobId} {job : Job}

theorem finish_alters (here : s.table? c = some connection.table)
    (found : connection.router.jobs.get? id = some job) (ending : Ending) :
    s.Alters c (·.finish id) (finish s c connection id ending).2 := by
  unfold finish
  refine Alters.before_idle (.update fun x there => ?_) (.logs ..)
  rw [table?_of_connection there] at here
  have same : x.table = connection.table := Option.some.inj here
  rw [same]
  have identity : x.identity? = connection.identity? := congrArg Table.identity same
  unfold Connection.table Router.finish Table.finish
  rw [found]
  cases ending <;> simp only [← identity] <;> rfl

theorem stirs_finish {identity : Option String} {phase : Handling} {s₁ : System} (idle : s.Idle s₁)
    (here : s.table? c = some connection.table) (found : connection.router.jobs.get? id = some job)
    (ending : Ending) (ends : phase.Ends job) :
    Stirs s c identity id job phase (finish s₁ c connection id ending) := by
  have there : s₁.table? c = some connection.table := (idle.tables c).trans here
  exact .finish ends (Alters.after_idle idle (finish_alters there found ending))

theorem stirs_lose {identity : Option String} {left : List Action} {file : ConfigFile} {errand : Errand}
    {s₁ : System} (told : s.Tells errand true s₁) (excused : s.collaborators.mayFail errand.report)
    (here : s.table? c = some connection.table) (found : connection.router.jobs.get? id = some job)
    (ending : Ending) : Stirs s c identity id job (.acting left (.recording file errand))
      (finish s₁ c connection id ending) := by
  have there : s₁.table? c = some connection.table := (told.tables c).trans here
  exact .lose told excused (finish_alters there found ending)

theorem Breaks.ends {action : Action} {left : List Action} {ending : Ending} (breaks : Breaks job action ending) :
    (acting (action :: left) .nothing).Ends job := by
  cases breaks with
  | file undecodable =>
    refine .undecodable ?_
    simp only [Message.file?, undecodable]
  | announcement | notice | fail | panic => exact .broken (by simp)

theorem Performs.stirs {phase : Handling} {out : Handling × System} (here : s.connections[c]? = some connection)
    (found : connection.router.jobs.get? id = some job) (performs : Performs s c t connection id job phase out) :
    Stirs s c connection.identity? id job phase out := by
  have there := table?_of_connection here
  cases performs with
  | queue => exact .go .queue (idle_update (fun _ => rfl) fun _ _ => ⟨rfl, rfl, rfl⟩)
  | start => exact .go .start (.sight ..)
  | finish => exact stirs_finish (.sight ..) there found .finished .done
  | breakOff breaks => exact stirs_finish (.refl s) there found _ breaks.ends
  | begin begins => cases begins <;> exact .go (.begin (by simp) trivial) (.refl s)
  | noteHeartbeat => exact .go (.begin (by simp) trivial) (idle_update_same (fun _ => rfl) fun _ => rfl)
  | noteAnnouncement => exact .go (.begin (by simp) trivial) (.log ..)
  | @recordFile _ fields decoded =>
    have brings : job.message.file? = some (.ofFields fields) := by simp only [Message.file?, decoded]
    exact .go (.record brings) (.log ..)
  | reportFile => exact .go (.begin (by simp) rfl) (.log ..)
  | pass => exact .go (.begin (by simp) trivial) (.of_same rfl rfl rfl rfl)
  | passed => exact .go (.carryOn rfl (by simp) trivial) (.of_same rfl rfl rfl rfl)
  | send sends | sent sends => exact .go (.carryOn rfl (by simp) trivial) (Sending.next_idle sends)
  | unsent sends present =>
    -- The connection is still there, with the same jobs.
    have idle := Sending.next_idle sends
    have same := Option.some.inj ((table?_of_connection present).symm.trans ((idle.tables c).trans there))
    refine stirs_finish idle ?_ ((congrArg (·.jobs.get? id) same).trans found) _ .unsent
    rw [same]
    exact there
  | lost sends gone =>
    have tables := ((Sending.next_idle sends).tables c).trans there
    rw [System.table?, gone] at tables
    cases tables
  | ask called | answered called => exact .go (.carryOn rfl (by simp) trivial) (Call.next_idle called)
  | close closed | closed closed => exact .go (.carryOn rfl (by simp) trivial) (Closing.next_idle closed)
  | record delivered => exact .record (tells_of_deliver? delivered).1 rfl
  | unrecorded delivered =>
    obtain ⟨told, excused⟩ := tells_of_deliver? delivered
    exact stirs_lose told (excused rfl) there found _
  | report published =>
    obtain ⟨failed, told⟩ := tells_of_publish? published
    exact .report told

theorem next_stirs {phase : Handling} {out : Handling × System} (h : out ∈ phase.next s c t id) :
    ∃ connection job, s.connections[c]? = some connection ∧ connection.router.jobs.get? id = some job ∧
      Stirs s c connection.identity? id job phase out := by
  obtain ⟨connection, job, here, found, performs⟩ := performs_of_next h
  exact ⟨connection, job, here, found, performs.stirs here found⟩

end Handling

end Fleetwire
