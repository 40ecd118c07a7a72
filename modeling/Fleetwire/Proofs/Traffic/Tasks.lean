import Fleetwire.Proofs.Actions
import Fleetwire.Proofs.Traffic.Calls

namespace Fleetwire

open Fleetwire.System

/-- What an action of a task comes to: the server is `s'`, and the task goes on as `task'`. -/
structure Task.Deals (s : System) (task : Task) (s' : System) (task' : Task) : Prop where
  act : ∀ c, (s.traffic c).Act (task.part c) (task'.part c) (s'.traffic c)
  grows : s.Grows s'
  relies : ∀ c ∈ task'.relies, c < s'.connections.length

section Deals

variable {s s' : System} {c : ConnectionId} {p p' : Part} {task task' : Task}

theorem Task.Deals.of_mild (mild : s.Mild s') (part : ∀ c, task.part c = .none)
    (part' : ∀ c, task'.part c = .none) (relies : ∀ c ∈ task'.relies, c < s.connections.length) :
    Task.Deals s task s' task' := by
  refine ⟨fun c => ?_, mild.grows, fun c member => Nat.lt_of_lt_of_le (relies c member) mild.grows.connections⟩
  rw [part, part']
  exact .mild (mild.traffic c)

theorem Task.Deals.of_deals (deals : s.Deals c p p' s')
    (part : ∀ other, task.part other = if c = other then p else .none)
    (part' : ∀ other, task'.part other = if c = other then p' else .none)
    (relies : ∀ c ∈ task'.relies, c < s.connections.length) : Task.Deals s task s' task' := by
  refine ⟨fun other => ?_, deals.grows,
    fun c member => Nat.lt_of_lt_of_le (relies c member) deals.grows.connections⟩
  rw [part, part']
  exact deals.act other

end Deals

theorem Part.none_if {c other : ConnectionId} : Part.none = if c = other then Part.none else .none := by
  split <;> rfl

namespace Accepting

variable {s : System} {c : ConnectionId} {t : TaskId} {connection : Connection}
  {announced : Announcement}

abbrev Deals (s : System) (c : ConnectionId) (phase : Accepting) (out : Accepting × System) : Prop :=
  Task.Deals s (.accept c phase) out.2 (.accept c out.1)

theorem introduce_same (response : Except LinkError Bytes) :
    s.Same (introduce s c connection response).2 := by
  unfold introduce
  split
  · exact Same.log _ _ _ _
  next announced _ =>
    have introduced : s.Same (s.update c fun x => { x with announced := some announced }) :=
      Same.update fun _ => rfl
    exact introduced.trans (Same.log _ _ _ _)

theorem introduce_part (response : Except LinkError Bytes) (other : ConnectionId) :
    (introduce s c connection response).1.part c other = .none := by
  unfold introduce
  split
  · exact Part.none_if.symm
  · rfl

theorem enter_deals (founded : s.Founded) (here : c < s.connections.length) :
    Deals s c .awaitIdentity (enter s c connection announced) := by
  have put : s.Same { s with directory := (s.directory.put announced.identity c).2 } := by
    refine Same.of_eq rfl rfl rfl rfl fun identity other entry => ?_
    rw [Directory.get?_put] at entry
    split at entry
    · cases entry
      exact .inr here
    · exact .inl entry
  have own : ∀ other ∈ [c], other < s.connections.length := fun other member =>
    List.mem_singleton.1 member ▸ here
  unfold enter
  split
  · refine .of_mild put.mild (fun _ => rfl) (fun _ => rfl) fun other member => ?_
    rcases List.mem_cons.1 member with rfl | displaced
    · exact here
    · have old := (Option.filter_eq_some_iff.1 (Option.mem_toList.1 displaced)).1
      exact founded.entries announced.identity other old
  · split
    next directory entered =>
      unfold Directory.putIfFree at entered
      split at entered
      · cases entered
      · cases entered
        exact .of_mild put.mild (fun _ => rfl) (fun _ => rfl) own
    · exact .of_mild (Same.log _ _ _ _).mild (fun _ => rfl) (fun _ => rfl) own

theorem Action.deals {phase : Accepting} {out : Accepting × System} (founded : s.Founded)
    (relied : ∀ other ∈ (Task.accept c phase).relies, other < s.connections.length)
    (here : s.connections[c]? = some connection) (action : Action s c t connection phase out) :
    Deals s c phase out := by
  have inside : c < s.connections.length := (List.getElem?_eq_some_iff.1 here).1
  have noOne : ∀ other ∈ ([] : List ConnectionId), other < s.connections.length := nofun
  have lifecycle : ∀ f : Connection → Line TaskId,
      s.Same (s.update c fun x => { x with lifecycle := f x }) := fun f => Same.update fun _ => rfl
  have locks : ∀ f : Directory ConnectionId TaskId → Directory ConnectionId TaskId,
      (f s.directory).entries = s.directory.entries → s.Same { s with directory := f s.directory } := by
    intro f same
    refine Same.of_eq rfl rfl rfl rfl fun identity other entry => .inl ?_
    rw [Directory.get?, same] at entry
    exact entry
  cases action with
  | ask called => exact .of_deals (Call.next_deals called) (fun _ => rfl) (fun _ => rfl) nofun
  | @introduce call response s₁ called =>
    have introduced : s.Deals c (.calling call) .none (Accepting.introduce s₁ c connection response).2 :=
      (Call.next_deals called).after_same (introduce_same response)
    refine .of_deals introduced (fun _ => rfl) (fun other => ?_) ?_
    · exact (introduce_part response other).trans Part.none_if
    · dsimp only [Accepting.introduce]
      split
      · exact nofun
      · exact fun other member => List.mem_singleton.1 member ▸ inside
  | refuse closed => exact .of_deals (Closing.next_deals here closed) (fun _ => rfl) (fun _ => rfl) nofun
  | refused closed => exact .of_deals (Closing.next_deals here closed) (fun _ => rfl) (fun _ => Part.none_if) nofun
  | queueLifecycle => exact .of_mild (lifecycle _).mild (fun _ => rfl) (fun _ => rfl) relied
  | awaitLifecycle =>
    refine .of_mild (Same.refl s).mild (fun _ => rfl) (fun _ => ?_) ?_
    · dsimp only
      split <;> rfl
    · dsimp only
      split <;> exact relied
  | queueIdentity => exact .of_mild (locks (·.joinTransition _ _) rfl).mild (fun _ => rfl) (fun _ => rfl) relied
  | enter => exact enter_deals founded inside
  | mark _ delivered => exact .of_mild (Same.deliver? delivered).mild (fun _ => rfl) (fun _ => rfl) relied
  | complain _ delivered =>
    have told := Same.deliver? delivered
    exact .of_mild (told.trans (Same.log _ _ _ _)).mild (fun _ => rfl) (fun _ => rfl) relied
  | announce published => exact .of_mild (Same.publish? published).mild (fun _ => rfl) (fun _ => rfl) relied
  | activate =>
    have mild : s.Mild (s.update c fun x => { x with stage := .active }) := Mild.update fun x _ =>
      ⟨rfl, rfl, rfl, rfl, fun atEnd => Stage.noConfusion atEnd, rfl, id, id⟩
    exact .of_mild mild (fun _ => rfl) (fun _ => rfl) relied
  | @releaseIdentity announced verdict =>
    refine .of_mild (locks (·.leaveTransition _ _) rfl).mild (fun _ => rfl) (fun _ => rfl) ?_
    cases verdict <;> exact relied
  | @conclude announced verdict =>
    have left : s.Same (s.releaseLifecycle c t) := lifecycle _
    cases verdict with
    | gone => exact .of_mild left.mild (fun _ => rfl) (fun _ => rfl) noOne
    | refused => exact .of_mild left.mild (fun _ => rfl) (fun _ => Part.none_if.symm) noOne
    | admitted displaced =>
      cases displaced with
      | none => exact .of_mild left.mild (fun _ => rfl) (fun _ => rfl) noOne
      | some old =>
        exact .of_mild (left.trans (Same.log _ _ _ _)).mild (fun _ => rfl) (fun _ => Part.none_if.symm) relied
  | @replace old closing later s₁ closed =>
    have known : old < s.connections.length := relied old (List.mem_cons_of_mem _ (List.mem_singleton_self old))
    have deals := Closing.next_deals (List.getElem?_eq_getElem known) closed
    exact .of_deals deals (fun _ => rfl) (fun _ => rfl) relied
  | @replaced announced old closing s₁ _ closed =>
    have known : old < s.connections.length := relied old (List.mem_cons_of_mem _ (List.mem_singleton_self old))
    have deals := Closing.next_deals (List.getElem?_eq_getElem known) closed
    exact .of_deals deals (fun _ => rfl) (fun _ => Part.none_if) nofun

theorem next_deals {phase : Accepting} {out : Accepting × System} (founded : s.Founded)
    (relied : ∀ other ∈ (Task.accept c phase).relies, other < s.connections.length)
    (h : out ∈ phase.next s c t) : Deals s c phase out := by
  obtain ⟨connection, here, action⟩ := action_of_next h
  exact action.deals founded relied here

end Accepting

namespace Supervising

variable {s : System} {c : ConnectionId} {t : TaskId} {connection : Connection}

abbrev Deals (s : System) (c : ConnectionId) (phase : Supervising) (out : Supervising × System) : Prop :=
  Task.Deals s (.supervise c phase) out.2 (.supervise c out.1)

theorem deals_of (here : s.connections[c]? = some connection) {phase : Supervising}
    {out : Supervising × System} (deals : s.Deals c phase.part out.1.part out.2) : Deals s c phase out := by
  refine .of_deals deals (fun _ => rfl) (fun _ => rfl) fun other member => ?_
  have own : other = c := by
    unfold Task.relies at member
    cases phase' : out.1 with
    | spawned =>
      rw [phase'] at member
      cases member
    | _ =>
      rw [phase'] at member
      exact List.mem_singleton.1 member
  rw [own]
  exact (List.getElem?_eq_some_iff.1 here).1

theorem leave_mild (departure : Departure) : s.Mild (leave s c departure).2 :=
  Mild.update fun _ _ => ⟨rfl, rfl, rfl, rfl, id, rfl, id, fun isOpen => Bool.noConfusion isOpen⟩

theorem receive_deals (here : s.connections[c]? = some connection) (payload : Bytes)
    (inbox : FrameBuffer) : s.Deals c .none .none (receive s c connection payload inbox) := by
  unfold receive
  split
  · have read : s.Same (s.update c fun x => { x with inbox }) := Same.update fun _ => rfl
    exact .of_same (read.trans (Same.logs _ _))
  next message decoded =>
    have routed : s.Deals c .none .none (s.update c fun x => { x with
        inbox, router := (connection.router.route message).2.2, routed := x.routed ++ [message] }) :=
      .update here (.receive message)
    have logged := routed.after_same (Same.logs _ (connection.router.route message).2.1)
    dsimp only
    split
    · refine logged.after_same (Same.spawn (fun _ => Part.none_if.symm) fun other member => ?_)
      rw [List.mem_singleton.1 member]
      exact Nat.lt_of_lt_of_le (List.getElem?_eq_some_iff.1 here).1 logged.grows.connections
    · exact logged

theorem unregister_same (failed : Nat) (identity : String) : s.Same (unregister s c failed identity).2 ∧
    (unregister s c failed identity).1.part = .failed := by
  have removed : s.Same { s with directory := (s.directory.removeIfHolder identity c).2 } := by
    refine Same.of_eq rfl rfl rfl rfl fun other agent entry => .inl ?_
    unfold Directory.removeIfHolder at entry
    split at entry
    · have kept := Directory.get?_remove s.directory identity other
      dsimp only [Directory.remove] at kept
      rw [kept] at entry
      split at entry
      · cases entry
      · exact entry
    · exact entry
  unfold unregister
  dsimp only
  split <;> exact ⟨removed, rfl⟩

theorem Action.deals {phase : Supervising} {out : Supervising × System} (here : s.connections[c]? = some connection)
    (action : Action s c t connection phase out) : s.Deals c phase.part out.1.part out.2 := by
  have keeps : ∀ f : Connection → Connection, (∀ x, (f x).exchange = x.exchange) →
      s.Deals c .none .none (s.update c f) := fun f same => .of_same (Same.update same)
  have locks : ∀ f : Connection → Line TaskId,
      s.Same (s.update c fun x => { x with lifecycle := f x }) := fun f => Same.update fun _ => rfl
  have shared : ∀ f : Directory ConnectionId TaskId → Directory ConnectionId TaskId,
      (f s.directory).entries = s.directory.entries → s.Same { s with directory := f s.directory } := by
    intro f same
    refine Same.of_eq rfl rfl rfl rfl fun identity other entry => .inl ?_
    rw [Directory.get?, same] at entry
    exact entry
  have took {envelope : Bytes} {outbox : Outbox} (taken : connection.outbox.take? = some (envelope, outbox))
      {f : Connection → Connection} (takes : ∀ x, (f x).exchange = { x.exchange with isOpen := outbox.isOpen }) :
      s.Mild (s.update c f) := by
    have isOpen : outbox.isOpen = connection.outbox.isOpen := by rw [← (Outbox.take?_eq_some.1 taken).2]
    refine Mild.update fun x found => ?_
    rw [takes, isOpen]
    cases here.symm.trans found
    exact .refl _
  cases action with
  | receive => exact receive_deals here _ _
  | start | fetch | write => exact keeps _ fun _ => rfl
  | load _ taken => exact .of_mild (took taken fun _ => rfl)
  | @reject envelope outbox error _ taken =>
    have before : s.Mild (s.update c fun x => { x with outbox }) := took taken fun _ => rfl
    exact .of_mild (before.trans (leave_mild _))
  | leave => exact .of_mild (leave_mild _)
  | remark => exact .of_same (Same.logs _ _)
  | forgo | skip => exact .of_same (Same.refl s)
  | claim isOpen => exact .update here (.seize isOpen)
  | halt => exact .update here .press
  | failAll => exact .update here .fail
  | queueLifecycle | releaseLifecycle => exact .of_same (locks _)
  | queueIdentity => exact .of_same (shared (·.joinTransition _ _) rfl)
  | releaseIdentity => exact .of_same (shared (·.leaveTransition _ _) rfl)
  | @unregister failed identity =>
    obtain ⟨same, part⟩ := @unregister_same s c failed identity
    rw [part]
    exact .of_same same
  | mark delivered => exact .of_same (Same.deliver? delivered)
  | complain delivered => exact .of_same ((Same.deliver? delivered).trans (Same.log _ _ _ _))
  | announce published => exact .of_same (Same.publish? published)
  | farewell => exact .of_same (Same.log _ _ _ _)
  | publish => exact .update here .publish

theorem next_deals {phase : Supervising} {out : Supervising × System} (h : out ∈ phase.next s c t) :
    Deals s c phase out := by
  obtain ⟨connection, here, action⟩ := action_of_next h
  exact deals_of here (action.deals here)

end Supervising

namespace Handling

variable {s : System} {c : ConnectionId} {t : TaskId} {connection : Connection} {id : JobId}

theorem finish_deals (here : s.connections[c]? = some connection) (ending : Ending) :
    s.Mild (finish s c connection id ending).2 := by
  have calls := Router.finish_calls (r := connection.router) id ending
  have router : s.Mild (s.update c fun x =>
      { x with router := (connection.router.finish id ending).2 }) := by
    refine Mild.update fun x found => ?_
    cases here.symm.trans found
    exact .of_calls calls rfl
  exact router.trans (Same.logs _ _).mild

abbrev Acts (s : System) (c : ConnectionId) (p : Part) (out : Handling × System) : Prop :=
  s.Deals c p out.1.part out.2

theorem Performs.deals {job : Job} {phase : Handling} {out : Handling × System}
    (here : s.connections[c]? = some connection) (performs : Performs s c t connection id job phase out) :
    Acts s c phase.part out := by
  cases performs with
  | queue => exact .of_mild (Mild.update fun _ _ => .of_calls ⟨rfl, rfl⟩ rfl)
  | start => exact .of_same (Same.sight ..)
  | finish =>
    have here' := (congrArg (·[c]?) (connections_sight s c .finish job)).trans here
    exact .of_mild ((Same.sight s c .finish job).mild.trans (finish_deals here' _))
  | breakOff => exact .of_mild (finish_deals here _)
  | begin begins =>
    cases begins with
    | reply | refuse | close => exact .of_same (Same.refl s)
    | relay => exact ⟨.begin _ rfl, fun _ _ => .refl _, .refl s⟩
  | noteHeartbeat => exact .of_same (Same.update fun _ => rfl)
  | noteAnnouncement | recordFile | reportFile => exact .of_same (Same.log _ _ _ _)
  | pass | passed => exact .of_same (Same.of_eq rfl rfl rfl rfl fun _ _ => .inl)
  | send sends | sent sends | lost sends => exact .of_same (Sending.next_same sends)
  | unsent sends there => exact .of_mild ((Sending.next_same sends).mild.trans (finish_deals there _))
  | ask called | answered called => exact Call.next_deals called
  | close closed | closed closed => exact Closing.next_deals here closed
  | record delivered => exact .of_same (Same.deliver? delivered)
  | unrecorded delivered =>
    have here' := (congrArg (·[c]?) (connections_deliver? delivered)).trans here
    exact .of_mild ((Same.deliver? delivered).mild.trans (finish_deals here' _))
  | report published => exact .of_same (Same.publish? published)

theorem next_deals {phase : Handling} {out : Handling × System} (h : out ∈ phase.next s c t id) :
    Task.Deals s (.handle c id phase) out.2 (.handle c id out.1) := by
  obtain ⟨connection, job, here, _, performs⟩ := performs_of_next h
  exact .of_deals (performs.deals here) (fun _ => rfl) (fun _ => rfl) fun other member =>
    List.mem_singleton.1 member ▸ (List.getElem?_eq_some_iff.1 here).1

end Handling

namespace Operating

variable {s : System} {c : ConnectionId} {t : TaskId}

theorem next_deals {phase : Operating} {out : Operating × System} (inside : c < s.connections.length)
    (h : out ∈ phase.next s c t) : Task.Deals s (.operate c phase) out.2 (.operate c out.1) := by
  suffices deals : s.Deals c phase.part out.1.part out.2 from
    .of_deals deals (fun _ => rfl) (fun _ => rfl) fun other member =>
      List.mem_singleton.1 member ▸ inside
  cases phase with
  | calling shape call =>
    obtain ⟨⟨progress, s₁⟩, called, rfl⟩ := List.mem_map.1 h
    have deals := Call.next_deals called
    cases progress <;> exact deals
  | notifying kind payload =>
    rw [List.mem_singleton.1 h]
    have numbered : s.Mild { s with nextId := s.nextId + 1 } :=
      ⟨fun _ => ⟨rfl, Nat.le_succ _, (Traffic.Mild.refl _).exchange, rfl⟩,
        .of_eq rfl rfl fun _ _ => .inl⟩
    exact .of_mild numbered
  | sending message phase =>
    obtain ⟨⟨progress, s₁⟩, sent, rfl⟩ := List.mem_map.1 h
    have same : s.Same s₁ := Sending.next_same sent
    cases progress <;> exact .of_same same
  | closing phase =>
    obtain ⟨⟨progress, s₁⟩, closed, rfl⟩ := List.mem_map.1 h
    have deals := Closing.next_deals (List.getElem?_eq_getElem inside) closed
    cases progress <;> exact deals
  | finished result | aborted => cases h

theorem abort_deals {operation : Operating} :
    s.Deals c operation.part .dropped (operation.abort s c t) := by
  have quits : ∀ s' : System, s.Same s' → (∀ call, operation.part ≠ .calling call) →
      s.Deals c operation.part .dropped s' := by
    intro s' same idle
    have unchanged : s.Deals c operation.part .dropped s :=
      ⟨.quit (.inr fun call calls => absurd calls (idle call)), fun _ _ => .refl _, .refl s⟩
    exact unchanged.after_same same
  cases operation with
  | calling shape call => exact call.abort_deals
  | sending message phase =>
    exact quits _ (Same.update fun _ => rfl) fun call calls => Part.noConfusion calls
  | closing phase => exact quits s (Same.refl s) fun call calls => by cases phase <;> cases calls
  | notifying kind payload | finished result | aborted =>
    exact quits s (Same.refl s) fun call calls => Part.noConfusion calls

end Operating

end Fleetwire
