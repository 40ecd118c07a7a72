import Fleetwire.Proofs.Lifecycle.Quiet

namespace Fleetwire

open Fleetwire.System

/-- What an action of a task comes to: the server is `s'`, and the task goes on as `task'`. -/
structure Task.Goes (s : System) (t : TaskId) (task : Task) (s' : System) (task' : Task) : Prop where
  keeps : s.Keeps s'
  proper : task'.Proper s'
  moves : s'.lifecycle.setDuty t task'.duty = s.lifecycle ∨
    Lifecycle.Move s.collaborators.mayFail s.lifecycle (s'.lifecycle.setDuty t task'.duty)

section Goes

variable {s s' : System} {t : TaskId} {c : ConnectionId} {task task' : Task}

theorem Task.Goes.quiet (found : s.tasks[t]? = some task) (quiet : s.Quiet s')
    (proper : task'.Proper s') (same : task'.duty = task.duty) : Task.Goes s t task s' task' := by
  refine ⟨quiet.toKeeps, proper, Or.inl ?_⟩
  rw [quiet.lifecycle, same]
  exact Lifecycle.setDuty_of_duty (duty_of_task found)

theorem Task.Goes.move (keeps : s.Keeps s') (proper : task'.Proper s') {l : Lifecycle}
    (lifecycle : s'.lifecycle = l)
    (move : Lifecycle.Move s.collaborators.mayFail s.lifecycle (l.setDuty t task'.duty)) :
    Task.Goes s t task s' task' := by
  subst lifecycle
  exact ⟨keeps, proper, Or.inr move⟩

theorem Task.Goes.sharing {connection : Connection} {l : Lifecycle}
    (here : s.connections[c]? = some connection) (keeps : s.Keeps s') (proper : task'.Proper s')
    (lifecycle : s'.lifecycle = l) (lives : l.life = s.lifecycle.life)
    (move : Lifecycle.Move s.collaborators.mayFail s.lifecycle
      ((l.setLife c connection.life).setDuty t task'.duty)) : Task.Goes s t task s' task' := by
  have same : l.life c = some connection.life := by rw [lives, life_of_connection here]
  rw [Lifecycle.setLife_of_life same] at move
  exact Task.Goes.move keeps proper lifecycle move

theorem Task.Goes.before_quiet {s₁ : System} (quiet : s.Quiet s₁)
    (goes : Task.Goes s₁ t task s' task') : Task.Goes s t task s' task' := by
  refine ⟨quiet.toKeeps.trans goes.keeps, goes.proper, ?_⟩
  rw [← quiet.lifecycle, ← quiet.collaborators]
  exact goes.moves

theorem Task.Goes.after_quiet {s₁ : System} (goes : Task.Goes s t task s₁ task')
    (quiet : s₁.Quiet s') : Task.Goes s t task s' task' := by
  refine ⟨goes.keeps.trans quiet.toKeeps, goes.proper.mono quiet.serves, ?_⟩
  rw [quiet.lifecycle]
  exact goes.moves

theorem Task.proper_of_plain (closing : task.closing? = none) (errand : task.errand? = none)
    (relies : ∀ c ∈ task.relies, s.serves c) : task.Proper s := by
  refine ⟨relies, ?_, ?_⟩
  · intro closing' found
    rw [closing] at found
    cases found
  · intro other errand' transition found
    rw [errand] at found
    cases found

theorem Task.proper_of_nobody (closing : task.closing? = none) (errand : task.errand? = none)
    (relies : task.relies = []) : task.Proper s := by
  apply Task.proper_of_plain closing errand
  intro other member
  rw [relies] at member
  cases member

theorem Task.proper_of_serves (relies : task.relies = [c]) (closing : task.closing? = none)
    (errand : task.errand? = none) (served : s.serves c) : task.Proper s := by
  apply Task.proper_of_plain closing errand
  intro other member
  rw [relies, List.mem_singleton] at member
  exact member ▸ served

theorem Task.proper_of_closing {phase : Closing} (closing : task.closing? = some phase)
    (waits : phase.waits) (errand : task.errand? = none) (relies : ∀ c ∈ task.relies, s.serves c) :
    task.Proper s := by
  refine ⟨relies, ?_, ?_⟩
  · intro closing' found
    rw [closing] at found
    cases found
    exact waits
  · intro other errand' transition found
    rw [errand] at found
    cases found

theorem Task.proper_of_errand {errand : Errand} {transition : Bool}
    (closing : task.closing? = none) (sent : task.errand? = some (c, errand, transition))
    (source : errand.source = c) (report : errand.report.isTransition = transition)
    (relies : ∀ c ∈ task.relies, s.serves c) : task.Proper s := by
  refine ⟨relies, ?_, ?_⟩
  · intro closing' found
    rw [closing] at found
    cases found
  · intro other errand' transition' found
    rw [sent] at found
    cases found
    exact ⟨source, report⟩

end Goes

namespace Handling

variable {s : System} {c : ConnectionId} {t : TaskId} {connection : Connection} {id : JobId}

theorem finish_quiet (found : s.connections[c]? = some connection) (ending : Ending) :
    s.Quiet (finish s c connection id ending).2 := by
  have router : s.Quiet (s.update c fun x =>
      { x with router := (connection.router.finish id ending).2 }) := by
    refine quiet_update_exchange (fun _ => rfl) (fun _ => rfl) fun x here unanswered => ?_
    rw [found] at here
    cases here
    exact unanswered.of_slots (Router.slots_finish id ending)
  exact router.trans (Quiet.logs ..)

def Calm (s : System) (c : ConnectionId) (id : JobId) (out : Handling × System) : Prop :=
  s.Quiet out.2 ∧ (Task.handle c id out.1).Proper out.2

theorem calm_plain {out : Handling × System} (served : s.serves c) (quiet : s.Quiet out.2)
    (closing : (Task.handle c id out.1).closing? = none)
    (errand : (Task.handle c id out.1).errand? = none) : Calm s c id out :=
  ⟨quiet, Task.proper_of_serves rfl closing errand (quiet.serves c served)⟩

theorem calm_errand {s' : System} (served : s.serves c) (quiet : s.Quiet s') {left : List Action}
    {doing : Doing} {errand : Errand} (source : errand.source = c)
    (other : errand.report.isTransition = false)
    (doingEq : (∃ file, doing = .recording file errand) ∨ doing = .reporting errand) :
    Calm s c id (.acting left doing, s') := by
  refine ⟨quiet, ?_⟩
  have relies : ∀ c' ∈ (Task.handle c id (.acting left doing)).relies, s'.serves c' := fun c' member =>
    List.mem_singleton.1 member ▸ quiet.serves c served
  rcases doingEq with ⟨file, rfl⟩ | rfl <;> exact Task.proper_of_errand rfl rfl source other relies

theorem Performs.calm {job : Job} {phase : Handling} {out : Handling × System}
    (proper : (Task.handle c id phase).Proper s) (here : s.connections[c]? = some connection)
    (performs : Performs s c t connection id job phase out) : Calm s c id out := by
  have served : s.serves c := proper.relies c (List.mem_singleton_self c)
  cases performs with
  | queue =>
    exact calm_plain served
      (quiet_update_exchange (fun _ => rfl) (fun _ => rfl) fun _ _ h => h.of_slots rfl) rfl rfl
  | start => exact calm_plain served (Quiet.sight ..) rfl rfl
  | finish =>
    have here' := (congrArg (·[c]?) (connections_sight s c .finish job)).trans here
    exact calm_plain served ((Quiet.sight s c .finish job).trans (finish_quiet here' _)) rfl rfl
  | breakOff => exact calm_plain served (finish_quiet here _) rfl rfl
  | begin begins =>
    cases begins with
    | reply | refuse | relay => exact calm_plain served (Quiet.refl s) rfl rfl
    | close =>
      exact ⟨Quiet.refl s, Task.proper_of_closing rfl rfl rfl fun c' member => List.mem_singleton.1 member ▸ served⟩
  | noteHeartbeat =>
    exact calm_plain served (quiet_update_exchange (fun _ => rfl) (fun _ => rfl) fun _ _ h => h) rfl rfl
  | noteAnnouncement => exact calm_plain served (Quiet.log ..) rfl rfl
  | recordFile => exact calm_errand served (Quiet.log ..) rfl rfl (Or.inl ⟨_, rfl⟩)
  | reportFile => exact calm_errand served (Quiet.log ..) rfl rfl (Or.inr rfl)
  | pass | passed => exact calm_plain served (Quiet.of_sameLives rfl ⟨rfl, rfl, rfl, rfl, rfl⟩) rfl rfl
  | send sends | sent sends | lost sends => exact calm_plain served (Sending.next_quiet sends) rfl rfl
  | unsent sends there => exact calm_plain served ((Sending.next_quiet sends).trans (finish_quiet there _)) rfl rfl
  | ask called | answered called => exact calm_plain served (Call.next_quiet called) rfl rfl
  | @close _ closing later _ closed =>
    obtain ⟨quiet, waits⟩ := Closing.next_quiet served (proper.waits closing rfl) closed
    exact ⟨quiet, Task.proper_of_closing rfl (waits later rfl) rfl fun c' member =>
      List.mem_singleton.1 member ▸ quiet.serves c served⟩
  | @closed _ closing _ closed =>
    exact calm_plain served (Closing.next_quiet served (proper.waits closing rfl) closed).1 rfl rfl
  | @record _ _ errand _ delivered =>
    obtain ⟨source, other⟩ := proper.errands c errand false rfl
    exact calm_errand served (Quiet.deliver? other delivered) rfl rfl (Or.inr rfl)
  | @unrecorded _ _ errand _ _ delivered =>
    obtain ⟨source, other⟩ := proper.errands c errand false rfl
    have here' := (congrArg (·[c]?) (connections_deliver? delivered)).trans here
    exact calm_plain served ((Quiet.deliver? other delivered).trans (finish_quiet here' _)) rfl rfl
  | @report _ errand _ published =>
    obtain ⟨source, other⟩ := proper.errands c errand false rfl
    exact calm_plain served (Quiet.publish? other published) rfl rfl

theorem next_calm {phase : Handling} {out : Handling × System}
    (proper : (Task.handle c id phase).Proper s) (h : out ∈ phase.next s c t id) :
    Calm s c id out := by
  obtain ⟨connection, job, here, _, performs⟩ := performs_of_next h
  exact performs.calm proper here

end Handling

namespace Operating

variable {s : System} {c : ConnectionId} {t : TaskId}

def Calm (s : System) (c : ConnectionId) (out : Operating × System) : Prop :=
  s.Quiet out.2 ∧ (Task.operate c out.1).Proper out.2

theorem calm_plain {out : Operating × System} (served : s.serves c) (quiet : s.Quiet out.2)
    (closing : (Task.operate c out.1).closing? = none) : Calm s c out :=
  ⟨quiet, Task.proper_of_serves rfl closing rfl (quiet.serves c served)⟩

theorem proper_of_isNew {operation : Operating} (served : s.serves c) (new : operation.isNew) :
    (Task.operate c operation).Proper s := by
  cases operation with
  | closing phase =>
    have atFirst : phase = .halt := of_decide_eq_true new
    subst atFirst
    exact Task.proper_of_closing rfl rfl rfl fun c' member => List.mem_singleton.1 member ▸ served
  | calling shape call | notifying kind payload | sending message phase =>
    exact Task.proper_of_serves rfl rfl rfl served
  | finished result | aborted => cases new

theorem next_calm {phase : Operating} {out : Operating × System}
    (proper : (Task.operate c phase).Proper s) (h : out ∈ phase.next s c t) : Calm s c out := by
  have served : s.serves c := proper.relies c (List.mem_singleton_self c)
  cases phase with
  | calling shape call =>
    obtain ⟨⟨progress, s₁⟩, called, rfl⟩ := List.mem_map.1 h
    have quiet : s.Quiet s₁ := Call.next_quiet called
    cases progress <;> exact calm_plain served quiet rfl
  | notifying kind payload =>
    rw [List.mem_singleton.1 h]
    exact calm_plain served (Quiet.of_sameLives rfl ⟨rfl, rfl, rfl, rfl, rfl⟩) rfl
  | sending message phase =>
    obtain ⟨⟨progress, s₁⟩, sent, rfl⟩ := List.mem_map.1 h
    have quiet : s.Quiet s₁ := Sending.next_quiet sent
    cases progress <;> exact calm_plain served quiet rfl
  | closing phase =>
    obtain ⟨⟨progress, s₁⟩, closed, rfl⟩ := List.mem_map.1 h
    obtain ⟨quiet, waits⟩ := Closing.next_quiet served (proper.waits phase rfl) closed
    cases progress with
    | going phase =>
      exact ⟨quiet, Task.proper_of_closing rfl (waits phase rfl) rfl fun c' member =>
        List.mem_singleton.1 member ▸ quiet.serves c served⟩
    | ended result => exact calm_plain served quiet rfl
  | finished result | aborted => cases h

theorem abort_quiet (operation : Operating) : s.Quiet (operation.abort s c t) := by
  cases operation with
  | calling shape call =>
    simp only [Operating.abort, Call.abort]
    split
    · exact Call.giveUp_quiet _
    · exact Call.giveUp_quiet _
    · exact Quiet.refl s
  | sending message phase =>
    exact quiet_update_exchange (fun _ => rfl) (fun _ => rfl) fun _ _ h => h
  | notifying kind payload | closing phase | finished result | aborted => exact Quiet.refl s

end Operating

section Arrival

variable {s : System}

theorem Router.slots_bind (r : Router) (handlers : List (MessageKind × Handler)) :
    (handlers.foldl (fun r (kind, handler) => r.bind kind handler) r).slots = r.slots := by
  induction handlers generalizing r with
  | nil => rfl
  | cons handler handlers ih => exact ih _

theorem Connection.life_ofSocket? {addr : Endpoint} {settings : Settings} {socket : Socket}
    {connection : Connection} (h : Connection.ofSocket? addr settings socket = some connection) :
    connection.life = { addr, policy := settings.duplicateIdentity } ∧
      connection.router.Unanswered := by
  unfold Connection.ofSocket? at h
  obtain ⟨router, made, h⟩ := Option.bind_eq_some_iff.1 h
  obtain ⟨_, _, h⟩ := Option.bind_eq_some_iff.1 h
  cases h
  refine ⟨rfl, ?_⟩
  have noSlots : router.slots = [] := by
    unfold Router.ofLimits? at made
    split at made
    · cases made
      rfl
    · cases made
  intro slot response filled
  simp only [Router.slots_bind, noSlots] at filled
  cases filled

theorem takeOver?_arrives {addr : Endpoint} {settings : Settings} {socket : Socket} {belongs : Bool}
    {s' : System} (h : s.takeOver? addr settings socket belongs = some s') :
    s.Keeps s' ∧ Lifecycle.Move s.collaborators.mayFail s.lifecycle s'.lifecycle := by
  unfold System.takeOver? at h
  obtain ⟨made, fresh, h⟩ := Option.bind_eq_some_iff.1 h
  obtain ⟨life, unanswered⟩ := Connection.life_ofSocket? fresh
  -- The new connection and its call stay opaque: only their lives and services matter.
  generalize newEq : { made with belongs, halted := belongs && s.halted } = new at h
  generalize callEq : ({ kind := .agentInfo, payload := _, timeout := _ } : Call) = call at h
  have newLife : new.life = { addr, policy := settings.duplicateIdentity } := newEq ▸ life
  obtain ⟨s₁, added⟩ : ∃ s₁, s₁ = { s with connections := s.connections ++ [new] } := ⟨_, rfl⟩
  have tasks : s₁.tasks = s.tasks := by rw [added]
  have keeps : s.Keeps s₁ := added ▸ Keeps.addConnection (newEq ▸ unanswered)
  have result : (s₁.spawn (.accept s.connections.length (.handshake call))).spawn
      (.supervise s.connections.length .spawned) = s' := by
    rw [added]
    exact Option.some.inj h
  subst result
  constructor
  · have accepts : s.Keeps (s₁.spawn (.accept s.connections.length (.handshake call))) :=
      keeps.trans (Keeps.spawn (Task.proper_of_nobody rfl rfl rfl))
    exact accepts.trans (Keeps.spawn (Task.proper_of_nobody rfl rfl rfl))
  · have lifecycle : s₁.lifecycle = s.lifecycle.setLife s.connections.length
        { addr, policy := settings.duplicateIdentity } := by
      rw [added, lifecycle_addConnection, newLife]
    rw [lifecycle_spawn, lifecycle_spawn, lifecycle]
    have count : (s₁.spawn (.accept s.connections.length (.handshake call))).tasks.length =
        s.tasks.length + 1 := by
      simp [System.spawn, tasks]
    rw [count, tasks]
    apply Lifecycle.Move.arrive
    · simp [System.lifecycle]
    · simp [System.lifecycle]
    · simp [System.lifecycle]

theorem quiet_haltAll (s : System) : s.Quiet s.haltAll := by
  have life : s.haltAll.lifecycle = s.lifecycle := by
    ext1 <;> try rfl
    funext c
    simp only [System.lifecycle, System.haltAll, List.getElem?_map, Option.map_map]
    rfl
  have serves : ∀ c, s.haltAll.serves c = s.serves c := by
    intro c
    simp only [System.serves, System.haltAll]
    rw [List.getElem?_map, Option.any_map]
  have served : s.Serves s.haltAll := fun c h => (serves c).trans h
  refine ⟨⟨rfl, served, fun _ _ found => found, fun p => ?_⟩, life⟩
  refine ⟨fun t task found => (p.tasks t task found).mono served,
    fun identity c entry => served c (p.entries identity c entry), fun c x found unserved => ?_⟩
  simp only [System.haltAll, List.getElem?_map] at found
  obtain ⟨y, here, rfl⟩ := Option.map_eq_some_iff.1 found
  exact p.answers c y here unserved

end Arrival

namespace Listening

variable {s : System} {t : TaskId}

theorem goes_plain {phase phase' : Listening} {s' : System}
    (found : s.tasks[t]? = some (.listen phase)) (quiet : s.Quiet s')
    (closing : (Task.listen phase').closing? = none)
    (relies : ∀ c ∈ (Task.listen phase').relies, s.serves c) :
    Task.Goes s t (.listen phase) s' (.listen phase') :=
  Task.Goes.quiet found quiet
    (Task.proper_of_plain closing rfl fun c member => quiet.serves c (relies c member)) rfl

theorem goes_closing {phase : Listening} {s' : System} {agents : List ConnectionId}
    {closing : Closing} (found : s.tasks[t]? = some (.listen phase)) (quiet : s.Quiet s')
    (waits : closing.waits) (relies : ∀ c ∈ agents, s.serves c) :
    Task.Goes s t (.listen phase) s' (.listen (.closing agents closing)) :=
  Task.Goes.quiet found quiet
    (Task.proper_of_closing rfl waits rfl fun c member => quiet.serves c (relies c member)) rfl

theorem next_goes {phase : Listening} {out : Listening × System} (proper : s.Proper)
    (found : s.tasks[t]? = some (.listen phase)) (h : out ∈ phase.next s) :
    Task.Goes s t (.listen phase) out.2 (.listen out.1) := by
  have here := proper.tasks t _ found
  cases phase with
  | accepting =>
    rcases List.mem_append.1 h with stops | accepts
    · split at stops
      · rw [List.mem_singleton.1 stops]
        exact goes_plain found (Quiet.refl s) rfl fun c member => nomatch member
      · cases stops
    · split at accepts
      · cases accepts
      next addr settings socket arrivals _ =>
        rw [List.mem_singleton.1 accepts]
        have taken : s.Quiet { s with arrivals } :=
          Quiet.of_sameLives rfl ⟨rfl, rfl, rfl, rfl, rfl⟩
        dsimp only
        cases arrived : ({ s with arrivals } : System).takeOver? addr settings socket true with
        | none => exact goes_plain found taken rfl fun c member => nomatch member
        | some s' =>
          obtain ⟨keeps, move⟩ := takeOver?_arrives arrived
          have keeps' : s.Keeps s' := taken.toKeeps.trans keeps
          rw [taken.lifecycle] at move
          refine ⟨keeps', Task.proper_of_nobody rfl rfl rfl, Or.inr ?_⟩
          have same : s'.lifecycle.duty t = (Task.listen .accepting).duty :=
            duty_of_task (keeps'.tasks t _ found)
          rw [Option.getD_some, Lifecycle.setDuty_of_duty same]
          exact move
  | snapshot =>
    rw [List.mem_singleton.1 h]
    apply goes_plain found (Quiet.refl s) rfl
    intro c member
    obtain ⟨identity, entry⟩ := Directory.mem_agents.1 member
    exact proper.entries identity c entry
  | halt agents =>
    rw [List.mem_singleton.1 h]
    exact goes_closing found (quiet_haltAll s) rfl here.relies
  | closing agents closing =>
    cases agents with
    | nil =>
      rw [List.mem_singleton.1 h]
      exact goes_plain found (Quiet.refl s) rfl fun c member => nomatch member
    | cons agent agents =>
      obtain ⟨⟨progress, s₁⟩, closed, rfl⟩ := List.mem_map.1 h
      have served : s.serves agent := here.relies agent (List.mem_cons_self ..)
      obtain ⟨quiet, waits⟩ := Closing.next_quiet served (here.waits closing rfl) closed
      cases progress with
      | going closing => exact goes_closing found quiet (waits closing rfl) here.relies
      | ended result =>
        exact goes_closing found quiet rfl fun c member =>
          here.relies c (List.mem_cons_of_mem _ member)
  | finished => cases h

end Listening

end Fleetwire
