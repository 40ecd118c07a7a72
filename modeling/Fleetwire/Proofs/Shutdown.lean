import Fleetwire.Proofs.Jobs.Tasks
import Fleetwire.Proofs.Lifecycle.Departures
import Fleetwire.Proofs.Membership
import Fleetwire.Proofs.Traffic.Simulation
import Fleetwire.Proofs.Traffic.Sound

namespace Fleetwire

def Task.listening? : Task → Option Listening
  | listen phase => some phase
  | _ => none

theorem Task.listening?_eq_some {task : Task} {phase : Listening} :
    task.listening? = some phase ↔ task = .listen phase := by
  cases task <;> simp [listening?]

namespace System

def listening? (s : System) (t : TaskId) : Option Listening := (s.tasks[t]?).bind Task.listening?

def Gone (s : System) (c : ConnectionId) : Prop :=
  ∃ x, s.connections[c]? = some x ∧ x.stage = .closed

def Told (s : System) (c : ConnectionId) : Prop := ∃ x, s.connections[c]? = some x ∧ x.halted

variable {s s' : System} {past states : List System} {t u : TaskId} {c : ConnectionId} {phase : Listening}
  {agents : List ConnectionId}

theorem listening?_eq_some : s.listening? t = some phase ↔ s.tasks[t]? = some (.listen phase) := by
  unfold listening?
  rw [Option.bind_eq_some_iff]
  constructor
  · rintro ⟨task, found, same⟩
    rw [found, Task.listening?_eq_some.1 same]
  · intro found
    exact ⟨_, found, rfl⟩

def Recruits (s s' : System) : Prop :=
  ∃ others, s'.tasks = s.tasks ++ others ∧ ∀ task ∈ others, task.listening? = none

theorem Recruits.of_same (same : s'.tasks = s.tasks) : s.Recruits s' :=
  ⟨[], same.trans (List.append_nil _).symm, fun _ member => nomatch member⟩

theorem Recruits.listening (h : s.Recruits s') (t : TaskId) : s'.listening? t = s.listening? t := by
  obtain ⟨others, tasks, plain⟩ := h
  unfold listening?
  rw [tasks]
  by_cases inside : t < s.tasks.length
  · rw [List.getElem?_append_left inside]
  · have beyond : s.tasks.length ≤ t := Nat.le_of_not_lt inside
    rw [List.getElem?_append_right beyond, List.getElem?_eq_none beyond]
    cases new : others[t - s.tasks.length]? with
    | none => rfl
    | some task => exact plain task (List.mem_of_getElem? new)

theorem Recruits.tasks (h : s.Recruits s') {task : Task} (found : s.tasks[t]? = some task) :
    s'.tasks[t]? = some task := by
  obtain ⟨others, tasks, _⟩ := h
  rw [tasks, List.getElem?_append_left (List.getElem?_eq_some_iff.1 found).1]
  exact found

theorem recruits_takeOver {addr : Endpoint} {settings : Settings} {socket : Socket} {belongs : Bool}
    (h : s.takeOver? addr settings socket belongs = some s') : s.Recruits s' := by
  unfold takeOver? at h
  obtain ⟨made, _, h⟩ := Option.bind_eq_some_iff.1 h
  generalize callEq : ({ kind := .agentInfo, payload := _, timeout := _ } : Call) = call at h
  cases h
  refine ⟨[.accept s.connections.length (.handshake call), .supervise s.connections.length .spawned], ?_, ?_⟩
  · exact List.append_assoc ..
  · intro task member
    rcases List.mem_cons.1 member with rfl | member
    · rfl
    · cases List.mem_singleton.1 member
      rfl

theorem recruits_listen {out : Listening × System} (h : out ∈ phase.next s) : s.Recruits out.2 := by
  cases phase with
  | accepting =>
    rcases List.mem_append.1 h with stops | accepts
    · split at stops
      · cases List.mem_singleton.1 stops
        exact .of_same rfl
      · cases stops
    · split at accepts
      · cases accepts
      next addr settings socket arrivals _ =>
        rw [List.mem_singleton.1 accepts]
        dsimp only
        cases arrived : ({ s with arrivals } : System).takeOver? addr settings socket true with
        | none => exact .of_same rfl
        | some s' =>
          have came : Recruits { s with arrivals } s' := recruits_takeOver arrived
          exact came
  | snapshot | halt agents =>
    cases List.mem_singleton.1 h
    exact .of_same rfl
  | closing agents closing =>
    cases agents with
    | nil =>
      cases List.mem_singleton.1 h
      exact .of_same rfl
    | cons agent agents =>
      obtain ⟨⟨progress, s₁⟩, closed, rfl⟩ := List.mem_map.1 h
      have tasks : s₁.tasks = s.tasks := (Closing.next_idle closed).tasks
      cases progress <;> exact .of_same tasks
  | finished => cases h

theorem listening_other {s₁ : System} {task task' : Task} (recruits : s.Recruits s₁)
    (found : s.tasks[u]? = some task) (plain : task.listening? = none) (plain' : task'.listening? = none)
    (t : TaskId) : (s₁.setTask u task').listening? t = s.listening? t := by
  have found₁ := recruits.tasks found
  rw [← recruits.listening t]
  by_cases own : u = t
  · subst own
    have inside : u < s₁.tasks.length := (List.getElem?_eq_some_iff.1 found₁).1
    have before : s₁.listening? u = none := by simp [listening?, found₁, plain]
    rw [before]
    simp [listening?, setTask, inside, plain']
  · simp [listening?, setTask, List.getElem?_set_ne own]

def Listens (s : System) (t : TaskId) (s' : System) : Prop :=
  s'.listening? t = s.listening? t ∨ ∃ phase phase' s₁, s.listening? t = some phase ∧
    (phase', s₁) ∈ phase.next s ∧ s' = s₁.setTask t (.listen phase') ∧ s'.listening? t = some phase'

theorem next_listens (proper : s.Proper) (t : TaskId) (h : s' ∈ s.next u) : s.Listens t s' := by
  unfold next at h
  split at h
  · cases h
  next c phase found =>
    obtain ⟨⟨phase', s₁⟩, acted, rfl⟩ := List.mem_map.1 h
    have tasks : s₁.tasks = s.tasks := by
      rcases Accepting.next_stirs (proper.tasks u _ found) acted with idle | ⟨_, known⟩
      · exact idle.tasks
      · exact known.tasks
    exact .inl (listening_other (.of_same tasks) found rfl rfl t)
  next c phase found =>
    obtain ⟨⟨phase', s₁⟩, acted, rfl⟩ := List.mem_map.1 h
    have recruits : s.Recruits s₁ := by
      cases Supervising.next_stirs (proper.tasks u _ found) acted with
      | idle idle => exact .of_same idle.tasks
      | @enlist _ table _ _ here bound alters result =>
        refine ⟨[.handle c table.admitted .admitted], ?_, fun task member => ?_⟩
        · exact (congrArg System.tasks result).trans (congrArg (· ++ _) alters.tasks)
        · cases List.mem_singleton.1 member
          rfl
    exact .inl (listening_other recruits found rfl rfl t)
  next c job phase found =>
    obtain ⟨⟨phase', s₁⟩, acted, rfl⟩ := List.mem_map.1 h
    have tasks : s₁.tasks = s.tasks := by
      obtain ⟨_, _, _, _, stirs⟩ := Handling.next_stirs acted
      cases stirs with
      | go goes idle => exact idle.tasks
      | finish ends alters => exact alters.tasks
      | record told | report told => exact told.tasks
      | lose told excused alters => exact alters.tasks.trans told.tasks
    exact .inl (listening_other (.of_same tasks) found rfl rfl t)
  next c phase found =>
    obtain ⟨⟨phase', s₁⟩, acted, rfl⟩ := List.mem_map.1 h
    exact .inl (listening_other (.of_same (Operating.next_idle acted).tasks) found rfl rfl t)
  next phase found =>
    obtain ⟨⟨phase', s₁⟩, acted, rfl⟩ := List.mem_map.1 h
    have recruits : s.Recruits s₁ := recruits_listen acted
    by_cases own : u = t
    · subst own
      have inside : u < s₁.tasks.length := (List.getElem?_eq_some_iff.1 (recruits.tasks found)).1
      exact .inr ⟨phase, phase', s₁, listening?_eq_some.2 found, acted, rfl,
        listening?_eq_some.2 (List.getElem?_set_self inside)⟩
    · left
      rw [← recruits.listening t]
      simp [listening?, setTask, List.getElem?_set_ne own]

theorem react_listens {event : Event} (t : TaskId) (ordinary : s.Ordinary event) :
    (s.react event).listening? t = s.listening? t := by
  cases event with
  | abort u =>
    simp only [react, abort]
    split
    next found => exact listening_other (.of_same rfl) found rfl rfl t
    next operation _ found => exact listening_other (.of_same (Operating.abort_idle operation).tasks) found rfl rfl t
    · rfl
  | takeOver addr settings socket belongs =>
    simp only [react]
    cases taken : s.takeOver? addr settings socket belongs with
    | none => rfl
    | some s' => exact (recruits_takeOver taken).listening t
  | operate c operation =>
    have begun : s.Recruits (s.spawn (.operate c operation)) :=
      ⟨[.operate c operation], rfl, fun task member => List.mem_singleton.1 member ▸ rfl⟩
    exact begun.listening t
  | unregister => exact ordinary.elim
  | _ => rfl

theorem Step.listens (proper : s.Proper) (t : TaskId) (step : Step Ordinary s s') : s.Listens t s' := by
  cases step with
  | act u h => exact next_listens proper t h
  | react event ordinary => exact .inl (react_listens t ordinary)

theorem Run.gone (run : Run Ordinary (s' :: s :: past)) (h : s.Gone c) : s'.Gone c := by
  obtain ⟨x, here, closed⟩ := h
  obtain ⟨y, there, proceeding⟩ := proceeding_of_consecutive run ⟨[], past, rfl⟩ here
  refine ⟨y, there, ?_⟩
  have leads : x.stage.Leads y.stage := proceeding.leads
  rw [closed] at leads
  rcases leads with same | ⟨initial, _⟩ | ⟨alive, _⟩
  · exact same
  · cases initial
  · exact absurd rfl alive

theorem Run.told (run : Run Ordinary (s :: past)) (step : Step Ordinary s s') (h : s.Told c) : s'.Told c := by
  obtain ⟨x, here, halted⟩ := h
  have genuine : Run Genuine (s' :: s :: past) := (run.step step).mono fun _ _ => Ordinary.genuine
  cases genuine with
  | step before step =>
    have moves := step.moves (before.founded s (List.mem_cons_self ..))
    obtain ⟨e', there, later⟩ := (moves.traffic c).later (exchange_of_connection here)
    obtain ⟨y, found, rfl⟩ := Option.map_eq_some_iff.1 there
    exact ⟨y, found, later.halted halted⟩

end System

theorem Closing.next_gone {s s' : System} {c : ConnectionId} {x : Connection} {phase : Closing}
    (here : s.connections[c]? = some x) (h : (.ended (), s') ∈ phase.next s c) : s'.Gone c := by
  cases action_of_next h with
  | publish =>
    refine ⟨{ x with stage := .closed }, ?_, rfl⟩
    simp [System.update, here]
  | wait there closed => exact ⟨_, there, closed⟩

/-- The listener noted the agents that were in the directory of `noting`, and then told all connections of the
server to close. -/
structure Listening.Stopped (states : List System) (s : System) (t : TaskId) (noting : System) : Prop where
  noted : noting ∈ states
  notes : noting.listening? t = some .snapshot
  told : ∃ telling ∈ states, telling.listening? t = some (.halt noting.directory.agents) ∧
    ∀ c x, telling.connections[c]? = some x → x.belongs → s.Told c

/-- What has happened when a listener is in a phase. -/
inductive Listening.Reached (states : List System) (s : System) (t : TaskId) : Listening → Prop where
  | accepting : Reached states s t .accepting
  | snapshot : Reached states s t .snapshot
  | halt {noting : System} (noted : noting ∈ states) (notes : noting.listening? t = some .snapshot) :
    Reached states s t (.halt noting.directory.agents)
  | closing {noting : System} {gone agents : List ConnectionId} {phase : Closing}
    (stopped : Stopped states s t noting) (all : noting.directory.agents = gone ++ agents)
    (closed : ∀ c ∈ gone, s.Gone c) : Reached states s t (.closing agents phase)
  | finished {noting : System} (stopped : Stopped states s t noting)
    (closed : ∀ c ∈ noting.directory.agents, s.Gone c) : Reached states s t .finished

namespace Listening

variable {s s' : System} {states : List System} {t : TaskId} {phase phase' : Listening} {noting : System}

theorem Stopped.later (h : Stopped states s t noting) (told : ∀ c, s.Told c → s'.Told c) :
    Stopped (s' :: states) s' t noting := by
  obtain ⟨noted, notes, telling, member, tells, halted⟩ := h
  exact ⟨List.mem_cons_of_mem _ noted, notes, telling, List.mem_cons_of_mem _ member, tells,
    fun c x here belongs => told c (halted c x here belongs)⟩

theorem Reached.later (h : phase.Reached states s t) (gone : ∀ c, s.Gone c → s'.Gone c)
    (told : ∀ c, s.Told c → s'.Told c) : phase.Reached (s' :: states) s' t := by
  cases h with
  | accepting => exact .accepting
  | snapshot => exact .snapshot
  | halt noted notes => exact .halt (List.mem_cons_of_mem _ noted) notes
  | closing stopped all closed =>
    exact .closing (stopped.later told) all fun c member => gone c (closed c member)
  | finished stopped closed => exact .finished (stopped.later told) fun c member => gone c (closed c member)

theorem told_haltAll {c : ConnectionId} {x : Connection} (here : s.connections[c]? = some x)
    (belongs : x.belongs) (task : Task) : (s.haltAll.setTask t task).Told c := by
  refine ⟨{ x with halted := x.halted || x.belongs }, ?_, ?_⟩
  · simp [System.haltAll, System.setTask, here]
  · simp [belongs]

theorem Reached.next {past : List System} {s₁ : System} (h : phase.Reached (s :: past) s t)
    (here : s.listening? t = some phase) (relies : ∀ c ∈ (Task.listen phase).relies, s.serves c)
    (gone : ∀ c, s.Gone c → s'.Gone c) (told : ∀ c, s.Told c → s'.Told c)
    (acts : (phase', s₁) ∈ phase.next s) (result : s' = s₁.setTask t (.listen phase')) :
    phase'.Reached (s' :: s :: past) s' t := by
  cases h with
  | accepting =>
    rcases List.mem_append.1 acts with stops | accepts
    · split at stops
      · cases List.mem_singleton.1 stops
        exact .snapshot
      · cases stops
    · split at accepts
      · cases accepts
      · cases List.mem_singleton.1 accepts
        exact .accepting
  | snapshot =>
    cases List.mem_singleton.1 acts
    exact .halt (by simp) here
  | @halt noting noted notes =>
    cases List.mem_singleton.1 acts
    have stopped : Stopped (s' :: s :: past) s' t noting := by
      refine ⟨List.mem_cons_of_mem _ noted, notes, s, by simp, here, fun c x found belongs => ?_⟩
      rw [result]
      exact told_haltAll found belongs _
    exact .closing stopped (List.nil_append _).symm fun c member => nomatch member
  | @closing noting closed agents closing stopped all former =>
    have stopped' := stopped.later told
    have former' : ∀ c ∈ closed, s'.Gone c := fun c member => gone c (former c member)
    cases agents with
    | nil =>
      cases List.mem_singleton.1 acts
      refine .finished stopped' ?_
      rw [all, List.append_nil]
      exact former'
    | cons agent agents =>
      obtain ⟨⟨progress, s₂⟩, closes, same⟩ := List.mem_map.1 acts
      cases progress with
      | going closing =>
        cases same
        exact .closing stopped' all former'
      | ended result =>
        obtain ⟨x, here, _⟩ := System.serves_iff.1 (relies agent (List.mem_cons_self ..))
        have ended : s₂.Gone agent := Closing.next_gone here closes
        cases same
        have all' : noting.directory.agents = (closed ++ [agent]) ++ agents := by simp [all]
        refine .closing stopped' all' fun c member => ?_
        rcases List.mem_append.1 member with earlier | now
        · exact former' c earlier
        · rw [List.mem_singleton.1 now, result]
          exact ended
  | finished => cases acts

end Listening

namespace System

variable {s s' : System} {past states : List System} {t u : TaskId} {c : ConnectionId} {phase : Listening}

theorem Run.reached (run : Run Ordinary (s :: past)) (here : s.listening? t = some phase) :
    phase.Reached (s :: past) s t := by
  generalize all : s :: past = states at run
  induction run generalizing s past phase with
  | start initial =>
    cases all
    have only := initial.tasks _ (List.mem_of_getElem? (listening?_eq_some.1 here))
    cases only
    exact .accepting
  | @step former latter earlier run step ih =>
    cases all
    have proper := run.proper former (List.mem_cons_self ..)
    have gone : ∀ c, former.Gone c → latter.Gone c := fun c => (run.step step).gone
    have told : ∀ c, former.Told c → latter.Told c := fun c => run.told step
    -- Only its own action changes the phase, and what a phase says lasts.
    rcases step.listens proper t with same | ⟨phase, phase', s₁, before, acts, result, there⟩
    · rw [here] at same
      exact (ih same.symm rfl).later gone told
    · rw [here] at there
      cases there
      have relies := (proper.tasks t _ (listening?_eq_some.1 before)).relies
      exact (ih before rfl).next before relies gone told acts result

theorem Run.departed (run : Run Ordinary (s :: past)) {former : System} (member : former ∈ s :: past)
    (listed : c ∈ former.directory.agents) (gone : s.Gone c) :
    c ∉ s.directory.agents ∧ ∃ x identity, s.connections[c]? = some x ∧ x.stage = .closed ∧
      x.identity? = some identity ∧ ((c, .markOffline identity) ∈ s.reports ∨
        ∃ before after : System, [after, before] <:+: s :: past ∧ before.directory.get? identity = some c ∧
          ∃ other, other ≠ c ∧ after.directory.get? identity = some other) := by
  have inv := run.story.invariant _ (List.mem_cons_self ..)
  have inv' := run.story.invariant _ (List.mem_map_of_mem member)
  obtain ⟨x, here, closed⟩ := gone
  -- The connection was entered, so it is over only because its supervisor is.
  obtain ⟨t', p', duty', entered'⟩ := inv'.entered_of_lists (mem_agents.1 listed)
  obtain ⟨p, duty, entered⟩ := run.story.accepts (fun p => p.entered)
    (fun _ _ _ _ _ _ step entered => (step.entered entered).1) (List.mem_map_of_mem member) duty' entered'
  obtain ⟨u, q, stands⟩ := inv.staffed.stands_of_accept duty (life_of_connection here)
  have finished : q = .finished := by
    rcases (inv.sound stands).closable.ending closed with finished | barred
    · exact finished
    · rw [Entering.not_entered_of_barred barred] at entered
      cases entered
  subst finished
  have unlisted : ∀ identity, s.lifecycle.entry identity ≠ some c := by
    intro identity entry
    obtain ⟨_, _, _, _, q, stands', _, _, present⟩ := inv.entries entry
    obtain ⟨_, _, _, _, rfl⟩ := inv.staffed.stands_unique stands stands'
    cases present
  refine ⟨fun still => ?_, ?_⟩
  · obtain ⟨identity, entry⟩ := mem_agents.1 still
    exact unlisted identity entry
  · have introduced : p.introduced := by
      cases p <;> first | rfl | cases entered
    obtain ⟨announced, named⟩ := Option.ne_none_iff_exists'.1 ((inv.sound stands).introduced.known introduced)
    obtain ⟨identity, known⟩ : ∃ identity, x.identity? = some identity :=
      ⟨announced.identity, congrArg (Option.map Announcement.identity) named⟩
    refine ⟨x, identity, here, closed, known, ?_⟩
    cases run.story.fared stands known entered with
    | listed entry => exact absurd entry (unlisted identity)
    | displaced displaced =>
      obtain ⟨before, after, follows, entry, other⟩ := displaced
      obtain ⟨former, latter, consecutive, rfl, rfl⟩ := pair_infix_lifecycle (s :: past) follows
      exact .inr ⟨former, latter, consecutive, entry, other⟩
    | offline told =>
      have told : .markOffline identity ∈ s.lifecycle.toldBy c := by simpa [Leaving.telling?] using told
      obtain ⟨⟨source, report⟩, arrived, rfl⟩ := List.mem_map.1 told
      obtain ⟨arrived, own⟩ := List.mem_filter.1 arrived
      rw [← of_decide_eq_true own]
      exact .inl (List.mem_filter.1 arrived).1

/-- Once a listener is finished, every agent that it noted in the directory when it was told to stop is closed and
out of the directory, and was told to be offline unless another had taken its place. It noted them before it told
the connections to close, and all connections of the server have been told so. -/
theorem noted_agents_have_left (run : Run Ordinary (s :: past)) (finished : s.listening? t = some .finished) :
    ∃ noting, Listening.Stopped (s :: past) s t noting ∧ ∀ c ∈ noting.directory.agents,
      c ∉ s.directory.agents ∧ ∃ x identity, s.connections[c]? = some x ∧ x.stage = .closed ∧
        x.identity? = some identity ∧ ((c, .markOffline identity) ∈ s.reports ∨
          ∃ before after : System, [after, before] <:+: s :: past ∧
            before.directory.get? identity = some c ∧
            ∃ other, other ≠ c ∧ after.directory.get? identity = some other) := by
  cases run.reached finished with
  | finished stopped closed =>
    exact ⟨_, stopped, fun c member => run.departed stopped.noted member (closed c member)⟩

def slowDepartures : System where
  tasks := [.listen .accepting]
  collaborators := { delay := fun report => if report = .markOffline "host" then 1000 else 0 }

theorem initial_slowDepartures : Initial slowDepartures :=
  ⟨rfl, rfl, rfl, rfl, fun _ member => List.mem_singleton.1 member⟩

def arrival (c : ConnectionId) (addr : Endpoint) (identity : String) (steps : Nat) : List Choice :=
  let acceptor := 2 * c + 1
  let supervisor := 2 * c + 2
  .react (.arrive addr {} (.ofCapacity 1024 none none)) :: .act 0 0 :: .act supervisor 0 ::
    .replicate 4 (.act acceptor 0) ++
    .react (.peerWrites c (introduction c identity)) :: .replicate 4 (.act supervisor 0) ++
    .replicate steps (.act acceptor 0)

def shutdown : List Choice :=
  arrival 0 (.v4 10 0 0 1 4000) "host" 10 ++ .react .stop :: .replicate 3 (.act 0 0) ++
    .replicate 8 (.act 2 0) ++ .react (.elapse 1000) :: .replicate 6 (.act 2 0) ++ .replicate 4 (.act 0 0)

theorem noted_agents_have_left_after_teardown :
    let s := (replay slowDepartures [] shutdown).1
    let past := (replay slowDepartures [] shutdown).2
    Run Ordinary (s :: past) ∧ s.listening? 0 = some .finished ∧
    ∃ noting, Listening.Stopped (s :: past) s 0 noting ∧ ∀ c ∈ noting.directory.agents,
      c ∉ s.directory.agents ∧ ∃ x identity, s.connections[c]? = some x ∧ x.stage = .closed ∧
        x.identity? = some identity ∧ ((c, .markOffline identity) ∈ s.reports ∨
          ∃ before after : System, [after, before] <:+: s :: past ∧
            before.directory.get? identity = some c ∧
            ∃ other, other ≠ c ∧ after.directory.get? identity = some other) := by
  have run := run_replay (.start initial_slowDepartures) shutdown
  have finished : (replay slowDepartures [] shutdown).1.listening? 0 = some .finished := by decide +kernel
  exact ⟨run, finished, noted_agents_have_left run finished⟩

/-- An agent leaves. While the collaborator notes that, it comes again, and the listener is told to stop. -/
def lateReturn : List Choice :=
  arrival 0 (.v4 10 0 0 1 4000) "host" 10 ++ .react (.peerEnds 0) :: .replicate 8 (.act 2 0) ++
    arrival 1 (.v4 10 0 0 2 4000) "host" 4 ++ .react .stop :: .replicate 4 (.act 0 0)

def lateEntry : List Choice :=
  lateReturn ++ .react (.elapse 1000) :: .replicate 4 (.act 2 0) ++ .replicate 5 (.act 3 0)

/-- A listener may be finished before an agent that it accepted is marked offline, and before another one comes
into the directory and becomes active. -/
theorem agent_enters_after_shutdown :
    let s := (replay slowDepartures [] lateEntry).1
    let past := (replay slowDepartures [] lateEntry).2
    Run Ordinary (s :: past) ∧
    (∃ former ∈ past, former.directory.get? "host" = some 0) ∧
    (∃ former ∈ past, former.listening? 0 = some .finished ∧ (0, .markOffline "host") ∉ former.reports ∧
      former.directory.agents = []) ∧
    (s.connections[1]?).map Connection.stage = some .active ∧
    (s.connections[1]?).map Connection.belongs = some true ∧ s.directory.get? "host" = some 1 := by
  refine ⟨run_replay (.start initial_slowDepartures) lateEntry, ?_, ?_, ?_, ?_, ?_⟩ <;> decide +kernel

end System

end Fleetwire
