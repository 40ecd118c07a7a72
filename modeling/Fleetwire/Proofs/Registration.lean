import Fleetwire.Proofs.Membership

namespace Fleetwire

def Announcement.arrival (announced : Announcement) (addr : Endpoint) : List Report :=
  [.markOnline announced.identity addr, .publish (.connected announced.identity announced.version addr)]

theorem Life.course_take_arrival {x : Life} {announced : Announcement} {n : Nat}
    (known : x.announced = some announced) (few : n ≤ 2) :
    x.course.take n = (announced.arrival x.addr).take n := by
  have course : x.course = announced.arrival x.addr ++
      [.markOffline announced.identity, .publish (.disconnected announced.identity x.addr)] := by
    rw [Life.course, known]
    rfl
  rw [course]
  exact List.take_append_of_le_length few

/-- How many reports an acceptance has made that has put its connection in the directory, and has not made it
active. -/
def Accepting.reported? : Accepting → Option Nat
  | marking _ _ => some 0
  | announcing _ _ => some 1
  | activate _ => some 2
  | _ => none

theorem Accepting.reported?_of_stance {phase : Accepting} (entered : phase.stance.entered)
    (registering : phase.stance.registering) : phase.reported? = some phase.stance.count := by
  cases phase with
  | marking | announcing | activate => rfl
  | refuse error closing => cases closing <;> cases registering
  | finished result => cases result <;> cases registering
  | awaitIdentity | queueIdentity => cases entered
  | _ => cases registering

theorem Accepting.stance_of_reported? {phase : Accepting} {n : Nat} (reported : phase.reported? = some n) :
    phase.stance.holdsIdentity ∧ phase.stance.entered := by
  cases phase with
  | marking | announcing | activate => exact ⟨rfl, rfl⟩
  | _ => cases reported

theorem Entering.holdsIdentity_of_registering {p : Entering} (entered : p.entered)
    (registering : p.registering) : p.holdsIdentity := by
  cases p with
  | marking | announcing | activating => rfl
  | queueIdentity | awaitIdentity => cases entered
  | _ => cases registering

theorem Entering.not_registering_of_activated {p : Entering} (activated : p.activated) :
    p.registering = false := by
  cases p <;> first | rfl | cases activated

theorem Entering.count_le (p : Entering) : p.count ≤ 2 := by
  unfold count
  split <;> decide

theorem Leaving.Counts.of_present {p : Entering} {q : Leaving} {n : Nat} (h : q.Counts p n)
    (present : q.present) : n = p.count := by
  cases q with
  | serving | closing | awaitLifecycle | awaitIdentity => exact h
  | _ => cases present

namespace Lifecycle

/-- How a connection that has an entry stands with its registration. -/
structure Enters (l : Lifecycle) (identity : String) (c : ConnectionId) (x : Life) (t : TaskId) (p : Entering) :
    Prop where
  life : l.life c = some x
  accepts : l.duty t = .accept c p
  known : x.identity? = some identity
  entered : p.entered
  told : l.toldBy c = x.course.take p.count
  stage : p.activated ∧ x.stage = .active ∨
    p.registering ∧ x.stage = .initializing ∧ (l.line identity).isHeldBy t

variable {l : Lifecycle} {identity : String} {c : ConnectionId}

theorem Invariant.enters (inv : l.Invariant) (entry : l.entry identity = some c) :
    ∃ x t p, l.Enters identity c x t p := by
  obtain ⟨x, t, p, u, q, stands, known, entered, present⟩ := inv.entries entry
  have sound := inv.sound stands
  obtain ⟨n, counts, told⟩ := sound.reported.told
  have alive : x.stage ≠ .closed := by
    obtain ⟨_, y, life, _, alive⟩ := inv.entry_wellFormed entry
    rw [stands.life] at life
    cases life
    exact alive
  refine ⟨x, t, p, stands.life, stands.accepts, known, entered, ?_, ?_⟩
  · rw [told, counts.of_present present]
  · cases registering : p.registering with
    | true =>
      have held := inv.locked (.accept stands.accepts stands.life
        (Entering.holdsIdentity_of_registering entered registering) known)
      refine Or.inr ⟨rfl, ?_, held⟩
      cases stage : x.stage with
      | initializing => rfl
      | active =>
        rw [Entering.not_registering_of_activated (sound.closable.active stage)] at registering
        cases registering
      | closed => exact absurd stage alive
    | false =>
      have activated := Entering.activated_of_entered entered registering
      refine Or.inl ⟨activated, ?_⟩
      cases stage : x.stage with
      | initializing => exact absurd stage (sound.closable.begun activated)
      | active => rfl
      | closed => exact absurd stage alive

end Lifecycle

namespace System

def reportedBy (s : System) (c : ConnectionId) : List Report :=
  (s.reports.filter fun told => told.1 = c ∧ told.2.isTransition).map Prod.snd

/-- The agent is active, and has reported its arrival and nothing else. -/
inductive Registered (s : System) (identity : String) (c : ConnectionId) : Prop where
  | intro {x : Connection} {announced : Announcement} (here : s.connections[c]? = some x)
    (known : x.announced = some announced) (named : announced.identity = identity)
    (active : x.stage = .active) (reported : s.reportedBy c = announced.arrival x.addr)

/-- The acceptance of the agent has the lock of the identity. So many reports of the arrival were made, and the
agent is not active yet. -/
inductive Registering (s : System) (identity : String) (c : ConnectionId) : Prop where
  | intro {x : Connection} {announced : Announcement} {t : TaskId} {phase : Accepting} {n : Nat}
    (here : s.connections[c]? = some x) (known : x.announced = some announced)
    (named : announced.identity = identity) (initializing : x.stage = .initializing)
    (accepts : s.tasks[t]? = some (.accept c phase)) (progress : phase.reported? = some n)
    (locked : (s.directory.transition identity).isHeldBy t)
    (reported : s.reportedBy c = (announced.arrival x.addr).take n)

def Completed (s : System) (c : ConnectionId) : Prop :=
  (∃ x, s.connections[c]? = some x ∧ x.stage = .active) ∨
    ∃ (t : TaskId) (announced : Announcement), s.tasks[t]? = some (.accept c (.finished (.ok announced)))

variable {s : System} {past : List System} {identity : String} {c : ConnectionId} {t : TaskId}

theorem toldBy_lifecycle (s : System) (c : ConnectionId) : s.lifecycle.toldBy c = s.reportedBy c := by
  unfold Lifecycle.toldBy reportedBy
  simp only [lifecycle, List.filter_filter, Bool.decide_and, Bool.decide_eq_true]

theorem task_of_accepts {p : Entering} (duty : s.lifecycle.duty t = .accept c p) :
    ∃ phase, s.tasks[t]? = some (.accept c phase) ∧ phase.stance = p := by
  cases found : s.tasks[t]? with
  | none => simp [lifecycle, found] at duty
  | some task =>
    rw [duty_of_task found] at duty
    cases task with
    | accept c₀ phase =>
      cases duty
      exact ⟨phase, rfl, rfl⟩
    | _ => cases duty

theorem registered_or_registering {x : Life} {p : Entering} (h : s.lifecycle.Enters identity c x t p) :
    p.activated ∧ s.Registered identity c ∨ p.registering ∧ s.Registering identity c := by
  obtain ⟨life, accepts, known, entered, told, stage⟩ := h
  obtain ⟨y, here, rfl⟩ := Option.map_eq_some_iff.1 life
  obtain ⟨announced, known, named⟩ := Option.map_eq_some_iff.1 known
  have arrival := Life.course_take_arrival known p.count_le
  rw [toldBy_lifecycle, arrival] at told
  rcases stage with ⟨activated, active⟩ | ⟨registering, initializing, locked⟩
  · rw [Entering.count_of_activated activated] at told
    exact Or.inl ⟨activated, here, known, named, active, told⟩
  · obtain ⟨phase, acceptance, rfl⟩ := task_of_accepts accepts
    have progress := Accepting.reported?_of_stance entered registering
    exact Or.inr ⟨registering, here, known, named, initializing, acceptance, progress, locked, told⟩

theorem activated_of_completed (run : Run Ordinary (s :: past)) {former : System}
    (member : former ∈ s :: past) (completed : former.Completed c) :
    ∃ t p, former.lifecycle.duty t = .accept c p ∧ p.activated := by
  rcases completed with ⟨x, here, active⟩ | ⟨t, announced, accepted⟩
  · have inv := run.story.invariant _ (List.mem_map_of_mem member)
    obtain ⟨t, p, u, q, stands⟩ := inv.staffed.stands (life_of_connection here)
    exact ⟨t, p, stands.accepts, (inv.sound stands).closable.active active⟩
  · exact ⟨t, _, duty_of_task accepted, rfl⟩

theorem registered_of_completed (run : Run Ordinary (s :: past)) {former : System}
    (member : former ∈ s :: past) (completed : former.Completed c)
    (entry : s.directory.get? identity = some c) : s.Registered identity c := by
  have inv := run.story.invariant _ (List.mem_cons_self ..)
  obtain ⟨t, p, duty, activated⟩ := activated_of_completed run member completed
  obtain ⟨p', duty', activated'⟩ := run.story.accepts (fun p => p.activated)
    (fun _ _ _ _ _ _ step activated => (step.activated activated).1) (List.mem_map_of_mem member) duty activated
  obtain ⟨x, u, q, enters⟩ := inv.enters entry
  rcases registered_or_registering enters with ⟨_, registered⟩ | ⟨registering, _⟩
  · exact registered
  · have same := inv.staffed.acceptor_unique duty' enters.accepts
    subst same
    have phase := enters.accepts
    rw [duty'] at phase
    cases phase
    rw [Entering.not_registering_of_activated activated'] at registering
    cases registering

theorem registered_or_registering_of_entry (run : Run Ordinary (s :: past)) {former : System}
    (member : former ∈ s :: past) (entry : former.directory.get? identity = some c) :
    former.Registered identity c ∨ former.Registering identity c := by
  have inv := run.story.invariant _ (List.mem_map_of_mem member)
  obtain ⟨x, t, p, enters⟩ := inv.enters entry
  exact (registered_or_registering enters).imp And.right And.right

theorem Registered.of_free (stands : s.Registered identity c ∨ s.Registering identity c)
    (free : (s.directory.transition identity).isFree) : s.Registered identity c := by
  rcases stands with registered | ⟨_, _, _, _, _, _, locked, _⟩
  · exact registered
  · rw [Line.isHeldBy_iff, List.isEmpty_iff.1 free] at locked
    cases locked

theorem entry_of_registering (run : Run Ordinary (s :: past)) {before after : System}
    (follows : [after, before] <:+: s :: past) (registering : before.Registering identity c) :
    after.directory.get? identity = some c := by
  obtain ⟨here, known, rfl, _, accepts, progress, _, _⟩ := registering
  obtain ⟨inv, moves⟩ := run.consecutive follows
  obtain ⟨holds, entered⟩ := Accepting.stance_of_reported? progress
  have duty := duty_of_task accepts
  have life := life_of_connection here
  have identified := congrArg (Option.map Announcement.identity) known
  obtain ⟨u, q, stands⟩ := inv.staffed.stands_of_accept duty life
  have entry := inv.entered stands holds entered identified
  rcases moves with same | move
  · exact (congrFun (congrArg Lifecycle.entry same) _).trans entry
  · have kept := inv.entry_of_holds move (Lifecycle.Holds.accept duty life holds identified)
    exact kept.trans entry

/-- Whoever a look at the directory finds is registered, or its acceptance has the lock of its identity and is about
to finish the registration, in which case it keeps its place. If the lock is free, or if the agent was active or its
acceptance had succeeded before, then it is registered. -/
theorem found_registered_or_registering (run : Run Ordinary (s :: past)) :
    (∀ identity c, s.directory.get? identity = some c →
      (s.Registered identity c ∨ s.Registering identity c) ∧
      ((s.directory.transition identity).isFree → s.Registered identity c) ∧
      ∀ former ∈ s :: past, former.Completed c → s.Registered identity c) ∧
    (∀ c, c ∈ s.directory.agents ↔ ∃ identity, s.directory.get? identity = some c) ∧
    (∀ identity, identity ∈ s.directory.identities ↔ ∃ c, s.directory.get? identity = some c) ∧
    (∀ before after : System, [after, before] <:+: s :: past → ∀ identity c, before.Registering identity c →
      after.directory.get? identity = some c ∧ (after.Registered identity c ∨ after.Registering identity c)) := by
  refine ⟨fun identity c entry => ?_, fun c => mem_agents, fun identity => Directory.mem_identities,
    fun before after follows identity c registering => ?_⟩
  · have stands := registered_or_registering_of_entry run (List.mem_cons_self ..) entry
    exact ⟨stands, Registered.of_free stands, fun former member completed =>
      registered_of_completed run member completed entry⟩
  · have entry := entry_of_registering run follows registering
    have member : after ∈ s :: past := follows.subset (List.mem_cons_self ..)
    exact ⟨entry, registered_or_registering_of_entry run member entry⟩

theorem not_registered (initializing : (s.connections[c]?).map Connection.stage = some .initializing) :
    ¬ s.Registered identity c := by
  rintro ⟨here, _, _, active, _⟩
  rw [here, Option.map_some, active] at initializing
  cases initializing

def unnoted : List Choice :=
  (admission 0 (.v4 10 0 0 1 4000) .evict "host").take 16 ++ [.react (.elapse 999)]

theorem found_registered_or_registering_of_arrivals :
    ((replay {} [] handover).1.directory.get? "host" = some 1 ∧
      (replay {} [] handover).1.Registered "host" 1) ∧
    ((replay slowArrivals [] unnoted).1.directory.get? "host" = some 0 ∧
      (replay slowArrivals [] unnoted).1.Registering "host" 0) := by
  have displaced : (replay {} [] handover).1.directory.get? "host" = some 1 := by decide +kernel
  have free : ((replay {} [] handover).1.directory.transition "host").isFree := by decide +kernel
  have entry : (replay slowArrivals [] unnoted).1.directory.get? "host" = some 0 := by decide +kernel
  have initializing : ((replay slowArrivals [] unnoted).1.connections[0]?).map Connection.stage =
      some .initializing := by decide +kernel
  have handedOver := found_registered_or_registering (run_replay_empty handover)
  have underWay := found_registered_or_registering (run_replay (.start initial_slowArrivals) unnoted)
  refine ⟨⟨displaced, (handedOver.1 "host" 1 displaced).2.1 free⟩, entry, ?_⟩
  rcases (underWay.1 "host" 0 entry).1 with registered | registering
  · exact absurd registered (not_registered initializing)
  · exact registering

/-- Every look at the directory finds an agent that is not active, and whose arrival nobody has noted. -/
theorem found_before_registered :
    let s := (replay slowArrivals [] unnoted).1
    let past := (replay slowArrivals [] unnoted).2
    Run Ordinary (s :: past) ∧ s.directory.get? "host" = some 0 ∧ s.directory.agents = [0] ∧
    s.directory.identities = ["host"] ∧ s.reports = [] ∧
    (s.connections[0]?).map Connection.stage = some .initializing ∧ ¬ s.Registered "host" 0 := by
  have initializing : ((replay slowArrivals [] unnoted).1.connections[0]?).map Connection.stage =
      some .initializing := by decide +kernel
  refine ⟨run_replay (.start initial_slowArrivals) unnoted, ?_, ?_, ?_, ?_, initializing,
    not_registered initializing⟩ <;> decide +kernel

end System

end Fleetwire
