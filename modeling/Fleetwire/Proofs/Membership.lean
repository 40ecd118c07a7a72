import Fleetwire.Proofs.Lifecycle.History
import Fleetwire.Proofs.Replay

namespace Fleetwire

def Stage.Leads (before after : Stage) : Prop :=
  after = before ∨ before = .initializing ∧ after = .active ∨ before ≠ .closed ∧ after = .closed

theorem Stage.leads_closed (stage : Stage) : stage.Leads .closed := by
  cases stage with
  | closed => exact Or.inl rfl
  | initializing | active => exact Or.inr (Or.inr ⟨nofun, rfl⟩)

section Life

variable {x x' : Life} {t u : TaskId} {p p' : Entering} {q q' : Leaving} {deed : Deed}

structure Proceeding (x x' : Life) : Prop where
  leads : x.stage.Leads x'.stage
  keeps : x.announced ≠ none → x'.announced = x.announced

theorem Sound.proceeding_accept {told : List Report} (h : Sound x t p u q told)
    (step : p.Step t x deed x' p') : Proceeding x x' := by
  cases step with
  | introduce announced named =>
    have unknown := h.introduced.unknown rfl
    exact ⟨Or.inl rfl, fun known => absurd unknown known⟩
  | activate =>
    refine ⟨Or.inr (Or.inl ⟨?_, rfl⟩), fun _ => rfl⟩
    have registering : q.pastLifecycle → False := fun past => nomatch h.closable.apart past
    cases stage : x.stage with
    | initializing => rfl
    | active => cases h.closable.active stage
    | closed =>
      rcases h.closable.ending stage with finished | barred
      · exact absurd (by rw [finished]; rfl) registering
      · cases barred
  | closeInPlace => exact ⟨x.stage.leads_closed, fun _ => rfl⟩
  | _ => exact ⟨Or.inl rfl, fun _ => rfl⟩

theorem Leaving.Step.proceeding (step : q.Step u x deed x' q') : Proceeding x x' := by
  cases step with
  | expire => exact ⟨x.stage.leads_closed, fun _ => rfl⟩
  | _ => exact ⟨Or.inl rfl, fun _ => rfl⟩

theorem Entering.Step.barred (step : p.Step t x deed x' p') (barred : p.barred) : p'.barred := by
  cases step with
  | seize | closeInPlace => rfl
  | _ => cases barred

theorem Entering.Step.not_admitted (step : p.Step t x deed x' p') : p ≠ .admitted := by
  cases step <;> exact nofun

end Life

namespace Lifecycle

variable {fails : Report → Prop} {l l' : Lifecycle} {past : List Lifecycle} {c : ConnectionId}
  {x x' : Life} {t u : TaskId} {p p' : Entering} {q q' : Leaving} {identity : String}

theorem Invariant.proceeding (inv : l.Invariant) (move : l.Move fails l') (life' : l'.life c = some x') :
    (l.life c = none ∧ x'.stage = .initializing ∧ x'.announced = none) ∨
      ∃ x, l.life c = some x ∧ Proceeding x x' := by
  obtain ⟨t, p', u, q', stands⟩ := (inv.staffed.move move).stands life'
  cases inv.staffed.turn move stands with
  | new unknown fresh =>
    rw [fresh]
    exact Or.inl ⟨unknown, rfl, rfl⟩
  | other before => exact Or.inr ⟨x', before.life, Or.inl rfl, fun _ => rfl⟩
  | accept before step => exact Or.inr ⟨_, before.life, (inv.sound before).proceeding_accept step⟩
  | supervise before step => exact Or.inr ⟨_, before.life, step.proceeding⟩

def Lists (l : Lifecycle) (c : ConnectionId) : Prop := ∃ identity, l.entry identity = some c

def Entered (l : Lifecycle) (c : ConnectionId) : Prop := ∃ t p, l.duty t = .accept c p ∧ p.entered

theorem Invariant.entered_of_lists (inv : l.Invariant) (h : l.Lists c) : l.Entered c := by
  obtain ⟨identity, entry⟩ := h
  obtain ⟨x, t, p, u, q, stands, known, entered, present⟩ := inv.entries entry
  exact ⟨t, p, stands.accepts, entered⟩

theorem Invariant.not_entered (inv : l.Invariant) (duty : l.duty t = .accept c p)
    (early : p.entered = false) : ¬ l.Entered c := by
  rintro ⟨t', p', duty', entered⟩
  have same := inv.staffed.acceptor_unique duty duty'
  rw [same, duty'] at duty
  cases duty
  rw [early] at entered
  cases entered

theorem Invariant.entry_wellFormed (inv : l.Invariant) (entry : l.entry identity = some c) :
    identity ≠ "" ∧ ∃ x, l.life c = some x ∧ x.identity? = some identity ∧ x.stage ≠ .closed := by
  obtain ⟨x, t, p, u, q, stands, known, entered, present⟩ := inv.entries entry
  have sound := inv.sound stands
  refine ⟨sound.introduced.named identity known, x, stands.life, known, fun closed => ?_⟩
  rcases sound.closable.ending closed with finished | barred
  · rw [finished] at present
    cases present
  · rw [Entering.not_entered_of_barred barred] at entered
    cases entered

theorem Move.entry_none (move : l.Move fails l') (entry : l.entry identity = some c)
    (gone : l'.entry identity = none) : ∃ u, l.duty u = .supervise c (.awaitIdentity identity) := by
  cases move with
  | arrive =>
    rw [show l.entry identity = none from gone] at entry
    cases entry
  | accept duty life step does =>
    cases does with
    | @enter other =>
      by_cases same : identity = other
      · simp [setDuty, setLife, setEntry, same] at gone
      · simp [setDuty, setLife, setEntry, same, entry] at gone
    | remove held holder => cases step
    | _ =>
      rw [show l.entry identity = none from gone] at entry
      cases entry
  | supervise duty life step does =>
    cases does with
    | enter held free => cases step
    | @remove other held holder =>
      by_cases same : identity = other
      · subst same
        rw [entry] at holder
        cases holder
        cases step
        exact ⟨_, duty⟩
      · simp [setDuty, setLife, setEntry, same, entry] at gone
    | _ =>
      rw [show l.entry identity = none from gone] at entry
      cases entry

/-- A connection that is not being closed loses its entry only to another that is new in the directory. -/
theorem Invariant.displaced (inv : l.Invariant) (move : l.Move fails l')
    (entry : l.entry identity = some c) (lost : l'.entry identity ≠ some c)
    (life : l.life c = some x) (isOpen : x.closed = false) :
    ∃ c', c' ≠ c ∧ l'.entry identity = some c' ∧ ¬ l.Lists c' := by
  cases entry' : l'.entry identity with
  | none =>
    obtain ⟨u, duty⟩ := move.entry_none entry entry'
    obtain ⟨t, p, stands⟩ := inv.staffed.stands_of_supervise duty life
    have closed := (inv.sound stands).closable.closed nofun
    rw [isOpen] at closed
    cases closed
  | some c' =>
    have different : c' ≠ c := fun same => lost (by rw [entry', same])
    refine ⟨c', different, rfl, fun listed => ?_⟩
    rcases move.entry_some entry' with former | ⟨t, y, duty, living, _⟩
    · rw [entry] at former
      exact different (Option.some.inj former).symm
    · exact absurd (inv.entered_of_lists listed) (inv.not_entered duty rfl)

theorem Move.accepts (move : l.Move fails l') (duty : l.duty t = .accept c p) :
    ∃ p', l'.duty t = .accept c p' ∧ (p' = p ∨ ∃ x deed x', p.Step t x deed x' p') := by
  cases move with
  | @arrive c₀ t₀ addr policy new idle idle' =>
    have first : t ≠ t₀ := fun same => by simp [← same, duty] at idle
    have second : t ≠ t₀ + 1 := fun same => by simp [← same, duty] at idle'
    exact ⟨p, by simp [setDuty, setLife, first, second, duty], Or.inl rfl⟩
  | @accept t₀ c₀ x₀ x₁ p₀ p₁ deed l₁ duty₀ life₀ step does =>
    by_cases same : t = t₀
    · subst same
      rw [duty] at duty₀
      cases duty₀
      exact ⟨p₁, by simp [setDuty], Or.inr ⟨x₀, deed, x₁, step⟩⟩
    · exact ⟨p, by simp [setDuty, setLife, same, does.duty, duty], Or.inl rfl⟩
  | @supervise t₀ c₀ x₀ x₁ q₀ q₁ deed l₁ duty₀ life₀ step does =>
    have other : t ≠ t₀ := fun same => by simp [← same, duty] at duty₀
    exact ⟨p, by simp [setDuty, setLife, other, does.duty, duty], Or.inl rfl⟩

theorem Story.accepts (keeps : Entering → Prop) (story : Story fails (l :: past))
    (stays : ∀ t x p deed x' p', Entering.Step t x p deed x' p' → keeps p → keeps p')
    {former : Lifecycle} (member : former ∈ l :: past) (duty : former.duty t = .accept c p)
    (holds : keeps p) : ∃ p', l.duty t = .accept c p' ∧ keeps p' := by
  generalize all : l :: past = states at story
  induction story generalizing l past with
  | start =>
    cases all
    rw [List.mem_singleton.1 member] at duty
    cases duty
  | stay _ ih =>
    cases all
    rcases List.mem_cons.1 member with rfl | member
    · exact ⟨p, duty, holds⟩
    · exact ih member rfl
  | move _ move ih =>
    cases all
    rcases List.mem_cons.1 member with rfl | member
    · exact ⟨p, duty, holds⟩
    · obtain ⟨p₁, duty₁, holds₁⟩ := ih member rfl
      obtain ⟨p₂, duty₂, same | ⟨x, deed, x', step⟩⟩ := move.accepts duty₁
      · exact ⟨p₂, duty₂, same ▸ holds₁⟩
      · exact ⟨p₂, duty₂, stays t x p₁ deed x' p₂ step holds₁⟩

theorem Invariant.lists_iff_entered (inv : l.Invariant) (move : l.Move fails l') :
    (l'.Lists c ∧ ¬ l.Lists c) ↔ (l'.Entered c ∧ ¬ l.Entered c) := by
  constructor
  · rintro ⟨⟨identity, entry⟩, new⟩
    rcases move.entry_some entry with former | ⟨t, x, duty, _, _, _, duty'⟩
    · exact absurd ⟨identity, former⟩ new
    · exact ⟨⟨t, _, duty', rfl⟩, inv.not_entered duty rfl⟩
  · rintro ⟨⟨t, p', duty', entered⟩, former⟩
    refine ⟨?_, fun listed => former (inv.entered_of_lists listed)⟩
    cases move with
    | arrive c₀ t₀ addr policy new idle idle' =>
      simp only [setDuty, setLife] at duty'
      split at duty'
      · cases duty'
      · split at duty'
        · cases duty'
          cases entered
        · exact absurd ⟨t, p', duty', entered⟩ former
    | @accept t₀ c₀ x₀ x₁ p₀ p₁ deed l₁ duty₀ life₀ step does =>
      simp only [setDuty, setLife, does.duty] at duty'
      split at duty'
      next same =>
        cases duty'
        have early : ¬ p₀.entered := fun entered => former ⟨t₀, p₀, duty₀, entered⟩
        cases step with
        | @enter identity known =>
          cases does
          exact ⟨identity, by simp [setDuty, setLife, setEntry]⟩
        | @releaseIdentity identity done | @conclude done => cases done <;> simp_all [Entering.entered]
        | _ => simp_all [Entering.entered]
      next => exact absurd ⟨t, p', duty', entered⟩ former
    | supervise duty₀ life₀ step does =>
      simp only [setDuty, setLife, does.duty] at duty'
      split at duty'
      · cases duty'
      · exact absurd ⟨t, p', duty', entered⟩ former

theorem Move.entered (move : l.Move fails l') (h : l.Entered c) : l'.Entered c := by
  obtain ⟨t, p, duty, entered⟩ := h
  obtain ⟨p', duty', same | ⟨x, deed, x', step⟩⟩ := move.accepts duty
  · exact ⟨t, p', duty', same ▸ entered⟩
  · exact ⟨t, p', duty', (step.entered entered).1⟩

end Lifecycle

namespace System

variable {s : System} {past : List System} {c : ConnectionId}

def entrances (c : ConnectionId) : List System → Nat
  | s' :: s :: past =>
    entrances c (s :: past) + if c ∈ s'.directory.agents ∧ c ∉ s.directory.agents then 1 else 0
  | _ => 0

theorem mem_agents : c ∈ s.directory.agents ↔ s.lifecycle.Lists c := Directory.mem_agents

theorem Run.entrances (run : Run Ordinary (s :: past)) :
    s.lifecycle.Entered c ∧ entrances c (s :: past) = 1 ∨
      ¬ s.lifecycle.Entered c ∧ entrances c (s :: past) = 0 := by
  generalize all : s :: past = states at run
  induction run generalizing s past with
  | start initial =>
    cases all
    rw [initial.lifecycle]
    refine Or.inr ⟨?_, rfl⟩
    rintro ⟨t, p, duty, _⟩
    cases duty
  | @step s₀ s₁ past₀ run step ih =>
    cases all
    have inv := run.story.invariant _ (List.mem_cons_self ..)
    have proceeds := step.proceeds (run.proper _ (List.mem_cons_self ..))
    have grows : s₀.lifecycle.Entered c → s₁.lifecycle.Entered c := by
      rcases proceeds.moves with same | move
      · exact fun entered => same ▸ entered
      · exact move.entered
    -- A connection comes in exactly when its acceptance enters it, and it is entered from then on.
    have new : (c ∈ s₁.directory.agents ∧ c ∉ s₀.directory.agents) ↔
        (s₁.lifecycle.Entered c ∧ ¬ s₀.lifecycle.Entered c) := by
      rw [mem_agents, mem_agents]
      rcases proceeds.moves with same | move
      · rw [same]
        exact ⟨fun h => absurd h.1 h.2, fun h => absurd h.1 h.2⟩
      · exact inv.lists_iff_entered move
    rw [System.entrances]
    rcases ih rfl with ⟨entered, once⟩ | ⟨early, never⟩
    · rw [if_neg (fun added => (new.1 added).2 entered)]
      exact Or.inl ⟨grows entered, once⟩
    · by_cases entered : s₁.lifecycle.Entered c
      · rw [if_pos (new.2 ⟨entered, early⟩), never]
        exact Or.inl ⟨entered, rfl⟩
      · rw [if_neg (fun added => entered (new.1 added).1), never]
        exact Or.inr ⟨entered, rfl⟩

theorem Run.consecutive (run : Run Ordinary (s :: past)) {before after : System}
    (follows : [after, before] <:+: s :: past) :
    before.lifecycle.Invariant ∧ (after.lifecycle = before.lifecycle ∨
      before.lifecycle.Move s.collaborators.mayFail after.lifecycle) := by
  have member : before ∈ s :: past := follows.subset (by simp)
  exact ⟨run.story.invariant _ (List.mem_map_of_mem member),
    run.story.move_of_infix (follows.map System.lifecycle)⟩

theorem proceeding_of_consecutive (run : Run Ordinary (s :: past)) {before after : System}
    (follows : [after, before] <:+: s :: past) {x : Connection}
    (here : before.connections[c]? = some x) :
    ∃ y, after.connections[c]? = some y ∧ Proceeding x.life y.life := by
  obtain ⟨inv, same | move⟩ := run.consecutive follows
  · have life : after.lifecycle.life c = some x.life := by rw [same, life_of_connection here]
    obtain ⟨y, there, unchanged⟩ := Option.map_eq_some_iff.1 life
    exact ⟨y, there, by rw [unchanged]; exact ⟨Or.inl rfl, fun _ => rfl⟩⟩
  · obtain ⟨life, life', _⟩ := move.life (life_of_connection here)
    obtain ⟨y, there, rfl⟩ := Option.map_eq_some_iff.1 life'
    rcases inv.proceeding move life' with ⟨unknown, _⟩ | ⟨former, known, proceeding⟩
    · rw [life_of_connection here] at unknown
      cases unknown
    · rw [life_of_connection here] at known
      cases known
      exact ⟨y, there, proceeding⟩

theorem new_of_consecutive (run : Run Ordinary (s :: past)) {before after : System}
    (follows : [after, before] <:+: s :: past) {y : Connection}
    (unknown : before.connections[c]? = none) (there : after.connections[c]? = some y) :
    y.stage = .initializing ∧ y.announced = none := by
  have none : before.lifecycle.life c = none := by simp [lifecycle, unknown]
  obtain ⟨inv, same | move⟩ := run.consecutive follows
  · have life := life_of_connection there
    rw [same, none] at life
    cases life
  · rcases inv.proceeding move (life_of_connection there) with ⟨_, new⟩ | ⟨former, known, _⟩
    · exact new
    · rw [none] at known
      cases known

theorem displaced_of_consecutive (run : Run Ordinary (s :: past)) {before after : System}
    (follows : [after, before] <:+: s :: past) {identity : String} {x : Connection}
    (entry : before.directory.get? identity = some c) (here : before.connections[c]? = some x)
    (isOpen : x.closed = false) (lost : after.directory.get? identity ≠ some c) :
    ∃ c', c' ≠ c ∧ after.directory.get? identity = some c' ∧ c' ∉ before.directory.agents := by
  obtain ⟨inv, same | move⟩ := run.consecutive follows
  · have kept : after.lifecycle.entry identity = some c := by rw [same]; exact entry
    exact absurd kept lost
  · obtain ⟨c', different, entry', new⟩ :=
      inv.displaced move entry lost (life_of_connection here) isOpen
    exact ⟨c', different, entry', fun member => new (mem_agents.1 member)⟩

theorem no_trace_of_failed (run : Run Ordinary (s :: past)) {former : System}
    (member : former ∈ s :: past) {t : TaskId} {error : LinkError}
    (failed : former.tasks[t]? = some (.accept c (.finished (.error error)))) :
    (∀ s' ∈ s :: past, c ∉ s'.directory.agents) ∧ s.tellingsBy c = [] := by
  have inv := run.story.invariant _ (List.mem_cons_self ..)
  obtain ⟨p, duty, barred⟩ := run.story.accepts (fun p => p.barred)
    (fun _ _ _ _ _ _ step => step.barred) (List.mem_map_of_mem member) (duty_of_task failed) rfl
  constructor
  · intro s' member' listed
    have inv' := run.story.invariant _ (List.mem_map_of_mem member')
    obtain ⟨t', p', duty', entered⟩ := inv'.entered_of_lists (mem_agents.1 listed)
    obtain ⟨p'', duty'', entered'⟩ := run.story.accepts (fun p => p.entered)
      (fun _ _ _ _ _ _ step entered => (step.entered entered).1) (List.mem_map_of_mem member') duty'
      entered
    exact inv.not_entered duty (Entering.not_entered_of_barred barred) ⟨t', p'', duty'', entered'⟩
  · obtain ⟨x, life⟩ := Option.ne_none_iff_exists'.1 (inv.staffed.acceptor_living duty)
    obtain ⟨u, q, stands⟩ := inv.staffed.stands_of_accept duty life
    obtain ⟨n, counts, told, _⟩ := (inv.sound stands).tellings
    have nothing : p.activated = false ∧ p.count = 0 ∧ p.telling? = none := by
      cases p <;> first | exact ⟨rfl, rfl, rfl⟩ | cases barred
    obtain ⟨early, none, silent⟩ := nothing
    rw [tellingsBy_of_stands (run.proper _ (List.mem_cons_self ..)) inv stands, told,
      counts.eq_count early, none, silent, counts.telling?_eq_none early]
    rfl

theorem entered_once_of_admitted (run : Run Ordinary (s :: past)) {former : System}
    (member : former ∈ s :: past) {t : TaskId} {announced : Announcement}
    (admitted : former.tasks[t]? = some (.accept c (.finished (.ok announced)))) :
    System.entrances c (s :: past) = 1 ∧
      ∃ x, s.connections[c]? = some x ∧ (x.stage = .active ∨ x.stage = .closed) := by
  have inv := run.story.invariant _ (List.mem_cons_self ..)
  obtain ⟨p, duty, rfl⟩ := run.story.accepts (fun p => p = .admitted)
    (fun _ _ _ _ _ _ step same => absurd same step.not_admitted) (List.mem_map_of_mem member)
    (duty_of_task admitted) rfl
  obtain ⟨x, here⟩ := Option.ne_none_iff_exists'.1 (inv.staffed.acceptor_living duty)
  obtain ⟨u, q, stands⟩ := inv.staffed.stands_of_accept duty here
  obtain ⟨y, there, rfl⟩ := Option.map_eq_some_iff.1 here
  have begun := (inv.sound stands).closable.begun rfl
  constructor
  · rcases run.entrances with ⟨_, once⟩ | ⟨early, _⟩
    · exact once
    · exact absurd ⟨t, _, duty, rfl⟩ early
  · refine ⟨y, there, ?_⟩
    cases stage : y.stage with
    | initializing => exact absurd stage begun
    | active => exact Or.inl rfl
    | closed => exact Or.inr rfl

/-- A connection only moves on in its life and keeps to what its peer said of itself. It loses its entry, unless
it is being closed, to another alone; an entry is under the identity of its connection, which is not over. It
is put in the directory once if its acceptance succeeds, and if that fails never, nor is anything told of it. -/
theorem membership_follows_lifecycle (run : Run Ordinary (s :: past)) :
    (∀ before after : System, [after, before] <:+: s :: past → ∀ c : ConnectionId,
      (∀ x, before.connections[c]? = some x → ∃ y, after.connections[c]? = some y ∧
        x.stage.Leads y.stage ∧ (x.announced ≠ none → y.announced = x.announced)) ∧
      (∀ y, before.connections[c]? = none → after.connections[c]? = some y →
        y.stage = .initializing ∧ y.announced = none) ∧
      (∀ identity x, before.directory.get? identity = some c → before.connections[c]? = some x →
        x.closed = false → after.directory.get? identity ≠ some c →
        ∃ c', c' ≠ c ∧ after.directory.get? identity = some c' ∧ c' ∉ before.directory.agents)) ∧
    (∀ identity c, s.directory.get? identity = some c →
      identity ≠ "" ∧ ∃ x, s.connections[c]? = some x ∧ x.identity? = some identity ∧
        x.stage ≠ .closed) ∧
    (∀ former ∈ s :: past, ∀ (t : TaskId) (c : ConnectionId),
      (∀ error, former.tasks[t]? = some (.accept c (.finished (.error error))) →
        (∀ s' ∈ s :: past, c ∉ s'.directory.agents) ∧ s.tellingsBy c = []) ∧
      (∀ announced, former.tasks[t]? = some (.accept c (.finished (.ok announced))) →
        System.entrances c (s :: past) = 1 ∧
          ∃ x, s.connections[c]? = some x ∧ (x.stage = .active ∨ x.stage = .closed))) := by
  refine ⟨fun before after follows c => ⟨fun x here => ?_, fun y unknown there => ?_, ?_⟩, ?_, ?_⟩
  · obtain ⟨y, there, leads, keeps⟩ := proceeding_of_consecutive run follows here
    exact ⟨y, there, leads, keeps⟩
  · exact new_of_consecutive run follows unknown there
  · intro identity x entry here isOpen lost
    exact displaced_of_consecutive run follows entry here isOpen lost
  · intro identity c entry
    have inv := run.story.invariant _ (List.mem_cons_self ..)
    obtain ⟨named, life, living, known, alive⟩ := inv.entry_wellFormed entry
    obtain ⟨x, here, rfl⟩ := Option.map_eq_some_iff.1 living
    exact ⟨named, x, here, known, alive⟩
  · intro former member t c
    exact ⟨fun error failed => no_trace_of_failed run member failed,
      fun announced admitted => entered_once_of_admitted run member admitted⟩

def failure? : Task → Option (ConnectionId × LinkError)
  | .accept c (.finished (.error error)) => some (c, error)
  | _ => none

theorem eq_of_failure? {task : Task} {error : LinkError} (h : failure? task = some (c, error)) :
    task = .accept c (.finished (.error error)) := by
  unfold failure? at h
  split at h
  · cases h
    rfl
  · cases h

/-- After one agent has taken the place of another, a third is refused. -/
def refusal : List Choice :=
  handover ++ (admission 2 (.v4 10 0 0 3 4000) .reject "host").take 20 ++ takedown 2 ++ [.act 4 0]

theorem membership_after_refusal :
    let s := (replay {} [] refusal).1
    let past := (replay {} [] refusal).2
    Run Ordinary (s :: past) ∧
    s.tasks[4]? = some (.accept 2 (.finished (.error (.duplicateIdentity "host")))) ∧
    (∀ s' ∈ s :: past, 2 ∉ s'.directory.agents) ∧ s.tellingsBy 2 = [] ∧
    s.directory.get? "host" = some 1 ∧
    ∃ x, s.connections[1]? = some x ∧ x.identity? = some "host" ∧ x.stage ≠ .closed := by
  have run := run_replay_empty refusal
  have failed : (replay {} [] refusal).1.tasks[4]? =
      some (.accept 2 (.finished (.error (.duplicateIdentity "host")))) := by
    have refused : ((replay {} [] refusal).1.tasks[4]?).bind failure? =
        some (2, .duplicateIdentity "host") := by decide +kernel
    obtain ⟨task, found, failed⟩ := Option.bind_eq_some_iff.1 refused
    rw [found, eq_of_failure? failed]
  have entry : (replay {} [] refusal).1.directory.get? "host" = some 1 := by decide +kernel
  obtain ⟨_, entries, acceptances⟩ := membership_follows_lifecycle run
  obtain ⟨never, silent⟩ := (acceptances _ (List.mem_cons_self ..) 4 2).1 _ failed
  exact ⟨run, failed, never, silent, entry, (entries "host" 1 entry).2⟩

end System

end Fleetwire
