import Fleetwire.Proofs.Closing.Dismissal

namespace Fleetwire

def Task.closes? : Task → Option (ConnectionId × Closing)
  | accept c (.refuse _ phase) => some (c, phase)
  | accept _ (.replace old phase) => some (old, phase)
  | handle c _ (.acting _ (.closing phase)) => some (c, phase)
  | operate c (.closing phase) => some (c, phase)
  | listen (.closing (agent :: _) phase) => some (agent, phase)
  | _ => none

/-- How many more actions there can be at most, unless it is closed in place. -/
def Closing.rank : Closing → Nat
  | halt => 3
  | look => 2
  | claim => 1
  | failAll | publish | wait => 0

def System.closes? (s : System) (t : TaskId) : Option (ConnectionId × Closing) := (s.tasks[t]?).bind Task.closes?

section Closes

variable {s s₁ : System} {t : TaskId} {task task' : Task} {c : ConnectionId} {phase : Closing}

theorem Task.closes?_cases (closes : task.closes? = some (c, phase)) :
    (∃ error, task = .accept c (.refuse error phase)) ∨ (∃ own, task = .accept own (.replace c phase)) ∨
      (∃ job left, task = .handle c job (.acting left (.closing phase))) ∨ task = .operate c (.closing phase) ∨
      ∃ agents, task = .listen (.closing (c :: agents) phase) := by
  unfold Task.closes? at closes
  split at closes
  · cases closes
    exact .inl ⟨_, rfl⟩
  · cases closes
    exact .inr (.inl ⟨_, rfl⟩)
  · cases closes
    exact .inr (.inr (.inl ⟨_, _, rfl⟩))
  · cases closes
    exact .inr (.inr (.inr (.inl rfl)))
  · cases closes
    exact .inr (.inr (.inr (.inr ⟨_, rfl⟩)))
  · cases closes

theorem Task.part_of_closes (closes : task.closes? = some (c, phase)) : task.part c = phase.part := by
  rcases Task.closes?_cases closes with ⟨_, rfl⟩ | ⟨_, rfl⟩ | ⟨_, _, rfl⟩ | rfl | ⟨_, rfl⟩ <;> exact if_pos rfl

theorem Closing.of_map {Phase : Type} {goes : Closing → Phase} {ended later : Phase}
    (h : (later, s₁) ∈ (phase.next s c).map fun (progress, s) =>
      match progress with
      | .going closing => (goes closing, s)
      | .ended () => (ended, s)) :
    ∃ progress, (progress, s₁) ∈ phase.next s c ∧ ∀ closing, progress = .going closing → later = goes closing := by
  obtain ⟨⟨progress, s₂⟩, acted, same⟩ := List.mem_map.1 h
  cases progress with
  | going closing =>
    cases same
    refine ⟨_, acted, fun closing' same => ?_⟩
    cases same
    rfl
  | ended =>
    cases same
    exact ⟨_, acted, nofun⟩

theorem Task.next_closes (closes : task.closes? = some (c, phase)) (acted : (task', s₁) ∈ task.next s t) :
    ∃ progress, (progress, s₁) ∈ phase.next s c ∧
      ∀ later, progress = .going later → task'.closes? = some (c, later) := by
  rcases Task.closes?_cases closes with ⟨error, rfl⟩ | ⟨own, rfl⟩ | ⟨job, left, rfl⟩ | rfl | ⟨agents, rfl⟩
  · obtain ⟨⟨accepting, s₂⟩, accepted, same⟩ := List.mem_map.1 acted
    cases same
    obtain ⟨x, _, action⟩ := Accepting.action_of_next accepted
    cases action with
    | refuse closed => exact ⟨_, closed, fun later same => by cases same; rfl⟩
    | refused closed => exact ⟨_, closed, nofun⟩
  · obtain ⟨⟨accepting, s₂⟩, accepted, same⟩ := List.mem_map.1 acted
    cases same
    obtain ⟨x, _, action⟩ := Accepting.action_of_next accepted
    cases action with
    | replace closed => exact ⟨_, closed, fun later same => by cases same; rfl⟩
    | replaced _ closed => exact ⟨_, closed, nofun⟩
  · obtain ⟨⟨handling, s₂⟩, handled, same⟩ := List.mem_map.1 acted
    cases same
    obtain ⟨_, _, _, _, performs⟩ := Handling.performs_of_next handled
    cases performs with
    | close closed => exact ⟨_, closed, fun later same => by cases same; rfl⟩
    | closed closed => exact ⟨_, closed, nofun⟩
  · obtain ⟨⟨operating, s₂⟩, operated, same⟩ := List.mem_map.1 acted
    cases same
    obtain ⟨progress, closed, goes⟩ := Closing.of_map operated
    exact ⟨progress, closed, fun later same => by rw [goes later same]; rfl⟩
  · obtain ⟨⟨listening, s₂⟩, listened, same⟩ := List.mem_map.1 acted
    cases same
    obtain ⟨progress, closed, goes⟩ := Closing.of_map listened
    exact ⟨progress, closed, fun later same => by rw [goes later same]; rfl⟩

end Closes

namespace System

variable {s s' : System} {past : List System} {c : ConnectionId} {t : TaskId} {x : Connection} {call : Call}

theorem closes?_eq_some {phase : Closing} :
    s.closes? t = some (c, phase) ↔ ∃ task, s.tasks[t]? = some task ∧ task.closes? = some (c, phase) :=
  Option.bind_eq_some_iff

theorem connection_of_closing (fits : (s.traffic c).Fits) {phase : Closing} (closes : s.closes? t = some (c, phase))
    (h : (.ended (), s') ∈ phase.next s c) : ∃ x, s.connections[c]? = some x := by
  cases here : s.connections[c]? with
  | some x => exact ⟨x, rfl⟩
  | none =>
    cases phase with
    | publish =>
      obtain ⟨task, found, closes⟩ := closes?_eq_some.1 closes
      have part := fits.part t
      rw [part_of_task found, Task.part_of_closes closes] at part
      obtain ⟨e, exchange, _⟩ := part
      simp [traffic, here] at exchange
    | look | claim | wait =>
      simp only [Closing.next, here] at h
      cases h
    | halt | failAll => cases List.mem_singleton.1 h

theorem closes_of_next (founded : s.Founded) (fits : (s.traffic c).Fits) {phase : Closing}
    (closes : s.closes? t = some (c, phase)) (h : s' ∈ s.next t) :
    (∃ later, s'.closes? t = some (c, later)) ∨ s'.Gone c := by
  obtain ⟨task, found, same⟩ := closes?_eq_some.1 closes
  obtain ⟨task', s₁, acted, rfl, now⟩ := task_of_next founded found h
  obtain ⟨progress, closed, goes⟩ := Task.next_closes same acted
  cases progress with
  | going later => exact .inl ⟨later, closes?_eq_some.2 ⟨task', now, goes later rfl⟩⟩
  | ended =>
    obtain ⟨x, here⟩ := connection_of_closing fits closes closed
    have gone : s₁.Gone c := Closing.next_gone here closed
    exact .inr gone

end System

namespace Accepting

variable {s : System} {c b : ConnectionId} {t : TaskId} {phase : Accepting} {out : Accepting × System}
  {identity : String}

theorem next_entry (h : out ∈ phase.next s c t) (identity : String) :
    out.2.directory.get? identity = s.directory.get? identity ∨
      ∃ connection announced, phase = .awaitIdentity ∧ out = enter s c connection announced := by
  obtain ⟨connection, _, action⟩ := action_of_next h
  have aside {b : ConnectionId} {s' : System} (aside : s.Aside b s') :
      s'.directory.get? identity = s.directory.get? identity := by rw [aside.directory]
  cases action with
  | enter => exact .inr ⟨connection, _, rfl, rfl⟩
  | ask called => exact .inl (aside (Call.next_aside called))
  | introduce called =>
    have called := Call.next_aside called
    exact .inl (aside (called.trans (introduce_aside _)))
  | refuse closed | refused closed | replace closed | replaced _ closed =>
    exact .inl (aside (Closing.next_aside closed))
  | queueLifecycle | awaitLifecycle | queueIdentity | activate | releaseIdentity => exact .inl rfl
  | mark _ delivered => exact .inl (aside (b := c) (.deliver? delivered))
  | complain _ delivered =>
    have told : s.Aside c _ := .deliver? delivered
    exact .inl (aside (told.trans (.log ..)))
  | announce published => exact .inl (aside (b := c) (.publish? published))
  | conclude =>
    have released : s.Aside c (s.releaseLifecycle c t) := .update ..
    exact .inl (aside (released.trans (conclude_aside _ _)))

theorem displaced_of_enter {connection : Connection} {announced : Announcement}
    (holder : s.directory.get? identity = some b) (different : b ≠ c)
    (taken : (enter s c connection announced).2.directory.get? identity = some c) :
    (enter s c connection announced).1.displaced? = some b := by
  have kept : s.directory.get? identity ≠ some c := fun same => different (Option.some.inj (holder.symm.trans same))
  unfold enter at taken ⊢
  cases policy : connection.settings.duplicateIdentity with
  | evict =>
    simp only [policy, Directory.get?_put] at taken ⊢
    split at taken
    next own =>
      subst own
      exact Option.filter_eq_some_iff.2 ⟨holder, decide_eq_true different⟩
    · exact absurd taken kept
  | reject =>
    simp only [policy, Directory.putIfFree] at taken
    cases free : s.directory.get? announced.identity with
    | none =>
      simp only [free] at taken
      have put := (Directory.get?_put s.directory announced.identity identity c).symm.trans taken
      split at put
      next own =>
        subst own
        cases free.symm.trans holder
      · exact absurd put kept
    | some other =>
      simp only [free] at taken
      exact absurd taken kept

theorem next_of_displaced (displaced : phase.displaced? = some b) (h : out ∈ phase.next s c t) :
    out.1.displaced? = some b ∨
      ∃ closing announced, phase = .replace b closing ∧ out.1 = .finished (.ok announced) := by
  obtain ⟨connection, _, action⟩ := action_of_next h
  cases action with
  | mark | complain | announce | activate | releaseIdentity | replace => exact .inl displaced
  | @conclude announced verdict =>
    cases verdict with
    | admitted former =>
      cases displaced
      exact .inl rfl
    | gone | refused => cases displaced
  | replaced =>
    cases displaced
    exact .inr ⟨_, _, rfl, rfl⟩
  | _ => cases displaced

end Accepting

namespace System

variable {s s' : System} {past : List System} {b c : ConnectionId} {t : TaskId} {identity : String}

/-- An acceptance has displaced a connection, and has not ended, or the connection was closed by then. -/
def Displaces (states : List System) (s : System) (t : TaskId) (c b : ConnectionId) : Prop :=
  ∃ phase, s.tasks[t]? = some (.accept c phase) ∧
    (phase.displaced? = some b ∨ (∃ announced, phase = .finished (.ok announced)) ∧ WasGone states b)

theorem displaces_of_evicts (founded : s.Founded) {phase : Accepting} (found : s.tasks[t]? = some (.accept c phase))
    (h : s' ∈ s.next t) (evicts : s.Evicts c b identity s') : Displaces (s' :: past) s' t c b := by
  obtain ⟨task', s₁, acted, rfl, now⟩ := task_of_next founded found h
  obtain ⟨⟨phase', s₂⟩, accepted, same⟩ := List.mem_map.1 acted
  cases same
  refine ⟨phase', now, .inl ?_⟩
  have taken : s₁.directory.get? identity = some c := evicts.taken
  rcases Accepting.next_entry accepted identity with kept | ⟨connection, announced, _, enters⟩
  · rw [kept, evicts.holder] at taken
    exact absurd (Option.some.inj taken) evicts.different
  · have entered := congrArg Prod.snd enters
    dsimp only at entered
    rw [entered] at taken
    rw [show phase' = _ from congrArg Prod.fst enters]
    exact Accepting.displaced_of_enter evicts.holder evicts.different taken

theorem Displaces.next (founded : s.Founded) (fits : (s.traffic b).Fits) (step : Step Genuine s s')
    (h : Displaces (s :: past) s t c b) : Displaces (s' :: s :: past) s' t c b := by
  obtain ⟨phase, found, displaced⟩ := h
  have later : WasGone (s :: past) b → WasGone (s' :: s :: past) b :=
    Exists.imp fun _ h => ⟨List.mem_cons_of_mem _ h.1, h.2⟩
  rcases step.task_becomes founded found with kept | ⟨_, _, other, _⟩ | ⟨task', s₁, acted, result, now⟩
  · exact ⟨phase, kept, displaced.imp_right fun h => ⟨h.1, later h.2⟩⟩
  · cases other
  · obtain ⟨⟨phase', s₂⟩, accepted, same⟩ := List.mem_map.1 acted
    cases same
    refine ⟨phase', now, ?_⟩
    rcases displaced with displaced | ⟨⟨announced, rfl⟩, was⟩
    · rcases Accepting.next_of_displaced displaced accepted with still | ⟨closing, announced, rfl, ends⟩
      · exact .inl still
      · have closes : s.closes? t = some (b, closing) := closes?_eq_some.2 ⟨_, found, rfl⟩
        have member : s' ∈ s.next t := mem_next.2 ⟨_, _, _, found, acted, result⟩
        dsimp only at ends
        subst ends
        rcases closes_of_next founded fits closes member with ⟨later, again⟩ | gone
        · obtain ⟨task, found', closes'⟩ := closes?_eq_some.1 again
          cases found'.symm.trans now
          cases closes'
        · exact .inr ⟨⟨announced, rfl⟩, s', List.mem_cons_self .., gone⟩
    · obtain ⟨_, _, action⟩ := Accepting.action_of_next accepted
      cases action

theorem Run.displaces (run : Run Genuine (s :: past)) {before after : System}
    (follows : [after, before] <:+: s :: past) {phase : Accepting} (found : before.tasks[t]? = some (.accept c phase))
    (h : after ∈ before.next t) (evicts : before.Evicts c b identity after) : Displaces (s :: past) s t c b := by
  generalize all : s :: past = states at run
  induction run generalizing s past with
  | start =>
    cases all
    exact absurd follows.length_le (by simp)
  | @step former s' past run step ih =>
    cases all
    have founded := run.founded _ (List.mem_cons_self ..)
    rcases List.infix_cons_iff.1 follows with now | sooner
    · obtain ⟨rfl, rest⟩ := List.cons_prefix_cons.1 now
      obtain ⟨rfl, _⟩ := List.cons_prefix_cons.1 rest
      exact displaces_of_evicts founded found h evicts
    · exact (ih sooner rfl).next founded ((run.course b).fits _ (List.mem_cons_self ..)) step

theorem update_of_eq {x : Connection} {f : Connection → Connection} (here : s.connections[c]? = some x)
    (same : f x = x) : s.update c f = s := by
  have unchanged : s.connections.modify c f = s.connections := by
    apply List.ext_getElem?
    intro other
    rw [List.getElem?_modify]
    split
    next own =>
      subst own
      simp [here, same]
    · simp
  rw [update, unchanged]

theorem closing_again (fits : (s.traffic c).Fits) (gone : s.Gone c) {phase : Closing}
    (closes : s.closes? t = some (c, phase)) (idle : ¬ s.Undertakes c t) :
    ∃ progress, phase.next s c = [(progress, s)] ∧
      (progress = .ended () ∨ ∃ later, progress = .going later ∧ later.rank < phase.rank) := by
  obtain ⟨x, here, atEnd⟩ := gone
  obtain ⟨closed, halted⟩ := fits.stage _ (exchange_of_connection here) atEnd
  have unworking : ¬ phase.part.works := by
    obtain ⟨task, found, closes⟩ := closes?_eq_some.1 closes
    rwa [Undertakes, part_of_task found, Task.part_of_closes closes] at idle
  cases phase with
  | halt =>
    have told : { x with halted := true } = x := by rw [← show x.halted = true from halted]
    have unchanged : s.update c (fun y => { y with halted := true }) = s := update_of_eq here told
    exact ⟨.going .look, by simp only [Closing.next, unchanged], .inr ⟨_, rfl, by decide⟩⟩
  | look =>
    refine ⟨.going (if x.supervised then .wait else .claim), by simp only [Closing.next, here], .inr ⟨_, rfl, ?_⟩⟩
    cases x.supervised <;> decide
  | claim =>
    refine ⟨.going .wait, ?_, .inr ⟨_, rfl, by decide⟩⟩
    simp only [Closing.next, here, show x.closed = true from closed, if_true]
  | wait =>
    refine ⟨.ended (), ?_, .inl rfl⟩
    simp only [Closing.next, here, atEnd, if_true]
  | failAll | publish => exact absurd rfl unworking

/-- What is true once a connection was closed. -/
structure Aftermath (s : System) (past : List System) (c : ConnectionId) : Prop where
  one : ∃ t, (∀ u, Undertook (s :: past) c u ↔ u = t) ∧ failers c (s :: past) = [t] ∧
    (removers c (s :: past) = [] ∨ removers c (s :: past) = [t])
  idle : ∀ t, ¬ s.Undertakes c t
  sends : ∀ (t : TaskId) (message : Message), Sending.check.next s c t message = [(.ended (.error .disconnected), s)]
  notifies : ∀ (t : TaskId) (kind : MessageKind) (payload : Bytes), Operating.next s c t (.notifying kind payload) =
    [(.sending (.request (.fresh s.nextId) kind payload) .check, { s with nextId := s.nextId + 1 })]
  calls : ∀ start earlier, start :: earlier <:+ s :: past → WasGone (start :: earlier) c → ∀ t,
    (∀ call, start.call? c t = some call → call.phase = .register) → ∀ call, s.call? c t = some call →
      call.phase.Dismissed ∧ ∃ progress s', s.Dismisses c t call progress s'
  fresh : Traffic.Distinct (s.nextId + 1) → s.pending? c (.fresh s.nextId) = none
  closes : s.Gone c → ∀ t phase, s.closes? t = some (c, phase) → ∃ progress, phase.next s c = [(progress, s)] ∧
    (progress = .ended () ∨ ∃ later, progress = .going later ∧ later.rank < phase.rank)

theorem Run.aftermath (run : Run Genuine (s :: past)) (was : WasGone (s :: past) c) : Aftermath s past c := by
  have byOne := run.closedByOne c
  obtain ⟨claimed, ⟨t, failed⟩, idle⟩ := byOne.gone was
  obtain ⟨x, here, closed⟩ := closed_of_claimed claimed
  have course := run.course c
  have undertook : Undertook (s :: past) c t := byOne.undertook_of_failers (by rw [failed]; simp)
  exact {
    one := by
      refine ⟨t, fun u => ⟨fun other => byOne.one u t other undertook, fun same => same ▸ undertook⟩, failed, ?_⟩
      refine (run.removers c).imp_right fun ⟨u, removed, other, _⟩ => ?_
      rw [removed, byOne.one u t other undertook]
    idle
    sends := sending_of_closed here closed
    notifies := fun _ _ _ => rfl
    calls := fun start earlier follows was t begins call calls => by
      have dismissed := run.dismissed follows was begins calls
      exact ⟨dismissed, dismisses run.linedUp here closed calls dismissed⟩
    fresh := pending?_fresh course
    closes := fun gone t phase closes =>
      closing_again (course.fits _ (List.mem_cons_self ..)) gone closes (idle t) }

/-- Whoever closes a connection, or waits for it to be closed, goes on only when it is closed. One task does all the
work: it alone fails the calls, and takes the connection out of the directory, once at most. Once the connection was
closed, sends and calls fail and leave nothing behind, and closing it again does nothing. An acceptance that has taken
the place of another connection succeeds, but only when that one was closed. -/
theorem closing_is_complete (run : Run Genuine (s :: past)) :
    (∀ t c phase s', s.closes? t = some (c, phase) → s' ∈ s.next t →
      (∃ later, s'.closes? t = some (c, later)) ∨ s'.Gone c) ∧
    (∀ c, (∀ t u, Undertook (s :: past) c t → Undertook (s :: past) c u → t = u) ∧
      (∀ t ∈ failers c (s :: past) ++ removers c (s :: past), Undertook (s :: past) c t) ∧
      (failers c (s :: past)).length ≤ 1 ∧ (removers c (s :: past)).length ≤ 1 ∧
      (WasGone (s :: past) c → Aftermath s past c)) ∧
    ∀ before after, [after, before] <:+: s :: past → ∀ (t : TaskId) (c b : ConnectionId) phase identity,
      before.tasks[t]? = some (.accept c phase) → after ∈ before.next t → before.Evicts c b identity after →
      ∀ result, s.tasks[t]? = some (.accept c (.finished result)) →
        (∃ announced, result = .ok announced) ∧ WasGone (s :: past) b := by
  refine ⟨fun t c phase s' closes h => ?_,
    fun c => ⟨(run.closedByOne c).one, fun t member => ?_, ?_, ?_, run.aftermath⟩, ?_⟩
  · have fits := (run.course c).fits _ (List.mem_cons_self ..)
    exact closes_of_next (run.founded _ (List.mem_cons_self ..)) fits closes h
  · rcases List.mem_append.1 member with failed | removed
    · exact (run.closedByOne c).undertook_of_failers failed
    · rcases run.removers c with none | ⟨u, only, undertook, _⟩
      · rw [none] at removed
        cases removed
      · rw [only] at removed
        exact List.mem_singleton.1 removed ▸ undertook
  · rcases (run.closedByOne c).failers with none | ⟨t, only, _⟩
    · simp [none]
    · simp [only]
  · rcases run.removers c with none | ⟨t, only, _⟩
    · simp [none]
    · simp [only]
  · intro before after follows t c b phase identity found h evicts result ended
    obtain ⟨phase', found', displaced⟩ := run.displaces follows found h evicts
    cases found'.symm.trans ended
    rcases displaced with displaced | ⟨⟨announced, same⟩, was⟩
    · cases displaced
    · cases same
      exact ⟨⟨announced, rfl⟩, was⟩

/-- One agent has taken the place of another. That one is closed, and is to be closed once more, and is asked
something. -/
def epilogue : List Choice :=
  handover ++ [.react (.operate 0 (.closing .halt)),
    .react (.operate 0 (.calling none { question 0 0 with phase := .register }))]

theorem closing_is_complete_after_handover :
    let s := (replay {} [] epilogue).1
    let past := (replay {} [] epilogue).2
    failers 0 (s :: past) = [1] ∧ removers 0 (s :: past) = [1] ∧ (∀ t, Undertook (s :: past) 0 t ↔ t = 1) ∧
    (∃ progress, Closing.halt.next s 0 = [(progress, s)]) ∧
    (∃ progress s', s.Dismisses 0 5 { question 0 0 with phase := .register } progress s') ∧
    ∀ message, Sending.check.next s 0 6 message = [(.ended (.error .disconnected), s)] := by
  have run : Run Genuine _ := (run_replay_empty epilogue).mono fun _ _ => Ordinary.genuine
  have gone : ((replay {} [] epilogue).1.connections[0]?).any (fun x => decide (x.stage = .closed)) := by decide +kernel
  have failed : failers 0 ((replay {} [] epilogue).1 :: (replay {} [] epilogue).2) = [1] := by decide +kernel
  have removed : removers 0 ((replay {} [] epilogue).1 :: (replay {} [] epilogue).2) = [1] := by decide +kernel
  have closes : (replay {} [] epilogue).1.closes? 4 = some (0, .halt) := by decide +kernel
  have calls : (replay {} [] epilogue).1.call? 0 5 = some { question 0 0 with phase := .register } := by decide +kernel
  dsimp only
  -- The run is not looked into any more.
  generalize (replay {} [] epilogue).1 = s at *
  generalize (replay {} [] epilogue).2 = past at *
  obtain ⟨x, here, closed⟩ := (Option.any_eq_true _ _).1 gone
  have gone : s.Gone 0 := ⟨x, here, of_decide_eq_true closed⟩
  have was : WasGone (s :: past) 0 := ⟨s, List.mem_cons_self .., gone⟩
  obtain ⟨_, conclusions, _⟩ := closing_is_complete run
  have aftermath := (conclusions 0).2.2.2.2 was
  obtain ⟨t, only, failed', _⟩ := aftermath.one
  cases failed.symm.trans failed'
  obtain ⟨progress, again, _⟩ := aftermath.closes gone 4 .halt closes
  have begins : ∀ call, s.call? 0 5 = some call → call.phase = .register := by
    intro call same
    cases calls.symm.trans same
    rfl
  exact ⟨failed, removed, only, ⟨progress, again⟩,
    (aftermath.calls s past (List.suffix_refl _) was 5 begins _ calls).2, aftermath.sends 6⟩

end System

end Fleetwire
