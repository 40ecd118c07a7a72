import Fleetwire.Proofs.Shutdown
import Fleetwire.Proofs.Tasks

namespace Fleetwire

namespace Part

/-- It alone closes the connection, and has the calls still to fail. -/
def owes : Part → Bool
  | seizing | failing => true
  | _ => false

def works (p : Part) : Bool := p.owes || p = .failed

theorem works_of_owes {p : Part} (owes : p.owes) : p.works := by simp [works, owes]

end Part

namespace Traffic

variable {l l' l₁ : Traffic} {p p' : Part} {t : TaskId} {e e' : Exchange}

def Claimed (l : Traffic) : Prop := ∃ e, l.exchange = some e ∧ e.closed

theorem Move.claimed (move : l.Move l') (claimed : l.Claimed) : l'.Claimed := by
  obtain ⟨e, here, closed⟩ := claimed
  obtain ⟨e', after, later⟩ := move.later here
  exact ⟨e', after, later.closed closed⟩

theorem Fits.claimed (fits : l.Fits) (works : (l.part t).works) : l.Claimed := by
  have part := fits.part t
  cases role : l.part t with
  | seizing =>
    rw [role] at part
    exact part
  | failing | failed =>
    rw [role] at part
    obtain ⟨e, here, closed, _⟩ := part
    exact ⟨e, here, closed⟩
  | none | calling | hurrying | dropped =>
    rw [role] at works
    cases works

theorem Act.owes (act : l.Act p p' l') (owes : p'.owes) : p.owes ∨ ¬ l.Claimed := by
  cases act with
  | mild => exact .inl owes
  | rest | begin | quit => cases owes
  | deal here step =>
    have unclaimed : ∀ {e : Exchange}, l.exchange = some e → e.closed = false → ¬ l.Claimed := by
      rintro e here isOpen ⟨e', here', closed⟩
      cases here.symm.trans here'
      rw [isOpen] at closed
      cases closed
    cases step with
    | call current act => cases ‹Progress Calling _› <;> cases owes
    | claim isOpen | seize isOpen => exact .inr (unclaimed here isOpen)
    | press => exact .inl rfl
    | drop | receive | hurry | fail | publish => cases owes

theorem Act.failed (act : l.Act p .failed l') : p = .failed ∨ p = .failing := by
  generalize result : Part.failed = p' at act
  cases act with
  | mild => exact .inl rfl
  | rest | begin | quit => cases result
  | deal here step =>
    cases step with
    | call current act => cases ‹Progress Calling _› <;> cases result
    | fail => exact .inr rfl
    | drop | receive | hurry | claim | seize | press | publish => cases result

theorem Move.part_cases (move : l.Move l') (t : TaskId) :
    l'.part t = l.part t ∨ (∃ l₁, l.Act (l.part t) (l'.part t) l₁) ∨ ∃ call, l'.part t = .calling call := by
  cases move with
  | @act u p p' l₁ was act =>
    by_cases own : t = u
    · subst own
      refine .inr (.inl ⟨l₁, ?_⟩)
      simpa [setPart, was] using act
    · left
      simp [setPart, own, act.part_eq]
  | @arrive u e call =>
    by_cases own : t = u
    · exact .inr (.inr ⟨call, by simp [setPart, own]⟩)
    · left
      simp [setPart, own]
  | elapse => exact .inl rfl

theorem Move.eq_of_changes {u : TaskId} (move : l.Move l') (changes : l'.part t ≠ l.part t)
    (changes' : l'.part u ≠ l.part u) : t = u := by
  cases move with
  | @act a p p' l₁ was act =>
    have own : ∀ b, (l₁.setPart a p').part b ≠ l.part b → b = a := by
      intro b changes
      by_contra other
      exact changes (by simp [setPart, other, act.part_eq])
    rw [own t changes, own u changes']
  | @arrive a e call =>
    have own : ∀ b, ({ l with exchange := some e }.setPart a (.calling call)).part b ≠ l.part b → b = a := by
      intro b changes
      by_contra other
      exact changes (by simp [setPart, other])
    rw [own t changes, own u changes']
  | elapse => exact absurd rfl changes

theorem Move.owes (move : l.Move l') (owes : (l'.part t).owes) : (l.part t).owes ∨ ¬ l.Claimed := by
  rcases move.part_cases t with same | ⟨l₁, act⟩ | ⟨call, calls⟩
  · exact .inl (same ▸ owes)
  · exact act.owes owes
  · rw [calls] at owes
    cases owes

theorem Move.failed (move : l.Move l') (failed : l'.part t = .failed) : l.part t = .failed ∨ l.part t = .failing := by
  rcases move.part_cases t with same | ⟨l₁, act⟩ | ⟨call, calls⟩
  · exact .inl (same ▸ failed)
  · exact (failed ▸ act).failed
  · rw [calls] at failed
    cases failed

theorem Move.works (move : l.Move l') (works : (l'.part t).works) : (l.part t).works ∨ ¬ l.Claimed := by
  rcases Bool.or_eq_true_iff.1 works with owes | failed
  · exact (move.owes owes).imp_left Part.works_of_owes
  · rcases move.failed (of_decide_eq_true failed) with same | same <;> exact .inl (by rw [same]; rfl)

theorem Move.closed (move : l.Move l') (after : l'.exchange = some e') (closed : e'.stage = .closed) :
    (∃ e, l.exchange = some e ∧ e.stage = .closed) ∨ ∃ t, l.part t = .failed ∧ l'.part t = .none := by
  cases move with
  | @act t p p' l₁ was act =>
    have mild : l.Mild l₁ → ∃ e, l.exchange = some e ∧ e.stage = .closed := by
      intro same
      obtain ⟨e, before, mild⟩ := same.before after
      exact ⟨e, before, mild.stage closed⟩
    cases act with
    | mild same | rest same => exact .inl (mild same)
    | begin | quit => exact .inl ⟨e', after, closed⟩
    | deal here step =>
      cases after
      cases step with
      | publish => exact .inr ⟨t, was, by simp [setPart]⟩
      | call _ act => cases act <;> exact .inl ⟨_, here, closed⟩
      | drop | receive | hurry | claim | seize | press | fail => exact .inl ⟨_, here, closed⟩
  | arrive absent idle new calls routed stage =>
    cases after
    rw [stage] at closed
    cases closed
  | elapse => exact .inl ⟨e', after, closed⟩

end Traffic

namespace System

variable {s s' : System} {past states : List System} {c : ConnectionId} {t u : TaskId}

def Undertakes (s : System) (c : ConnectionId) (t : TaskId) : Prop := ((s.traffic c).part t).works

/-- At some time, the task alone closed the connection. -/
def Undertook (states : List System) (c : ConnectionId) (t : TaskId) : Prop := ∃ s ∈ states, s.Undertakes c t

def WasGone (states : List System) (c : ConnectionId) : Prop := ∃ s ∈ states, s.Gone c

def doers (takes : System → System → TaskId → Bool) : List System → List TaskId
  | s' :: s :: past => doers takes (s :: past) ++ (List.range s.tasks.length).filter (takes s s')
  | _ => []

def failers (c : ConnectionId) : List System → List TaskId :=
  doers fun s s' t => (s.traffic c).part t = .failing ∧ (s'.traffic c).part t = .failed

end System

def Task.removes (c : ConnectionId) : Task → Bool
  | supervise own (.awaitIdentity ..) => own = c
  | _ => false

/-- The connection has been taken out of the directory, or was not there. -/
def Supervising.hasRemoved : Supervising → Bool
  | marking .. | announcing .. | releaseIdentity .. | releaseLifecycle .. | farewell .. | publish | finished => true
  | _ => false

def Task.hasRemoved (c : ConnectionId) : Task → Bool
  | supervise own phase => own = c && phase.hasRemoved
  | _ => false

theorem Supervising.next_hasRemoved {s : System} {c : ConnectionId} {t : TaskId} {phase : Supervising}
    {out : Supervising × System} (late : phase.hasRemoved ∨ ∃ failed identity, phase = .awaitIdentity failed identity)
    (h : out ∈ phase.next s c t) : out.1.hasRemoved := by
  obtain ⟨x, _, action⟩ := action_of_next h
  cases action with
  | mark | complain | announce | releaseIdentity | releaseLifecycle | farewell | publish => rfl
  | unregister =>
    unfold unregister
    dsimp only
    split <;> rfl
  | _ => rcases late with late | ⟨_, _, late⟩ <;> cases late

namespace System

variable {s s' : System} {past states : List System} {c : ConnectionId} {t u : TaskId}

def removers (c : ConnectionId) : List System → List TaskId :=
  doers fun s s' t => (s.tasks[t]?).any (Task.removes c) ∧ ¬ (s'.tasks[t]?).any (Task.removes c)

theorem Undertakes.worked (works : s.Undertakes c t) : Undertook (s :: past) c t := ⟨s, List.mem_cons_self .., works⟩

theorem Undertook.later (worked : Undertook states c t) : Undertook (s :: states) c t := by
  obtain ⟨former, member, works⟩ := worked
  exact ⟨former, List.mem_cons_of_mem _ member, works⟩

theorem filter_range_of_unique {takes : TaskId → Bool} (n : Nat) (unique : ∀ t u, takes t → takes u → t = u) :
    (∀ t < n, ¬ takes t) ∧ (List.range n).filter takes = [] ∨
      ∃ t < n, takes t ∧ (List.range n).filter takes = [t] := by
  by_cases any : ∃ t < n, takes t
  · obtain ⟨t, inside, takes'⟩ := any
    refine .inr ⟨t, inside, takes', List.perm_singleton.1 ?_⟩
    refine (List.perm_ext_iff_of_nodup (List.nodup_range.filter _) (by simp)).2 fun u => ?_
    rw [List.mem_filter, List.mem_range, List.mem_singleton]
    constructor
    · exact fun own => unique u t own.2 takes'
    · rintro rfl
      exact ⟨inside, takes'⟩
  · have nobody : ∀ t < n, ¬ takes t := fun t inside takes' => any ⟨t, inside, takes'⟩
    refine .inl ⟨nobody, List.filter_eq_nil_iff.2 fun t member => nobody t (List.mem_range.1 member)⟩

theorem gone_iff : s.Gone c ↔ ∃ e, (s.traffic c).exchange = some e ∧ e.stage = .closed := by
  constructor
  · rintro ⟨x, here, closed⟩
    exact ⟨x.exchange, exchange_of_connection here, closed⟩
  · rintro ⟨e, here, closed⟩
    obtain ⟨x, found, rfl⟩ := Option.map_eq_some_iff.1 here
    exact ⟨x, found, closed⟩

/-- A connection is closed by one task, from the claim to the end. -/
structure ClosedByOne (s : System) (past : List System) (c : ConnectionId) : Prop where
  claimed : ∀ t, Undertook (s :: past) c t → (s.traffic c).Claimed
  one : ∀ t u, Undertook (s :: past) c t → Undertook (s :: past) c u → t = u
  failers : failers c (s :: past) = [] ∨
    ∃ t, failers c (s :: past) = [t] ∧ Undertook (s :: past) c t ∧ ¬ ((s.traffic c).part t).owes
  failed : ∀ t, (s.traffic c).part t = .failed → System.failers c (s :: past) = [t]
  gone : WasGone (s :: past) c →
    (s.traffic c).Claimed ∧ (∃ t, System.failers c (s :: past) = [t]) ∧ ∀ t, ¬ s.Undertakes c t

theorem works_of_failing (failing : (s.traffic c).part t = .failing) : s.Undertakes c t := by
  rw [Undertakes, failing]
  rfl

theorem works_of_failed (failed : (s.traffic c).part t = .failed) : s.Undertakes c t := by
  rw [Undertakes, failed]
  rfl

theorem Undertook.before (move : (s.traffic c).Move (s'.traffic c)) (worked : Undertook (s' :: s :: past) c t) :
    Undertook (s :: past) c t ∨ s'.Undertakes c t ∧ ¬ s.Undertakes c t ∧ ¬ (s.traffic c).Claimed := by
  obtain ⟨former, member, works⟩ := worked
  rcases List.mem_cons.1 member with rfl | earlier
  · by_cases before : s.Undertakes c t
    · exact .inl before.worked
    · exact .inr ⟨works, before, (move.works works).resolve_left before⟩
  · exact .inl ⟨former, earlier, works⟩

namespace ClosedByOne

variable (h : ClosedByOne s past c)

include h

theorem undertook_of_failers (member : t ∈ System.failers c (s :: past)) :
    Undertook (s :: past) c t := by
  rcases h.failers with none | ⟨u, only, undertook, _⟩
  · rw [none] at member
    cases member
  · rw [only] at member
    exact List.mem_singleton.1 member ▸ undertook

theorem next_one (move : (s.traffic c).Move (s'.traffic c)) (worked : Undertook (s' :: s :: past) c t)
    (worked' : Undertook (s' :: s :: past) c u) : t = u := by
  rcases worked.before move with former | ⟨works, idle, unclaimed⟩
  · rcases worked'.before move with former' | ⟨_, _, unclaimed⟩
    · exact h.one t u former former'
    · exact absurd (h.claimed t former) unclaimed
  · rcases worked'.before move with former' | ⟨works', idle', _⟩
    · exact absurd (h.claimed u former') unclaimed
    · refine move.eq_of_changes (fun same => idle ?_) fun same => idle' ?_
      · rwa [Undertakes, ← same]
      · rwa [Undertakes, ← same]

theorem next_failers :
    System.failers c (s' :: s :: past) = System.failers c (s :: past) ∧
        (∀ t, ¬ ((s.traffic c).part t = .failing ∧ (s'.traffic c).part t = .failed)) ∨
      ∃ t, System.failers c (s :: past) = [] ∧ System.failers c (s' :: s :: past) = [t] ∧
        (s.traffic c).part t = .failing ∧ (s'.traffic c).part t = .failed := by
  have unique : ∀ t u, decide ((s.traffic c).part t = .failing ∧ (s'.traffic c).part t = .failed) = true →
      decide ((s.traffic c).part u = .failing ∧ (s'.traffic c).part u = .failed) = true → t = u := by
    intro t u first second
    have fails := of_decide_eq_true first
    have fails' := of_decide_eq_true second
    exact h.one t u (works_of_failing fails.1).worked (works_of_failing fails'.1).worked
  rcases filter_range_of_unique s.tasks.length unique with ⟨nobody, none⟩ | ⟨t, _, fails, own⟩
  · left
    constructor
    · exact (congrArg (System.failers c (s :: past) ++ ·) none).trans (List.append_nil _)
    · intro t fails
      have inside : t < s.tasks.length := by
        by_contra beyond
        have idle : (s.traffic c).part t = .none := by
          simp [traffic, List.getElem?_eq_none (Nat.le_of_not_lt beyond)]
        cases idle.symm.trans fails.1
      exact nobody t inside (decide_eq_true fails)
  · obtain ⟨failing, failed⟩ := of_decide_eq_true fails
    have nothing : System.failers c (s :: past) = [] := by
      rcases h.failers with nothing | ⟨u, _, worked, done⟩
      · exact nothing
      · have same := h.one u t worked (works_of_failing failing).worked
        rw [same, failing] at done
        exact absurd rfl done
    refine .inr ⟨t, nothing, ?_, failing, failed⟩
    have all : System.failers c (s' :: s :: past) = System.failers c (s :: past) ++ _ := congrArg _ own
    rw [all, nothing]
    rfl

theorem next_gone (move : (s.traffic c).Move (s'.traffic c)) (was : WasGone (s' :: s :: past) c) :
    (s.traffic c).Claimed ∧ (∃ t, System.failers c (s :: past) = [t]) ∧
      ∀ t, s.Undertakes c t → ¬ s'.Undertakes c t := by
  have earlier : WasGone (s :: past) c →
      (s.traffic c).Claimed ∧ (∃ t, System.failers c (s :: past) = [t]) ∧ ∀ t, s.Undertakes c t → ¬ s'.Undertakes c t :=
    fun was => ⟨(h.gone was).1, (h.gone was).2.1, fun t works => absurd works ((h.gone was).2.2 t)⟩
  obtain ⟨former, member, gone⟩ := was
  rcases List.mem_cons.1 member with rfl | member
  · obtain ⟨e', after, closed⟩ := gone_iff.1 gone
    rcases move.closed after closed with before | ⟨t, failed, idle⟩
    · exact earlier ⟨s, List.mem_cons_self .., gone_iff.2 before⟩
    · have worked : Undertook (s :: past) c t := (works_of_failed failed).worked
      refine ⟨h.claimed t worked, ⟨t, h.failed t failed⟩, fun u works works' => ?_⟩
      rw [h.one u t works.worked worked, Undertakes, idle] at works'
      cases works'
  · exact earlier ⟨former, member, gone⟩

theorem next (move : (s.traffic c).Move (s'.traffic c)) (fits : (s'.traffic c).Fits) :
    ClosedByOne s' (s :: past) c where
  claimed t worked := by
    rcases worked.before move with former | ⟨works, _⟩
    · exact move.claimed (h.claimed t former)
    · exact fits.claimed works
  one _ _ := h.next_one move
  failers := by
    rcases h.next_failers with ⟨same, _⟩ | ⟨t, _, now, failing, failed⟩
    · rw [same]
      refine h.failers.imp_right fun ⟨t, own, worked, done⟩ => ⟨t, own, worked.later, fun owes => ?_⟩
      rcases move.owes owes with before | unclaimed
      · exact done before
      · exact unclaimed (h.claimed t worked)
    · refine .inr ⟨t, now, (works_of_failing failing).worked.later, ?_⟩
      rw [failed]
      exact Bool.false_ne_true
  failed t failed := by
    rcases h.next_failers with ⟨same, nobody⟩ | ⟨u, _, now, failing, _⟩
    · rcases move.failed failed with before | failing
      · rw [same, h.failed t before]
      · exact absurd ⟨failing, failed⟩ (nobody t)
    · have worked : Undertook (s' :: s :: past) c t := (works_of_failed failed).worked
      rw [now, h.next_one move worked (works_of_failing failing).worked.later]
  gone was := by
    obtain ⟨claimed, ⟨t, own⟩, done⟩ := h.next_gone move was
    refine ⟨move.claimed claimed, ⟨t, ?_⟩, fun u works => ?_⟩
    · rcases h.next_failers with ⟨same, _⟩ | ⟨u, nothing, _⟩
      · rw [same, own]
      · rw [own] at nothing
        cases nothing
    · exact done u ((move.works works).resolve_right (absurd claimed)) works

end ClosedByOne

theorem Run.closedByOne (run : Run Genuine (s :: past)) (c : ConnectionId) : ClosedByOne s past c := by
  generalize all : s :: past = states at run
  induction run generalizing s past with
  | @start first initial =>
    cases all
    have absent : (first.traffic c).exchange = none := by simp [traffic, initial.connections]
    have idle : ∀ t, ¬ Undertook [first] c t := by
      rintro t ⟨former, member, works⟩
      cases List.mem_singleton.1 member
      obtain ⟨e, here, _⟩ := (((Run.start initial).course c).fits _ (List.mem_cons_self ..)).claimed works
      cases absent.symm.trans here
    refine ⟨fun t worked => absurd worked (idle t), fun t _ worked => absurd worked (idle t), .inl rfl,
      fun t failed => ?_, fun was => ?_⟩
    · exact absurd (works_of_failed failed).worked (idle t)
    · obtain ⟨former, member, gone⟩ := was
      cases List.mem_singleton.1 member
      obtain ⟨e, here, _⟩ := gone_iff.1 gone
      cases absent.symm.trans here
  | @step before after earlier run step ih =>
    cases all
    have moves := step.moves (run.founded _ (List.mem_cons_self ..))
    have course := (run.step step).course c
    exact (ih rfl).next (moves.traffic c) (course.fits _ (List.mem_cons_self ..))

theorem Undertakes.of_removes {task : Task} (found : s.tasks[t]? = some task) (removes : task.removes c) :
    s.Undertakes c t := by
  unfold Undertakes
  rw [part_of_task found]
  cases task with
  | supervise own phase =>
    cases phase with
    | awaitIdentity failed identity =>
      simp [Task.part, show own = c from of_decide_eq_true removes, Supervising.part, Part.works]
    | _ => cases removes
  | accept | handle | operate | listen => cases removes

theorem Step.hasRemoved (founded : s.Founded) (step : Step Genuine s s')
    (late : (s.tasks[t]?).any (Task.hasRemoved c)) : (s'.tasks[t]?).any (Task.hasRemoved c) := by
  obtain ⟨task, found, late⟩ := (Option.any_eq_true _ _).1 late
  cases task with
  | supervise own phase =>
    obtain ⟨same, removed⟩ := Bool.and_eq_true_iff.1 late
    rcases step.task_becomes founded found with kept | ⟨_, _, other, _⟩ | ⟨task', s₁, acted, _, now⟩
    · rw [kept]
      exact late
    · cases other
    · obtain ⟨⟨phase', s₂⟩, supervised, equal⟩ := List.mem_map.1 acted
      cases equal
      rw [now]
      exact Bool.and_eq_true_iff.2 ⟨same, Supervising.next_hasRemoved (.inl removed) supervised⟩
  | accept | handle | operate | listen => cases late

theorem Step.removed (founded : s.Founded) (step : Step Genuine s s') {task : Task} (found : s.tasks[t]? = some task)
    (removes : task.removes c) (done : ¬ (s'.tasks[t]?).any (Task.removes c)) :
    (s'.tasks[t]?).any (Task.hasRemoved c) := by
  cases task with
  | supervise own phase =>
    cases phase with
    | awaitIdentity failed identity =>
      rcases step.task_becomes founded found with kept | ⟨_, _, other, _⟩ | ⟨task', s₁, acted, _, now⟩
      · rw [kept] at done
        exact absurd removes done
      · cases other
      · obtain ⟨⟨phase', s₂⟩, supervised, equal⟩ := List.mem_map.1 acted
        cases equal
        rw [now]
        exact Bool.and_eq_true_iff.2 ⟨removes, Supervising.next_hasRemoved (.inr ⟨_, _, rfl⟩) supervised⟩
    | _ => cases removes
  | accept | handle | operate | listen => cases removes

theorem not_hasRemoved_of_removes {task : Task} (removes : task.removes c) : ¬ task.hasRemoved c := by
  cases task with
  | supervise own phase =>
    cases phase with
    | awaitIdentity => simp [Task.hasRemoved, Supervising.hasRemoved]
    | _ => cases removes
  | accept | handle | operate | listen => cases removes

theorem Run.removers (run : Run Genuine (s :: past)) (c : ConnectionId) :
    removers c (s :: past) = [] ∨ ∃ t, removers c (s :: past) = [t] ∧ Undertook (s :: past) c t ∧
      (s.tasks[t]?).any (Task.hasRemoved c) := by
  generalize all : s :: past = states at run
  induction run generalizing s past with
  | start =>
    cases all
    exact .inl rfl
  | @step before after earlier run step ih =>
    cases all
    have founded := run.founded _ (List.mem_cons_self ..)
    have undertaken := run.closedByOne c
    have works : ∀ {t}, (before.tasks[t]?).any (Task.removes c) → before.Undertakes c t := by
      intro t removes
      obtain ⟨task, found, removes⟩ := (Option.any_eq_true _ _).1 removes
      exact .of_removes found removes
    have unique : ∀ t u : TaskId,
        decide ((before.tasks[t]?).any (Task.removes c) ∧ ¬ (after.tasks[t]?).any (Task.removes c)) = true →
        decide ((before.tasks[u]?).any (Task.removes c) ∧ ¬ (after.tasks[u]?).any (Task.removes c)) = true → t = u := by
      intro t u first second
      exact undertaken.one t u (works (of_decide_eq_true first).1).worked (works (of_decide_eq_true second).1).worked
    rcases filter_range_of_unique before.tasks.length unique with ⟨_, none⟩ | ⟨t, _, takes, own⟩
    · have same : System.removers c (after :: before :: earlier) = System.removers c (before :: earlier) :=
        (congrArg (System.removers c (before :: earlier) ++ ·) none).trans (List.append_nil _)
      rw [same]
      refine (ih rfl).imp_right fun ⟨t, only, worked, late⟩ => ⟨t, only, worked.later, step.hasRemoved founded late⟩
    · right
      obtain ⟨removes, done⟩ := of_decide_eq_true takes
      have worked : Undertook (before :: earlier) c t := (works removes).worked
      obtain ⟨task, found, removes⟩ := (Option.any_eq_true _ _).1 removes
      have nothing : System.removers c (before :: earlier) = [] := by
        rcases ih rfl with nothing | ⟨u, _, worked', late⟩
        · exact nothing
        · rw [undertaken.one u t worked' worked, found] at late
          exact absurd late (not_hasRemoved_of_removes removes)
      have only : System.removers c (after :: before :: earlier) = System.removers c (before :: earlier) ++ _ :=
        congrArg _ own
      refine ⟨t, ?_, worked.later, step.removed founded found removes done⟩
      rw [only, nothing]
      rfl

end System

end Fleetwire
