import Fleetwire.Proofs.Lifecycle.Staff

namespace Fleetwire

namespace Line

variable {Member : Type} [DecidableEq Member]

theorem isHeldBy_join {line : Line Member} {a b : Member} (h : line.isHeldBy a) :
    (line.join b).isHeldBy a := admits_join h

theorem isHeldBy_leave {line : Line Member} {a b : Member} (h : line.isHeldBy a) (different : a ≠ b) :
    (line.leave b).isHeldBy a := by
  obtain ⟨members⟩ := line
  rw [isHeldBy_iff] at h ⊢
  obtain ⟨rest, rfl⟩ := List.head?_eq_some_iff.1 h
  simp [leave, different]

end Line

structure Introduced (x : Life) (p : Entering) (q : Leaving) : Prop where
  unknown : p = .greeting → x.announced = none
  known : p.introduced → x.announced ≠ none
  named : ∀ identity, x.identity? = some identity → identity ≠ ""
  leaving : ∀ identity, q.identity? = some identity → x.identity? = some identity

structure Guarded (t u : TaskId) (x : Life) (p : Entering) (q : Leaving) : Prop where
  acceptor : p.holdsLifecycle → x.lock.isHeldBy t
  supervisor : q.holdsLifecycle → x.lock.isHeldBy u

/-- It is closed once, by its supervisor, or in place after it has failed to register; the teardown comes to
nothing as long as a registration is under way. -/
structure Closable (x : Life) (p : Entering) (q : Leaving) : Prop where
  closed : q ≠ .serving → x.closed
  closer : x.closed → q ≠ .serving ∨ p.barred
  apart : q.pastLifecycle → p.registering = false
  ending : x.stage = .closed → q = .finished ∨ p.barred
  begun : p.activated → x.stage ≠ .initializing
  active : x.stage = .active → p.activated

def Life.course (x : Life) : List Report :=
  match x.announced with
  | none => []
  | some announced => [
    .markOnline announced.identity x.addr,
    .publish (.connected announced.identity announced.version x.addr),
    .markOffline announced.identity,
    .publish (.disconnected announced.identity x.addr)]

def Entering.count : Entering → Nat
  | announcing _ => 1
  | activating | releaseIdentity true | releaseLifecycle true | admitted => 2
  | _ => 0

def Leaving.Counts (p : Entering) (n : Nat) : Leaving → Prop
  | marking _ _ => n = 2 ∧ p.activated
  | announcing _ _ => n = 3 ∧ p.activated
  | releaseIdentity _ | releaseLifecycle | released | finished =>
    n = p.count ∨ n = 4 ∧ p.activated
  | serving | closing | awaitLifecycle | awaitIdentity _ => n = p.count

/-- It tells its reports in order, each at most once, and takes none back that it has not made. -/
structure Reported (x : Life) (p : Entering) (q : Leaving) (told : List Report) : Prop where
  arriving : ∀ report, p = .marking report ∨ p = .announcing report →
    x.course[p.count]? = some report
  departing : ∀ identity report, q = .marking identity report → x.course[2]? = some report
  departed : ∀ identity report, q = .announcing identity report → x.course[3]? = some report
  told : ∃ n, q.Counts p n ∧ told = x.course.take n

variable {t u : TaskId} {x x' : Life} {p p' : Entering} {q q' : Leaving} {deed : Deed}
  {told : List Report}

theorem Introduced.accept (h : Introduced x p q) (step : p.Step t x deed x' p') :
    Introduced x' p' q := by
  obtain ⟨unknown, known, named, leaving⟩ := h
  cases step with
  | introduce announced here =>
    refine ⟨fun h => (by cases h), fun _ => (by simp), ?_, ?_⟩
    · intro identity same
      cases same
      exact here
    · intro identity leaves
      have none : x.identity? = .none := congrArg _ (unknown rfl)
      rw [leaving identity leaves] at none
      cases none
  | @conclude entered =>
    refine ⟨?_, ?_, named, leaving⟩
    · cases entered <;> exact nofun
    · exact fun _ => known rfl
  | refuse | seize | closeInPlace =>
    exact ⟨nofun, nofun, named, leaving⟩
  | _ => exact ⟨nofun, fun _ => known rfl, named, leaving⟩

theorem Introduced.supervise (h : Introduced x p q) (step : q.Step u x deed x' q') :
    Introduced x' p q' := by
  obtain ⟨unknown, known, named, leaving⟩ := h
  cases step with
  | queueIdentity held here =>
    refine ⟨unknown, known, named, ?_⟩
    intro identity leaves
    cases leaves
    exact here
  | remove | pass | markOffline | announce => exact ⟨unknown, known, named, leaving⟩
  | _ => exact ⟨unknown, known, named, fun identity leaves => (nomatch leaves)⟩

theorem Guarded.accept (h : Guarded t u x p q) (different : t ≠ u) (step : p.Step t x deed x' p') :
    Guarded t u x' p' q := by
  obtain ⟨acceptor, supervisor⟩ := h
  cases step with
  | queueLifecycle =>
    exact ⟨nofun, fun h => Line.isHeldBy_join (supervisor h)⟩
  | findClosed held | findOpen held => exact ⟨fun _ => held, supervisor⟩
  | @conclude entered =>
    refine ⟨?_, fun h => Line.isHeldBy_leave (supervisor h) different.symm⟩
    cases entered <;> exact nofun
  | introduce | refuse | seize | closeInPlace => exact ⟨nofun, supervisor⟩
  | _ => exact ⟨fun _ => acceptor rfl, supervisor⟩

theorem Guarded.supervise (h : Guarded t u x p q) (different : t ≠ u) (step : q.Step u x deed x' q') :
    Guarded t u x' p q' := by
  obtain ⟨acceptor, supervisor⟩ := h
  cases step with
  | queueLifecycle =>
    exact ⟨fun h => Line.isHeldBy_join (acceptor h), nofun⟩
  | skip held | queueIdentity held => exact ⟨acceptor, fun _ => held⟩
  | releaseLifecycle =>
    exact ⟨fun h => Line.isHeldBy_leave (acceptor h) different, nofun⟩
  | forgo | close | expire => exact ⟨acceptor, nofun⟩
  | _ => exact ⟨acceptor, fun _ => supervisor rfl⟩

theorem Entering.holdsLifecycle_of_registering (h : p.registering) : p.holdsLifecycle := by
  cases p <;> first | rfl | cases h

theorem Guarded.not_registering (h : Guarded t u x p q) (different : t ≠ u) (held : x.lock.isHeldBy u) :
    p.registering = false := by
  cases registering : p.registering with
  | false => rfl
  | true =>
    have acceptor := h.acceptor (Entering.holdsLifecycle_of_registering registering)
    exact absurd (Line.isHeldBy_unique acceptor held) different

theorem Closable.barred (h : Closable x p q) (ended : x.stage = .closed) (unfinished : q ≠ .finished) :
    p.barred :=
  (h.ending ended).resolve_left unfinished

theorem Closable.accept (h : Closable x p q) (step : p.Step t x deed x' p') : Closable x' p' q := by
  obtain ⟨closed, closer, apart, ending, begun, active⟩ := h
  have stopped : q.pastLifecycle → q ≠ .serving := fun past same => by rw [same] at past; cases past
  cases step with
  | findOpen held isOpen =>
    refine ⟨closed, fun shut => ?_, fun past => ?_, ending, begun, active⟩
    · rw [isOpen] at shut
      cases shut
    · have shut := closed (stopped past)
      rw [isOpen] at shut
      cases shut
  | activate =>
    have before : q.pastLifecycle → False := fun past => nomatch apart past
    refine ⟨closed, closer, fun _ => rfl, ?_, fun _ => ?_, fun _ => rfl⟩
    · exact nofun
    · exact nofun
  | seize isOpen =>
    exact ⟨fun _ => rfl, fun _ => Or.inr rfl, fun _ => rfl, ending, nofun,
      (fun h => nomatch active h)⟩
  | closeInPlace =>
    exact ⟨closed, fun _ => Or.inr rfl, fun _ => rfl, fun _ => Or.inr rfl, nofun,
      nofun⟩
  | @conclude entered =>
    cases entered with
    | false =>
      exact ⟨closed, fun shut => Or.inr rfl, fun _ => rfl, fun _ => Or.inr rfl, nofun,
        (fun h => nomatch active h)⟩
    | true => exact ⟨closed, closer, fun _ => rfl, ending, begun, active⟩
  | refuse =>
    exact ⟨closed, fun _ => Or.inr rfl, fun _ => rfl, fun _ => Or.inr rfl, nofun,
      (fun h => nomatch active h)⟩
  | @releaseIdentity identity entered known =>
    cases entered <;> exact ⟨closed, closer, fun _ => rfl, ending, begun, active⟩
  | introduce | queueLifecycle | findClosed | yield =>
    exact ⟨closed, closer, fun _ => rfl, ending, nofun, (fun h => nomatch active h)⟩
  | queueIdentity | enter | markOnline | announce =>
    exact ⟨closed, closer, apart, ending, begun, active⟩

theorem Closable.supervise (h : Closable x p q) (different : t ≠ u) (guarded : Guarded t u x p q)
    (step : q.Step u x deed x' q') : Closable x' p q' := by
  have barred := h.barred
  obtain ⟨closed, closer, apart, ending, begun, active⟩ := h
  cases step with
  | forgo shut =>
    -- Only a failed acceptance closes its connection before the supervisor does.
    have barred : p.barred := by
      rcases closer shut with serving | barred
      · exact absurd rfl serving
      · exact barred
    refine ⟨fun _ => shut, fun _ => Or.inr barred, fun _ => ?_, fun _ => Or.inl rfl, begun, active⟩
    cases p <;> first | rfl | cases barred
  | close =>
    exact ⟨fun _ => rfl, fun _ => Or.inl nofun, nofun, fun ended => Or.inr (barred ended nofun), begun,
      active⟩
  | expire =>
    exact ⟨fun _ => closed nofun, fun _ => Or.inl nofun, apart,
      fun _ => Or.inl rfl, (fun _ h => nomatch h), nofun⟩
  | skip held | queueIdentity held =>
    -- The lifecycle lock keeps the teardown apart from a registration.
    have free := guarded.not_registering different held
    exact ⟨fun _ => closed nofun, fun _ => Or.inl nofun, fun _ => free,
      fun ended => Or.inr (barred ended nofun), begun, active⟩
  | _ =>
    exact ⟨fun _ => closed nofun, fun _ => Or.inl nofun, apart,
      fun ended => Or.inr (barred ended nofun), begun, active⟩

theorem Entering.count_of_activated (h : p.activated) : p.count = 2 := by
  cases p with
  | releaseIdentity done | releaseLifecycle done =>
    cases done with
    | false => cases h
    | true => rfl
  | admitted => rfl
  | _ => cases h

theorem Entering.Step.activated (step : p.Step t x deed x' p') (h : p.activated) :
    p'.activated ∧ deed.told = [] ∧ x'.course = x.course := by
  cases step with
  | @releaseIdentity identity entered known =>
    cases entered with
    | false => cases h
    | true => exact ⟨rfl, rfl, rfl⟩
  | @conclude entered =>
    cases entered with
    | false => cases h
    | true => exact ⟨rfl, rfl, rfl⟩
  | _ => cases h

theorem Entering.Step.count (step : p.Step t x deed x' p') :
    p'.count = p.count + deed.told.length := by
  cases step with
  | @releaseIdentity identity entered known => cases entered <;> rfl
  | @conclude entered => cases entered <;> rfl
  | _ => rfl

theorem Life.course_take_succ {n : Nat} {report : Report} (next : x.course[n]? = some report) :
    x.course.take n ++ [report] = x.course.take (n + 1) := by
  rw [List.take_add_one, next]
  rfl

theorem Leaving.Counts.accept {n : Nat} (h : q.Counts p n) (step : p.Step t x deed x' p') :
    q.Counts p' (n + deed.told.length) := by
  have late : p.activated → p'.activated ∧ deed.told.length = 0 := fun activated => by
    obtain ⟨stays, silent, _⟩ := step.activated activated
    exact ⟨stays, by rw [silent]; rfl⟩
  have count := step.count
  cases q with
  | marking identity report | announcing identity report =>
    obtain ⟨stays, silent⟩ := late h.2
    exact ⟨by rw [silent]; exact h.1, stays⟩
  | releaseIdentity identity | releaseLifecycle | released | finished =>
    rcases h with same | ⟨all, activated⟩
    · exact Or.inl (by rw [same, count])
    · obtain ⟨stays, silent⟩ := late activated
      exact Or.inr ⟨by rw [silent]; exact all, stays⟩
  | serving | closing | awaitLifecycle | awaitIdentity identity =>
    exact Eq.trans (congrArg (· + _) h) count.symm

theorem Leaving.Counts.eq_count {n : Nat} (h : q.Counts p n) (early : p.activated = false) :
    n = p.count := by
  have never : ¬ p.activated = true := by rw [early]; exact nofun
  cases q with
  | marking identity report | announcing identity report => exact absurd h.2 never
  | releaseIdentity identity | releaseLifecycle | released | finished =>
    rcases h with same | ⟨_, activated⟩
    · exact same
    · exact absurd activated never
  | serving | closing | awaitLifecycle | awaitIdentity identity => exact h

theorem Life.course_of_identity {identity : String} (known : x.identity? = some identity) :
    x.course[0]? = some (.markOnline identity x.addr) ∧ x.course[2]? = some (.markOffline identity) ∧
      x.course[3]? = some (.publish (.disconnected identity x.addr)) := by
  obtain ⟨announced, here, rfl⟩ := Option.map_eq_some_iff.1 known
  simp [Life.course, here]

theorem Reported.accept (h : Reported x p q told) (step : p.Step t x deed x' p') :
    Reported x' p' q (told ++ deed.told) := by
  obtain ⟨arriving, departing, departed, n, counts, rfl⟩ := h
  have counts' := counts.accept step
  cases step with
  | introduce announced named =>
    have nothing : n = 0 := counts.eq_count rfl
    subst nothing
    refine ⟨nofun, ?_, ?_, 0, counts', rfl⟩
    · rintro identity report rfl
      cases counts.2
    · rintro identity report rfl
      cases counts.2
  | enter known =>
    refine ⟨?_, departing, departed, n, counts', List.append_nil _⟩
    rintro report (same | same) <;> cases same
    exact (Life.course_of_identity known).1
  | @markOnline report announced known =>
    refine ⟨?_, departing, departed, n + 1, counts', ?_⟩
    · rintro report' (same | same) <;> cases same
      simp [Life.course, known, Entering.count]
    · rw [counts.eq_count rfl]
      exact Life.course_take_succ (arriving report (Or.inl rfl))
  | @announce report =>
    refine ⟨nofun, departing, departed, n + 1, counts', ?_⟩
    rw [counts.eq_count rfl]
    exact Life.course_take_succ (arriving report (Or.inr rfl))
  | @conclude entered =>
    refine ⟨?_, departing, departed, n, counts', List.append_nil _⟩
    cases entered <;> exact nofun
  | _ => exact ⟨nofun, departing, departed, n, counts', List.append_nil _⟩

theorem Entering.activated_of_entered (entered : p.entered) (settled : p.registering = false) :
    p.activated := by
  cases p with
  | releaseIdentity done | releaseLifecycle done => cases done <;> exact entered
  | marking | announcing | activating => cases settled
  | _ => exact entered

theorem Reported.supervise (h : Reported x p q told) (introduced : Introduced x p q)
    (closable : Closable x p q) (own : ∀ identity, deed = .remove identity → p.entered)
    (step : q.Step u x deed x' q') : Reported x' p q' (told ++ deed.told) := by
  obtain ⟨arriving, departing, departed, n, counts, rfl⟩ := h
  cases step with
  | @remove identity =>
    -- The connection has its entry and no registration is under way, so both its arrival's reports were told.
    have entered := own identity rfl
    have activated := Entering.activated_of_entered entered (closable.apart rfl)
    have known := introduced.leaving identity rfl
    have all : n = 2 := by rw [show n = p.count from counts, Entering.count_of_activated activated]
    refine ⟨arriving, ?_, nofun, n, ⟨all, activated⟩, List.append_nil _⟩
    rintro identity' report same
    cases same
    exact (Life.course_of_identity known).2.1
  | @markOffline identity report =>
    obtain ⟨rfl, activated⟩ := counts
    have known := introduced.leaving identity rfl
    refine ⟨arriving, nofun, ?_, 3, ⟨rfl, activated⟩, ?_⟩
    · rintro identity' report' same
      cases same
      exact (Life.course_of_identity known).2.2
    · exact Life.course_take_succ (departing identity report rfl)
  | @announce identity report =>
    obtain ⟨rfl, activated⟩ := counts
    refine ⟨arriving, nofun, nofun, 4, Or.inr ⟨rfl, activated⟩, ?_⟩
    exact Life.course_take_succ (departed identity report rfl)
  | forgo | skip | pass =>
    exact ⟨arriving, nofun, nofun, n, Or.inl counts, List.append_nil _⟩
  | _ => exact ⟨arriving, nofun, nofun, n, counts, List.append_nil _⟩

/-- What is always true of one connection. -/
structure Sound (x : Life) (t : TaskId) (p : Entering) (u : TaskId) (q : Leaving)
    (told : List Report) : Prop where
  introduced : Introduced x p q
  guarded : Guarded t u x p q
  closable : Closable x p q
  reported : Reported x p q told

theorem Sound.accept (h : Sound x t p u q told) (different : t ≠ u) (step : p.Step t x deed x' p') :
    Sound x' t p' u q (told ++ deed.told) :=
  ⟨h.introduced.accept step, h.guarded.accept different step, h.closable.accept step,
    h.reported.accept step⟩

theorem Sound.supervise (h : Sound x t p u q told) (different : t ≠ u)
    (own : ∀ identity, deed = .remove identity → p.entered) (step : q.Step u x deed x' q') :
    Sound x' t p u q' (told ++ deed.told) :=
  ⟨h.introduced.supervise step, h.guarded.supervise different step,
    h.closable.supervise different h.guarded step,
    h.reported.supervise h.introduced h.closable own step⟩

section UnderWay

variable {report : Report} {identity : String}

theorem Sound.marking_eq (h : Sound x t (.marking report) u q told) :
    ∃ announced, x.announced = some announced ∧
      report = .markOnline announced.identity x.addr := by
  obtain ⟨announced, known⟩ := Option.ne_none_iff_exists'.1 (h.introduced.known rfl)
  have first := h.reported.arriving report (Or.inl rfl)
  rw [Life.course, known] at first
  exact ⟨announced, known, (Option.some.inj first).symm⟩

theorem Sound.announcing_eq (h : Sound x t (.announcing report) u q told) :
    ∃ announced, x.announced = some announced ∧
      report = .publish (.connected announced.identity announced.version x.addr) := by
  obtain ⟨announced, known⟩ := Option.ne_none_iff_exists'.1 (h.introduced.known rfl)
  have second := h.reported.arriving report (Or.inr rfl)
  rw [Life.course, known] at second
  exact ⟨announced, known, (Option.some.inj second).symm⟩

theorem Sound.unmarking_eq (h : Sound x t p u (.marking identity report) told) :
    report = .markOffline identity := by
  have third := h.reported.departing identity report rfl
  rw [(Life.course_of_identity (h.introduced.leaving identity rfl)).2.1] at third
  exact (Option.some.inj third).symm

theorem Sound.unannouncing_eq (h : Sound x t p u (.announcing identity report) told) :
    report = .publish (.disconnected identity x.addr) := by
  have last := h.reported.departed identity report rfl
  rw [(Life.course_of_identity (h.introduced.leaving identity rfl)).2.2] at last
  exact (Option.some.inj last).symm

end UnderWay

theorem sound_new (addr : Endpoint) (policy : DuplicatePolicy) (t u : TaskId) :
    Sound { addr, policy } t .greeting u .serving [] := by
  refine ⟨⟨fun _ => rfl, nofun, nofun, nofun⟩, ⟨nofun, nofun⟩, ⟨?_, nofun, nofun, nofun, nofun, nofun⟩,
    ⟨nofun, nofun, nofun, 0, rfl, rfl⟩⟩
  exact fun h => absurd rfl h

end Fleetwire
