import Fleetwire.Proofs.Lifecycle.Entries

namespace Fleetwire

def Entering.seeksLifecycle : Entering → Bool
  | awaitLifecycle => true
  | p => p.holdsLifecycle

def Entering.seeksIdentity : Entering → Bool
  | awaitIdentity => true
  | p => p.holdsIdentity

def Entering.sought (p : Entering) (x : Life) : Option String := if p.seeksIdentity then x.identity? else none

def Leaving.seeksLifecycle : Leaving → Bool
  | awaitLifecycle => true
  | q => q.holdsLifecycle

def Lined (t u : TaskId) (x : Life) (p : Entering) (q : Leaving) : Prop :=
  ∀ m, m ∈ x.lock.members ↔ m = t ∧ p.seeksLifecycle ∨ m = u ∧ q.seeksLifecycle

/-- A connection that its supervisor has nothing left to do for is closed, or about to be closed in place. -/
def Concluded (x : Life) (p : Entering) (q : Leaving) : Prop :=
  x.closed → q = .serving ∨ q = .finished → p = .closing ∨ x.stage = .closed

def Deed.sought (before : Option String) : Deed → Option String
  | join identity => some identity
  | leave _ => none
  | _ => before

/-- Nobody comes to stand in two lines, or leaves one that it is not in. -/
structure Deed.Fair (before : Option String) (deed : Deed) : Prop where
  join : ∀ identity, deed = .join identity → before = none
  leave : ∀ identity, deed = .leave identity → before = some identity

theorem Deed.fair_of_other {before : Option String} {deed : Deed}
    (joins : ∀ identity, deed ≠ .join identity) (leaves : ∀ identity, deed ≠ .leave identity) :
    deed.Fair before :=
  ⟨fun identity same => absurd same (joins identity), fun identity same => absurd same (leaves identity)⟩

namespace Line

variable {Member : Type}

theorem mem_join {line : Line Member} {a b : Member} :
    a ∈ (line.join b).members ↔ a ∈ line.members ∨ a = b := by
  simp [join]

theorem exists_isHeldBy [DecidableEq Member] {line : Line Member} {a : Member} (h : a ∈ line.members) :
    ∃ b ∈ line.members, line.isHeldBy b := by
  obtain ⟨members⟩ := line
  cases members with
  | nil => cases h
  | cons b rest => exact ⟨b, List.mem_cons_self .., (isHeldBy_iff _ _).2 rfl⟩

end Line

variable {t u : TaskId} {x x' : Life} {p p' : Entering} {q q' : Leaving} {deed : Deed}

theorem Entering.Step.sought (step : p.Step t x deed x' p') :
    p'.sought x' = deed.sought (p.sought x) ∧ deed.Fair (p.sought x) := by
  have other : ∀ {deed : Deed}, (∀ identity, deed ≠ .join identity) →
      (∀ identity, deed ≠ .leave identity) → deed.Fair (p.sought x) := Deed.fair_of_other
  cases step with
  | queueIdentity known => exact ⟨known, fun _ _ => rfl, nofun⟩
  | @releaseIdentity identity entered known =>
    refine ⟨rfl, nofun, fun other same => ?_⟩
    cases same
    exact known
  | @conclude entered => cases entered <;> exact ⟨rfl, other nofun nofun⟩
  | _ => exact ⟨rfl, other nofun nofun⟩

theorem Leaving.Step.sought (step : q.Step u x deed x' q') :
    q'.identity? = deed.sought q.identity? ∧ deed.Fair q.identity? := by
  have other : ∀ {deed : Deed}, (∀ identity, deed ≠ .join identity) →
      (∀ identity, deed ≠ .leave identity) → deed.Fair q.identity? := Deed.fair_of_other
  cases step with
  | queueIdentity held known => exact ⟨rfl, fun _ _ => rfl, nofun⟩
  | releaseIdentity =>
    refine ⟨rfl, nofun, fun other same => ?_⟩
    cases same
    rfl
  | _ => exact ⟨rfl, other nofun nofun⟩

theorem Lined.accept (h : Lined t u x p q) (different : t ≠ u) (step : p.Step t x deed x' p') :
    Lined t u x' p' q := by
  intro m
  have before := h m
  cases step with
  | queueLifecycle =>
    rw [Line.mem_join, before]
    simp only [Entering.seeksLifecycle, Entering.holdsLifecycle, Bool.false_eq_true, and_false, false_or, and_true]
    exact or_comm
  | @conclude entered =>
    have silent : (if entered then Entering.admitted else .failed).seeksLifecycle = false := by
      cases entered <;> rfl
    rw [Line.mem_leave, before, silent]
    constructor
    · rintro ⟨own | other, elsewhere⟩
      · exact absurd own.1 elsewhere
      · exact .inr other
    · rintro (⟨_, never⟩ | ⟨rfl, seeks⟩)
      · cases never
      · exact ⟨.inr ⟨rfl, seeks⟩, different.symm⟩
  | _ => exact before

theorem Lined.supervise (h : Lined t u x p q) (different : t ≠ u) (step : q.Step u x deed x' q') :
    Lined t u x' p q' := by
  intro m
  have before := h m
  cases step with
  | queueLifecycle =>
    rw [Line.mem_join, before]
    simp only [Leaving.seeksLifecycle, Leaving.holdsLifecycle, Bool.false_eq_true, and_false, or_false, and_true]
  | releaseLifecycle =>
    rw [Line.mem_leave, before]
    constructor
    · rintro ⟨other | own, elsewhere⟩
      · exact .inl other
      · exact absurd own.1 elsewhere
    · rintro (⟨rfl, seeks⟩ | ⟨_, never⟩)
      · exact ⟨.inl ⟨rfl, seeks⟩, different⟩
      · cases never
  | _ => exact before

theorem Concluded.accept (h : Concluded x p q) (closable : Closable x p q) (step : p.Step t x deed x' p') :
    Concluded x' p' q := by
  intro closed ends
  cases step with
  | seize isOpen => exact .inl rfl
  | closeInPlace => exact .inr rfl
  | activate =>
    -- A registration that is under way has found its connection open, and keeps the teardown waiting.
    exfalso
    rcases ends with serving | finished
    · rcases closable.closer closed with begun | barred
      · exact begun serving
      · cases barred
    · subst finished
      cases closable.apart rfl
  | _ => exact .inr ((h closed ends).resolve_left nofun)

theorem Concluded.supervise (h : Concluded x p q) (step : q.Step u x deed x' q') : Concluded x' p q' := by
  intro closed ends
  cases step with
  | forgo shut => exact h shut (.inl rfl)
  | expire => exact .inr rfl
  | _ => exact absurd ends (by simp)

namespace Lifecycle

variable {fails : Report → Prop} {l l' : Lifecycle} {c : ConnectionId} {identity : String} {m : TaskId}

def sought (l : Lifecycle) (t : TaskId) : Option String :=
  match l.duty t with
  | .accept c p => (l.life c).bind p.sought
  | .supervise _ q => q.identity?
  | .none => none

theorem sought_of_accept (duty : l.duty t = .accept c p) (life : l.life c = some x) :
    l.sought t = p.sought x := by
  simp only [sought, duty, life, Option.bind_some]

theorem sought_of_supervise (duty : l.duty u = .supervise c q) : l.sought u = q.identity? := by
  simp only [sought, duty]

/-- Connections are as they should be, and in each line stand those who asked for the lock. -/
structure LinedUp (l : Lifecycle) : Prop extends Upright l where
  lined : ∀ {c : ConnectionId} {x : Life} {t u : TaskId} {p : Entering} {q : Leaving},
    l.Stands c x t p u q → Lined t u x p q
  concluded : ∀ {c : ConnectionId} {x : Life} {t u : TaskId} {p : Entering} {q : Leaving},
    l.Stands c x t p u q → Concluded x p q
  seekers : ∀ (t : TaskId) (identity : String), t ∈ (l.line identity).members ↔ l.sought t = some identity

theorem linedUp_blank : blank.LinedUp where
  toUpright := invariant_blank.upright
  lined h := nomatch h.life
  concluded h := nomatch h.life
  seekers t identity := by simp [blank, sought]

theorem Does.mem_other (does : l.Does fails t c deed l') (different : m ≠ t) :
    m ∈ (l'.line identity).members ↔ m ∈ (l.line identity).members := by
  cases does with
  | join other =>
    simp only [changeLine]
    split
    · simp [Line.mem_join, different]
    · rfl
  | leave other =>
    simp only [changeLine]
    split
    · simp [Line.mem_leave, different]
    · rfl
  | _ => rfl

theorem Does.mem_own {before : Option String} (does : l.Does fails t c deed l') (fair : deed.Fair before)
    (stood : ∀ identity, t ∈ (l.line identity).members ↔ before = some identity) :
    t ∈ (l'.line identity).members ↔ deed.sought before = some identity := by
  cases does with
  | join other =>
    simp only [changeLine, Deed.sought]
    by_cases same : identity = other
    · simp [same, Line.mem_join]
    · rw [if_neg same, stood, fair.join other rfl]
      simpa using Ne.symm same
  | leave other =>
    simp only [changeLine, Deed.sought]
    by_cases same : identity = other
    · simp [same, Line.mem_leave]
    · rw [if_neg same, stood, fair.leave other rfl]
      simpa using Ne.symm same
  | _ => exact stood identity

theorem Staffed.sought_arrive (staffed : l.Staffed) {c : ConnectionId} {t : TaskId} {life : Life}
    (new : l.life c = none) (idle : l.duty t = .none) (idle' : l.duty (t + 1) = .none) (m : TaskId) :
    (((l.setLife c life).setDuty t (.accept c .greeting)).setDuty (t + 1) (.supervise c .serving)).sought m =
      l.sought m := by
  simp only [sought, setDuty, setLife]
  by_cases supervisor : m = t + 1
  · simp [supervisor, idle', Leaving.identity?]
  · by_cases acceptor : m = t
    · simp [acceptor, idle, Entering.sought, Entering.seeksIdentity, Entering.holdsIdentity]
    · simp only [supervisor, acceptor, if_false]
      cases duty : l.duty m with
      | accept other p =>
        have old : other ≠ c := fun same => staffed.acceptor_living duty (same ▸ new)
        simp [old]
      | _ => rfl

theorem LinedUp.seekers_move (inv : l.LinedUp) (move : l.Move fails l') (m : TaskId) (identity : String) :
    m ∈ (l'.line identity).members ↔ l'.sought m = some identity := by
  cases move with
  | arrive c t addr policy new idle idle' =>
    rw [inv.staffed.sought_arrive new idle idle']
    exact inv.seekers m identity
  | @accept t c x x' p p' deed l₁ duty life step does =>
    by_cases own : m = t
    · subst own
      obtain ⟨after, fair⟩ := step.sought
      have stood := fun identity => inv.seekers m identity
      simp only [sought_of_accept duty life] at stood
      have sought' : ((l₁.setLife c x').setDuty m (.accept c p')).sought m = p'.sought x' := by
        simp [sought, setDuty, setLife]
      rw [sought', after]
      exact does.mem_own fair stood
    · have same : ((l₁.setLife c x').setDuty t (.accept c p')).sought m = l.sought m := by
        simp only [sought, setDuty, setLife, own, if_false, does.duty, does.life]
        cases other : l.duty m with
        | accept c' p₁ => simp [inv.staffed.life_of_other duty other own]
        | _ => rfl
      rw [same, ← inv.seekers]
      exact does.mem_other own
  | @supervise u c x x' q q' deed l₁ duty life step does =>
    by_cases own : m = u
    · subst own
      obtain ⟨after, fair⟩ := step.sought
      have stood := fun identity => inv.seekers m identity
      simp only [sought_of_supervise duty] at stood
      have sought' : ((l₁.setLife c x').setDuty m (.supervise c q')).sought m = q'.identity? := by
        simp [sought, setDuty]
      rw [sought', after]
      exact does.mem_own fair stood
    · have same : ((l₁.setLife c x').setDuty u (.supervise c q')).sought m = l.sought m := by
        simp only [sought, setDuty, setLife, own, if_false, does.duty, does.life]
        cases l.duty m with
        | accept c' p =>
          -- A teardown leaves its connection the identity that it has.
          dsimp only
          split
          next here => simp [here, life, Entering.sought, step.identity]
          next => rfl
        | _ => rfl
      rw [same, ← inv.seekers]
      exact does.mem_other own

theorem LinedUp.move (inv : l.LinedUp) (move : l.Move fails l') : l'.LinedUp := by
  refine ⟨inv.toUpright.move move, fun stands => ?_, fun stands => ?_, inv.seekers_move move⟩
  · cases inv.staffed.turn move stands with
    | new unknown fresh greeting serving told =>
      subst fresh greeting serving
      intro m
      simp [Entering.seeksLifecycle, Entering.holdsLifecycle, Leaving.seeksLifecycle, Leaving.holdsLifecycle]
    | other before told => exact inv.lined before
    | accept before step does result => exact (inv.lined before).accept before.acceptor_ne_supervisor step
    | supervise before step does result => exact (inv.lined before).supervise before.acceptor_ne_supervisor step
  · cases inv.staffed.turn move stands with
    | new unknown fresh greeting serving told =>
      subst fresh greeting serving
      intro closed
      cases closed
    | other before told => exact inv.concluded before
    | accept before step does result =>
      obtain ⟨told, sound⟩ := inv.sound before
      exact (inv.concluded before).accept sound.closable step
    | supervise before step does result => exact (inv.concluded before).supervise step

theorem LinedUp.lose (inv : l.LinedUp) (identity : String) : (l.setEntry identity none).LinedUp := by
  have stood : ∀ {c x t p u q}, (l.setEntry identity none).Stands c x t p u q → l.Stands c x t p u q :=
    fun h => ⟨h.life, h.accepts, h.supervises⟩
  refine ⟨⟨⟨inv.staffed.living, inv.staffed.staff, inv.staffed.unique⟩, fun h => inv.sound (stood h),
    fun {other c} entry => ?_⟩, fun h => inv.lined (stood h), fun h => inv.concluded (stood h), inv.seekers⟩
  have former : l.entry other = some c := by
    simp only [setEntry] at entry
    split at entry
    · cases entry
    · exact entry
  obtain ⟨x, t, p, u, q, stands, rest⟩ := inv.entries former
  exact ⟨x, t, p, u, q, ⟨stands.life, stands.accepts, stands.supervises⟩, rest⟩

end Lifecycle

def Entering.Waits (l : Lifecycle) (t : TaskId) (x : Life) : Entering → Prop
  | greeting | admitted | failed => True
  | awaitLifecycle => ¬ x.lock.isHeldBy t
  | awaitIdentity => ∀ identity, x.identity? = some identity → ¬ (l.line identity).isHeldBy t
  | _ => False

def Leaving.Waits (l : Lifecycle) (u : TaskId) (x : Life) : Leaving → Prop
  | serving | finished => True
  | awaitLifecycle => ¬ x.lock.isHeldBy u
  | awaitIdentity identity => ¬ (l.line identity).isHeldBy u
  | _ => False

namespace Lifecycle

variable {l : Lifecycle} {c : ConnectionId} {identity : String}

structure AtRest (l : Lifecycle) : Prop where
  accepts : ∀ {t : TaskId} {c : ConnectionId} {p : Entering} {x : Life},
    l.duty t = .accept c p → l.life c = some x → p.Waits l t x
  supervises : ∀ {u : TaskId} {c : ConnectionId} {q : Leaving} {x : Life},
    l.duty u = .supervise c q → l.life c = some x → q.Waits l u x

theorem AtRest.not_held (rest : l.AtRest) (staffed : l.Staffed) (seeks : l.sought t = some identity) :
    ¬ (l.line identity).isHeldBy t := by
  cases duty : l.duty t with
  | accept c p =>
    obtain ⟨x, life⟩ := Option.ne_none_iff_exists'.1 (staffed.acceptor_living duty)
    have waits := rest.accepts duty life
    rw [sought_of_accept duty life] at seeks
    cases p with
    | awaitIdentity => exact waits identity seeks
    | greeting | admitted | failed | awaitLifecycle => cases seeks
    | _ => exact waits.elim
  | supervise c q =>
    obtain ⟨x, life⟩ := Option.ne_none_iff_exists'.1 (staffed.supervisor_living duty)
    have waits := rest.supervises duty life
    rw [sought_of_supervise duty] at seeks
    cases q with
    | awaitIdentity other =>
      cases seeks
      exact waits
    | serving | finished | awaitLifecycle => cases seeks
    | _ => exact waits.elim
  | none =>
    simp only [sought, duty] at seeks
    cases seeks

theorem LinedUp.nobody_seeks (inv : l.LinedUp) (rest : l.AtRest) (t : TaskId) : l.sought t = none := by
  cases seeks : l.sought t with
  | none => rfl
  | some identity =>
    obtain ⟨first, stands, held⟩ := Line.exists_isHeldBy ((inv.seekers t identity).2 seeks)
    have firstSeeks := (inv.seekers first identity).1 stands
    exact absurd held (rest.not_held inv.staffed firstSeeks)

theorem LinedUp.nobody_lined (inv : l.LinedUp) (rest : l.AtRest) (stands : l.Stands c x t p u q) (m : TaskId) :
    m ∉ x.lock.members := by
  intro lined
  have acceptor := rest.accepts stands.accepts stands.life
  have supervisor := rest.supervises stands.supervises stands.life
  have quiet : p.sought x = none := sought_of_accept stands.accepts stands.life ▸ inv.nobody_seeks rest t
  have quiet' : q.identity? = none := sought_of_supervise stands.supervises ▸ inv.nobody_seeks rest u
  obtain ⟨first, lined, held⟩ := Line.exists_isHeldBy lined
  rcases (inv.lined stands first).1 lined with ⟨rfl, seeks⟩ | ⟨rfl, seeks⟩
  · cases p with
    | awaitLifecycle => exact acceptor held
    | awaitIdentity =>
      -- It has an identity, and would stand in that line.
      obtain ⟨told, sound⟩ := inv.sound stands
      have known : x.announced ≠ none := sound.introduced.known rfl
      simp only [Entering.sought, Entering.seeksIdentity, if_true, Life.identity?, Option.map_eq_none_iff] at quiet
      exact known quiet
    | greeting | admitted | failed => cases seeks
    | _ => exact acceptor.elim
  · cases q with
    | awaitLifecycle => exact supervisor held
    | awaitIdentity => cases quiet'
    | serving | finished => cases seeks
    | _ => exact supervisor.elim

/-- Nobody waits for a lock where nobody can go on. -/
theorem LinedUp.rests (inv : l.LinedUp) (rest : l.AtRest) (stands : l.Stands c x t p u q) :
    (p = .greeting ∨ p = .admitted ∨ p = .failed) ∧ (q = .serving ∨ q = .finished) := by
  have acceptor := rest.accepts stands.accepts stands.life
  have supervisor := rest.supervises stands.supervises stands.life
  have lined := inv.lined stands
  have alone := inv.nobody_lined rest stands
  have idle : p.seeksLifecycle = false := by
    cases seeks : p.seeksLifecycle with
    | false => rfl
    | true => exact absurd ((lined t).2 (.inl ⟨rfl, seeks⟩)) (alone t)
  have idle' : q.seeksLifecycle = false := by
    cases seeks : q.seeksLifecycle with
    | false => rfl
    | true => exact absurd ((lined u).2 (.inr ⟨rfl, seeks⟩)) (alone u)
  constructor
  · cases p with
    | greeting | admitted | failed => simp
    | awaitLifecycle | awaitIdentity => cases idle
    | _ => exact acceptor.elim
  · cases q with
    | serving | finished => simp
    | awaitLifecycle | awaitIdentity => cases idle'
    | _ => exact supervisor.elim

theorem LinedUp.gone (inv : l.LinedUp) (rest : l.AtRest) (stands : l.Stands c x t p u .finished) :
    x.stage = .closed ∧ ∀ identity, l.entry identity ≠ some c := by
  obtain ⟨told, sound⟩ := inv.sound stands
  constructor
  · rcases inv.concluded stands (sound.closable.closed nofun) (.inr rfl) with closing | closed
    · subst closing
      exact (rest.accepts stands.accepts stands.life).elim
    · exact closed
  · intro identity entry
    obtain ⟨x', t', p', u', q', stands', known, entered, present⟩ := inv.entries entry
    obtain ⟨rfl, rfl, rfl, rfl, rfl⟩ := inv.staffed.stands_unique stands stands'
    cases present

end Lifecycle

end Fleetwire
