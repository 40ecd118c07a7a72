import Fleetwire.Proofs.Lifecycle.Sound

namespace Fleetwire

def Leaving.removes? : Leaving → Option String
  | marking identity _ | announcing identity _ => some identity
  | _ => none

theorem Leaving.present_of_not_past {q : Leaving} (h : q.pastLifecycle = false) : q.present := by
  cases q <;> first | rfl | cases h

theorem Entering.not_entered_of_barred {p : Entering} (h : p.barred) : p.entered = false := by
  cases p <;> first | rfl | cases h

theorem Entering.Step.entered {t : TaskId} {x x' : Life} {p p' : Entering} {deed : Deed}
    (step : p.Step t x deed x' p') (entered : p.entered) :
    p'.entered ∧ x'.identity? = x.identity? := by
  cases step with
  | @releaseIdentity identity done known => exact ⟨by cases done <;> exact entered, rfl⟩
  | @conclude done => exact ⟨by cases done <;> exact entered, rfl⟩
  | markOnline | announce | activate => exact ⟨rfl, rfl⟩
  | _ => cases entered

theorem Leaving.Step.identity {u : TaskId} {x x' : Life} {q q' : Leaving} {deed : Deed}
    (step : q.Step u x deed x' q') : x'.identity? = x.identity? := by
  cases step <;> rfl

namespace Lifecycle

inductive Holds (l : Lifecycle) (t : TaskId) (identity : String) : Prop where
  | accept {c : ConnectionId} {x : Life} {p : Entering} (duty : l.duty t = .accept c p)
    (life : l.life c = some x) (phase : p.holdsIdentity) (known : x.identity? = some identity)
  | supervise {c : ConnectionId} {q : Leaving} (duty : l.duty t = .supervise c q)
    (phase : q.holds? = some identity)

structure Invariant (l : Lifecycle) : Prop where
  staffed : l.Staffed
  silent : ∀ {c : ConnectionId}, l.life c = none → l.toldBy c = []
  sound : ∀ {c : ConnectionId} {x : Life} {t u : TaskId} {p : Entering} {q : Leaving},
    l.Stands c x t p u q → Sound x t p u q (l.toldBy c)
  locked : ∀ {t : TaskId} {identity : String}, l.Holds t identity → (l.line identity).isHeldBy t
  entries : ∀ {identity : String} {c : ConnectionId}, l.entry identity = some c →
    ∃ x t p u q, l.Stands c x t p u q ∧ x.identity? = some identity ∧ p.entered ∧ q.present
  entered : ∀ {c : ConnectionId} {x : Life} {t u : TaskId} {p : Entering} {q : Leaving}
    {identity : String}, l.Stands c x t p u q → p.holdsIdentity → p.entered →
    x.identity? = some identity → l.entry identity = some c
  removed : ∀ {c : ConnectionId} {x : Life} {t u : TaskId} {p : Entering} {q : Leaving}
    {identity : String}, l.Stands c x t p u q → q.removes? = some identity → l.entry identity = none

theorem invariant_blank : blank.Invariant where
  staffed := staffed_blank
  silent _ := rfl
  sound h := nomatch h.life
  locked h := by
    cases h with
    | accept duty life phase known => cases duty
    | supervise duty phase => cases duty
  entries h := nomatch h
  entered h := nomatch h.life
  removed h := nomatch h.life

variable {fails : Report → Prop} {l l' : Lifecycle} {c : ConnectionId} {x x' : Life} {t u : TaskId}
  {p p' : Entering} {q q' : Leaving} {deed : Deed} {identity : String}

theorem Invariant.holder_unique (inv : l.Invariant) (h : l.Holds t identity) (h' : l.Holds u identity) :
    t = u :=
  Line.isHeldBy_unique (inv.locked h) (inv.locked h')

theorem not_holds_of_accept (duty : l.duty t = .accept c p) (free : p.holdsIdentity = false) :
    ¬ l.Holds t identity := by
  intro h
  cases h with
  | accept duty' life phase known =>
    rw [duty] at duty'
    cases duty'
    rw [free] at phase
    cases phase
  | supervise duty' phase =>
    rw [duty] at duty'
    cases duty'

theorem not_holds_of_supervise (duty : l.duty t = .supervise c q) (free : q.holds? = none) :
    ¬ l.Holds t identity := by
  intro h
  cases h with
  | accept duty' life phase known =>
    rw [duty] at duty'
    cases duty'
  | supervise duty' phase =>
    rw [duty] at duty'
    cases duty'
    rw [free] at phase
    cases phase

theorem Does.isHeldBy (does : l.Does fails t c deed l') (different : u ≠ t)
    (held : (l.line identity).isHeldBy u) : (l'.line identity).isHeldBy u := by
  cases does with
  | join other =>
    simp only [changeLine]
    split
    · exact Line.isHeldBy_join held
    · exact held
  | leave other =>
    simp only [changeLine]
    split
    · exact Line.isHeldBy_leave held different
    · exact held
  | _ => exact held

theorem locked_accept (inv : l.Invariant) (duty : l.duty t = .accept c p) (life : l.life c = some x)
    (step : p.Step t x deed x' p') (does : l.Does fails t c deed l') (phase : p'.holdsIdentity)
    (known : x'.identity? = some identity) : (l'.line identity).isHeldBy t := by
  cases step with
  | enter known' =>
    rw [known'] at known
    cases known
    cases does with
    | enter held free => exact held
  | yield known' =>
    rw [known'] at known
    cases known
    cases does with
    | yield held => exact held
  | markOnline | announce | activate =>
    cases does
    exact inv.locked (.accept duty life rfl known)
  | @conclude entered => cases entered <;> cases phase
  | _ => cases phase

theorem locked_supervise (inv : l.Invariant) (duty : l.duty t = .supervise c q)
    (step : q.Step t x deed x' q') (does : l.Does fails t c deed l') (phase : q'.holds? = some identity) :
    (l'.line identity).isHeldBy t := by
  cases step with
  | remove =>
    cases phase
    cases does with
    | remove held holder => exact held
  | pass =>
    cases phase
    cases does with
    | pass held other => exact held
  | markOffline | announce =>
    cases does
    exact inv.locked (.supervise duty phase)
  | _ => cases phase

theorem Staffed.life_of_other (staffed : l.Staffed) {c₀ : ConnectionId} {t₀ : TaskId} {p₀ : Entering}
    (duty₀ : l.duty t₀ = .accept c₀ p₀) (duty : l.duty t = .accept c p) (different : t ≠ t₀) :
    c ≠ c₀ := by
  intro same
  subst same
  exact different (staffed.acceptor_unique duty duty₀)

theorem Invariant.locked_move (inv : l.Invariant) (move : l.Move fails l') (h : l'.Holds t identity) :
    (l'.line identity).isHeldBy t := by
  cases move with
  | arrive c₀ t₀ addr policy new idle idle' =>
    refine inv.locked ?_
    cases h with
    | @accept c x p duty life phase known =>
      simp only [setDuty, setLife] at duty life
      split at duty
      · cases duty
      · split at duty
        · cases duty
          cases phase
        · have old : c ≠ c₀ := fun same =>
            inv.staffed.acceptor_living duty (same ▸ new)
          simp only [old, if_false] at life
          exact .accept duty life phase known
    | supervise duty phase =>
      simp only [setDuty] at duty
      split at duty
      · cases duty
        cases phase
      · split at duty
        · cases duty
        · exact .supervise duty phase
  | @accept t₀ c₀ x₀ x₁ p₀ p₁ deed l₁ duty₀ life₀ step does =>
    cases h with
    | @accept c x p duty life phase known =>
      simp only [setDuty, setLife, does.duty, does.life] at duty life
      split at duty
      next same =>
        cases duty
        simp only [if_true, Option.some.injEq] at life
        subst same life
        have held := locked_accept inv duty₀ life₀ step does phase known
        exact held
      next different =>
        have elsewhere := inv.staffed.life_of_other duty₀ duty different
        simp only [elsewhere, if_false] at life
        exact does.isHeldBy different (inv.locked (.accept duty life phase known))
    | supervise duty phase =>
      simp only [setDuty, setLife, does.duty] at duty
      split at duty
      · cases duty
      next different => exact does.isHeldBy different (inv.locked (.supervise duty phase))
  | @supervise t₀ c₀ x₀ x₁ q₀ q₁ deed l₁ duty₀ life₀ step does =>
    cases h with
    | @accept c x p duty life phase known =>
      simp only [setDuty, setLife, does.duty, does.life] at duty life
      split at duty
      · cases duty
      next different =>
        have held : l.Holds t identity := by
          split at life
          next same =>
            cases life
            subst same
            exact .accept duty life₀ phase (step.identity ▸ known)
          next => exact .accept duty life phase known
        exact does.isHeldBy different (inv.locked held)
    | supervise duty phase =>
      simp only [setDuty, setLife, does.duty] at duty
      split at duty
      next same =>
        cases duty
        subst same
        have held := locked_supervise inv duty₀ step does phase
        exact held
      next different => exact does.isHeldBy different (inv.locked (.supervise duty phase))

theorem Move.entry (move : l.Move fails l') (identity : String) :
    l'.entry identity = l.entry identity ∨
      ∃ t, (l.line identity).isHeldBy t ∧ ¬ l.Holds t identity := by
  cases move with
  | arrive => exact Or.inl rfl
  | accept duty life step does =>
    cases does with
    | @enter other policy held free =>
      by_cases same : identity = other
      · subst same
        cases step
        exact Or.inr ⟨_, held, not_holds_of_accept duty rfl⟩
      · simp [setDuty, setLife, setEntry, same]
    | remove held holder => cases step
    | _ => exact Or.inl rfl
  | supervise duty life step does =>
    cases does with
    | enter held free => cases step
    | @remove other held holder =>
      by_cases same : identity = other
      · subst same
        cases step
        exact Or.inr ⟨_, held, not_holds_of_supervise duty rfl⟩
      · simp [setDuty, setLife, setEntry, same]
    | _ => exact Or.inl rfl

theorem Invariant.entry_of_holds (inv : l.Invariant) (move : l.Move fails l') (h : l.Holds t identity) :
    l'.entry identity = l.entry identity := by
  rcases move.entry identity with same | ⟨other, held, idle⟩
  · exact same
  · have same := Line.isHeldBy_unique (inv.locked h) held
    subst same
    exact absurd h idle

theorem Move.entry_some (move : l.Move fails l') (h : l'.entry identity = some c) :
    l.entry identity = some c ∨ ∃ t x, l.duty t = .accept c .awaitIdentity ∧ l.life c = some x ∧
      x.identity? = some identity ∧ l'.life c = some x ∧
      l'.duty t = .accept c (.marking (.markOnline identity x.addr)) := by
  cases move with
  | arrive => exact Or.inl h
  | @accept t₀ c₀ x₀ x₁ p₀ p₁ deed l₁ duty₀ life₀ step does =>
    cases does with
    | @enter other policy held free =>
      cases step with
      | enter known =>
        by_cases same : identity = other
        · subst same
          simp only [setDuty, setLife, setEntry, if_true, Option.some.injEq] at h
          subst h
          exact Or.inr ⟨t₀, x₀, duty₀, life₀, known, by simp [setDuty, setLife], by simp [setDuty]⟩
        · simp only [setDuty, setLife, setEntry, same, if_false] at h
          exact Or.inl h
    | remove held holder => cases step
    | _ => exact Or.inl h
  | @supervise t₀ c₀ x₀ x₁ q₀ q₁ deed l₁ duty₀ life₀ step does =>
    cases does with
    | enter held free => cases step
    | @remove other held holder =>
      by_cases same : identity = other
      · subst same
        simp [setDuty, setLife, setEntry] at h
      · simp only [setDuty, setLife, setEntry, same, if_false] at h
        exact Or.inl h
    | _ => exact Or.inl h

/-- Every connection is as it should be, and an entry leads to one that has registered under the identity and
has not been taken down. It stays so also where others take entries out of the directory. -/
structure Upright (l : Lifecycle) : Prop where
  staffed : l.Staffed
  sound : ∀ {c : ConnectionId} {x : Life} {t u : TaskId} {p : Entering} {q : Leaving},
    l.Stands c x t p u q → ∃ told, Sound x t p u q told
  entries : ∀ {identity : String} {c : ConnectionId}, l.entry identity = some c →
    ∃ x t p u q, l.Stands c x t p u q ∧ x.identity? = some identity ∧ p.entered ∧ q.present

theorem Invariant.upright (inv : l.Invariant) : l.Upright :=
  ⟨inv.staffed, fun stands => ⟨_, inv.sound stands⟩, inv.entries⟩

theorem Upright.present_move (inv : l.Upright) (stands : l.Stands c x t p u q)
    (known : x.identity? = some identity) (entered : p.entered) (present : q.present)
    (step : q.Step u x deed x' q') (does : l.Does fails u c deed l') (h : l'.entry identity = some c) :
    q'.present := by
  obtain ⟨told, sound⟩ := inv.sound stands
  cases step with
  | forgo closed =>
    rcases sound.closable.closer closed with serving | barred
    · exact absurd rfl serving
    · rw [Entering.not_entered_of_barred barred] at entered
      cases entered
  | skip held unknown =>
    rw [known] at unknown
    cases unknown
  | @remove other =>
    have same := sound.introduced.leaving other rfl
    rw [known] at same
    cases same
    cases does
    simp [setEntry] at h
  | @pass other =>
    have same := sound.introduced.leaving other rfl
    rw [known] at same
    cases same
    cases does with
    | pass held elsewhere => exact absurd h elsewhere
  | close | queueLifecycle | queueIdentity => rfl
  | _ => cases present

theorem Upright.own (inv : l.Upright) (stands : l.Stands c x t p u q) (does : l.Does fails u c deed l')
    (identity : String) (removes : deed = .remove identity) : p.entered := by
  subst removes
  cases does with
  | remove held holder =>
    obtain ⟨x₁, t₁, p₁, u₁, q₁, stands₁, known, entered, present⟩ := inv.entries holder
    obtain ⟨rfl, rfl, rfl, rfl, rfl⟩ := inv.staffed.stands_unique stands stands₁
    exact entered

theorem Upright.entries_move (inv : l.Upright) (staffed : l'.Staffed) (move : l.Move fails l')
    (h : l'.entry identity = some c) :
    ∃ x t p u q, l'.Stands c x t p u q ∧ x.identity? = some identity ∧ p.entered ∧ q.present := by
  -- The entry was there before, or the connection's own acceptance has just made it.
  rcases move.entry_some h with former | ⟨t, x, duty, life, known, life', duty'⟩
  · obtain ⟨x, t, p, u, q, stands, known, entered, present⟩ := inv.entries former
    obtain ⟨x', life', _⟩ := move.life stands.life
    obtain ⟨t', p', u', q', stands'⟩ := staffed.stands life'
    refine ⟨x', t', p', u', q', stands', ?_⟩
    cases inv.staffed.turn move stands' with
    | new unknown =>
      rw [stands.life] at unknown
      cases unknown
    | other before =>
      obtain ⟨rfl, rfl, rfl, rfl, rfl⟩ := inv.staffed.stands_unique stands before
      exact ⟨known, entered, present⟩
    | accept before step does result =>
      obtain ⟨rfl, rfl, rfl, rfl, rfl⟩ := inv.staffed.stands_unique stands before
      obtain ⟨entered', same⟩ := step.entered entered
      exact ⟨same.trans known, entered', present⟩
    | supervise before step does result =>
      obtain ⟨rfl, rfl, rfl, rfl, rfl⟩ := inv.staffed.stands_unique stands before
      rw [result] at h
      exact ⟨step.identity.trans known, entered, inv.present_move stands known entered present step does h⟩
  · obtain ⟨t', p', u', q', stands'⟩ := staffed.stands life'
    have acceptor := staffed.acceptor_unique duty' stands'.accepts
    subst acceptor
    have phase := stands'.accepts
    rw [duty'] at phase
    cases phase
    refine ⟨x, t, _, u', q', stands', known, rfl, ?_⟩
    cases inv.staffed.turn move stands' with
    | new unknown fresh greeting => cases greeting
    | other before =>
      have phase := before.accepts
      rw [duty] at phase
      cases phase
    | accept before step does result =>
      have phase := before.accepts
      rw [duty] at phase
      cases phase
      -- The acceptance has the lifecycle lock, so a teardown has not come to it.
      apply Leaving.present_of_not_past
      obtain ⟨told, sound⟩ := inv.sound before
      cases past : q'.pastLifecycle with
      | false => rfl
      | true => cases sound.closable.apart past
    | supervise before step does result =>
      have phase := before.accepts
      rw [duty] at phase
      cases phase

theorem Invariant.entered_move (inv : l.Invariant) (move : l.Move fails l')
    (stands : l'.Stands c x' t p' u q') (phase : p'.holdsIdentity) (entered : p'.entered)
    (known : x'.identity? = some identity) : l'.entry identity = some c := by
  cases inv.staffed.turn move stands with
  | new unknown fresh greeting serving told =>
    subst greeting
    cases phase
  | other before told =>
    rw [inv.entry_of_holds move (.accept before.accepts before.life phase known)]
    exact inv.entered before phase entered known
  | accept before step does result =>
    cases step with
    | enter known' =>
      rw [known'] at known
      cases known
      cases does
      rw [result]
      simp [setDuty, setLife, setEntry]
    | markOnline | announce | activate =>
      rw [inv.entry_of_holds move (.accept before.accepts before.life rfl known)]
      exact inv.entered before rfl rfl known
    | yield => cases entered
    | @conclude done => cases done <;> cases phase
    | _ => cases phase
  | supervise before step does result =>
    rw [step.identity] at known
    rw [inv.entry_of_holds move (.accept before.accepts before.life phase known)]
    exact inv.entered before phase entered known

theorem Invariant.removed_move (inv : l.Invariant) (move : l.Move fails l')
    (stands : l'.Stands c x' t p' u q') (removes : q'.removes? = some identity) :
    l'.entry identity = none := by
  have holds : ∀ {q : Leaving}, q.removes? = some identity → q.holds? = some identity := by
    intro q removes
    cases q <;> first | exact removes | cases removes
  cases inv.staffed.turn move stands with
  | new unknown fresh greeting serving told =>
    subst serving
    cases removes
  | other before told =>
    rw [inv.entry_of_holds move (.supervise before.supervises (holds removes))]
    exact inv.removed before removes
  | accept before step does result =>
    rw [inv.entry_of_holds move (.supervise before.supervises (holds removes))]
    exact inv.removed before removes
  | supervise before step does result =>
    cases step with
    | remove =>
      cases removes
      cases does
      rw [result]
      simp [setDuty, setLife, setEntry]
    | markOffline =>
      cases removes
      rw [inv.entry_of_holds move (.supervise before.supervises rfl)]
      exact inv.removed before rfl
    | _ => cases removes

theorem Invariant.silent_move (inv : l.Invariant) (move : l.Move fails l') (unknown : l'.life c = none) :
    l'.toldBy c = [] := by
  have former : l.life c = none := by
    cases life : l.life c with
    | none => rfl
    | some x =>
      obtain ⟨x', life', _⟩ := move.life life
      rw [unknown] at life'
      cases life'
  have different : ∀ {other : ConnectionId} {x : Life}, l.life other = some x → other ≠ c := by
    intro other x life same
    rw [same, former] at life
    cases life
  cases move with
  | arrive => exact inv.silent former
  | accept duty life step does | supervise duty life step does =>
    have told := toldBy_other (different life) does.told
    exact told.trans (inv.silent former)

theorem Upright.move (inv : l.Upright) (move : l.Move fails l') : l'.Upright := by
  have staffed := inv.staffed.move move
  refine ⟨staffed, fun stands => ?_, inv.entries_move staffed move⟩
  cases inv.staffed.turn move stands with
  | new unknown fresh greeting serving told =>
    subst fresh greeting serving
    exact ⟨[], sound_new ..⟩
  | other before told => exact inv.sound before
  | accept before step does result =>
    obtain ⟨told, sound⟩ := inv.sound before
    exact ⟨_, sound.accept before.acceptor_ne_supervisor step⟩
  | supervise before step does result =>
    obtain ⟨told, sound⟩ := inv.sound before
    exact ⟨_, sound.supervise before.acceptor_ne_supervisor (inv.own before does) step⟩

theorem Invariant.move (inv : l.Invariant) (move : l.Move fails l') : l'.Invariant := by
  have staffed := inv.staffed.move move
  refine ⟨staffed, inv.silent_move move, ?_, inv.locked_move move,
    inv.upright.entries_move staffed move,
    inv.entered_move move, inv.removed_move move⟩
  · intro c x' t u p' q' stands
    cases inv.staffed.turn move stands with
    | new unknown fresh greeting serving told =>
      subst fresh greeting serving
      have silent : l'.toldBy c = [] := by
        simp only [toldBy, told]
        exact inv.silent unknown
      rw [silent]
      exact sound_new ..
    | other before told =>
      rw [told]
      exact inv.sound before
    | accept before step does result =>
      have told : l'.toldBy c = l.toldBy c ++ _ := toldBy_own (by rw [result]; exact does.told)
      rw [told]
      exact (inv.sound before).accept before.acceptor_ne_supervisor step
    | @supervise x q deed l₁ before step does result =>
      have told : l'.toldBy c = l.toldBy c ++ _ := toldBy_own (by rw [result]; exact does.told)
      rw [told]
      exact (inv.sound before).supervise before.acceptor_ne_supervisor (inv.upright.own before does) step

theorem Story.invariant {past : List Lifecycle} (story : Story fails past) :
    ∀ l ∈ past, l.Invariant := by
  induction story with
  | start =>
    intro l member
    rw [List.mem_singleton.1 member]
    exact invariant_blank
  | stay _ ih =>
    intro l member
    rcases List.mem_cons.1 member with rfl | member
    · exact ih _ (List.mem_cons_self ..)
    · exact ih l member
  | move _ move ih =>
    intro l member
    rcases List.mem_cons.1 member with rfl | member
    · exact (ih _ (List.mem_cons_self ..)).move move
    · exact ih l member

end Lifecycle

end Fleetwire
