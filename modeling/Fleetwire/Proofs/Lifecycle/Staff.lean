import Fleetwire.Proofs.Lifecycle

namespace Fleetwire

inductive Role where
  | acceptor
  | supervisor
deriving DecidableEq, Repr

def Duty.role? : Duty → Option (Role × ConnectionId)
  | none => .none
  | accept c _ => some (.acceptor, c)
  | supervise c _ => some (.supervisor, c)

theorem Entering.Step.addr {t : TaskId} {x x' : Life} {p p' : Entering} {deed : Deed}
    (step : p.Step t x deed x' p') : x'.addr = x.addr ∧ x'.policy = x.policy := by
  cases step <;> exact ⟨rfl, rfl⟩

theorem Leaving.Step.addr {u : TaskId} {x x' : Life} {q q' : Leaving} {deed : Deed}
    (step : q.Step u x deed x' q') : x'.addr = x.addr ∧ x'.policy = x.policy := by
  cases step <;> exact ⟨rfl, rfl⟩

namespace Lifecycle

structure Staffed (l : Lifecycle) : Prop where
  living : ∀ {t : TaskId} {role : Role} {c : ConnectionId},
    (l.duty t).role? = some (role, c) → l.life c ≠ none
  staff : ∀ {c : ConnectionId}, l.life c ≠ none → ∀ role : Role,
    ∃ t : TaskId, (l.duty t).role? = some (role, c)
  unique : ∀ {t u : TaskId} {role : Role} {c : ConnectionId},
    (l.duty t).role? = some (role, c) → (l.duty u).role? = some (role, c) → t = u

theorem staffed_blank : blank.Staffed where
  living h := nomatch h
  staff h := absurd rfl h
  unique h := nomatch h

variable {fails : Report → Prop} {l l' : Lifecycle}

theorem Staffed.of_roles (staffed : l.Staffed) (roles : ∀ t, (l'.duty t).role? = (l.duty t).role?)
    (living : ∀ c, l'.life c = none ↔ l.life c = none) : l'.Staffed := by
  refine ⟨?_, ?_, ?_⟩
  · intro t role c h
    rw [roles] at h
    exact fun gone => staffed.living h ((living c).1 gone)
  · intro c here role
    obtain ⟨t, h⟩ := staffed.staff (fun gone => here ((living c).2 gone)) role
    exact ⟨t, (roles t).trans h⟩
  · intro t u role c ht hu
    rw [roles] at ht hu
    exact staffed.unique ht hu

theorem role?_setDuty {t : TaskId} {duty : Duty} (same : duty.role? = (l.duty t).role?) (u : TaskId) :
    ((l.setDuty t duty).duty u).role? = (l.duty u).role? := by
  simp only [setDuty]
  split
  next here => rw [here, same]
  next => rfl

theorem life_setLife {c : ConnectionId} {x x' : Life} (life : l.life c = some x) (other : ConnectionId) :
    (l.setLife c x').life other = none ↔ l.life other = none := by
  simp only [setLife]
  split
  next here => simp [here, life]
  next => exact Iff.rfl

theorem Staffed.arrive (staffed : l.Staffed) {c : ConnectionId} {t : TaskId} {life : Life}
    (new : l.life c = none) (idle : l.duty t = .none) (idle' : l.duty (t + 1) = .none) :
    (((l.setLife c life).setDuty t (.accept c .greeting)).setDuty (t + 1)
      (.supervise c .serving)).Staffed := by
  -- Whoever has a role has the new one, or a former one for another connection.
  have roles : ∀ (u : TaskId) (role : Role) (other : ConnectionId),
      ((((l.setLife c life).setDuty t (.accept c .greeting)).setDuty (t + 1)
        (.supervise c .serving)).duty u).role? = some (role, other) →
      (other = c ∧ ((u = t ∧ role = .acceptor) ∨ (u = t + 1 ∧ role = .supervisor))) ∨
        (other ≠ c ∧ (l.duty u).role? = some (role, other)) := by
    intro u role other h
    simp only [setDuty, setLife] at h
    split at h
    next supervisor =>
      cases h
      exact Or.inl ⟨rfl, Or.inr ⟨supervisor, rfl⟩⟩
    next =>
      split at h
      next acceptor =>
        cases h
        exact Or.inl ⟨rfl, Or.inl ⟨acceptor, rfl⟩⟩
      next =>
        refine Or.inr ⟨fun same => ?_, h⟩
        exact staffed.living h (same ▸ new)
  have former : ∀ (u : TaskId) (duty : Role × ConnectionId), (l.duty u).role? = some duty →
      ((((l.setLife c life).setDuty t (.accept c .greeting)).setDuty (t + 1)
        (.supervise c .serving)).duty u).role? = some duty := by
    intro u duty h
    have acceptor : u ≠ t := fun same => by simp [same, idle, Duty.role?] at h
    have supervisor : u ≠ t + 1 := fun same => by simp [same, idle', Duty.role?] at h
    simpa [setDuty, setLife, acceptor, supervisor] using h
  refine ⟨?_, ?_, ?_⟩
  · intro u role other h
    rcases roles u role other h with ⟨rfl, _⟩ | ⟨old, h⟩
    · simp [setDuty, setLife]
    · simpa [setDuty, setLife, old] using staffed.living h
  · intro other here role
    by_cases same : other = c
    · subst same
      cases role with
      | acceptor => exact ⟨t, by simp [setDuty, Duty.role?]⟩
      | supervisor => exact ⟨t + 1, by simp [setDuty, Duty.role?]⟩
    · have old : l.life other ≠ none := by simpa [setDuty, setLife, same] using here
      obtain ⟨u, h⟩ := staffed.staff old role
      exact ⟨u, former u _ h⟩
  · intro u v role other hu hv
    rcases roles u role other hu with ⟨rfl, place⟩ | ⟨old, hu⟩
    · rcases roles v role other hv with ⟨_, place'⟩ | ⟨old, _⟩
      · rcases place with ⟨rfl, rfl⟩ | ⟨rfl, rfl⟩ <;> rcases place' with ⟨rfl, h⟩ | ⟨rfl, h⟩ <;>
          first | rfl | cases h
      · exact absurd rfl old
    · rcases roles v role other hv with ⟨new, _⟩ | ⟨_, hv⟩
      · exact absurd new old
      · exact staffed.unique hu hv

theorem Staffed.move (staffed : l.Staffed) (move : l.Move fails l') : l'.Staffed := by
  cases move with
  | arrive c t addr policy new idle idle' => exact staffed.arrive new idle idle'
  | accept duty life step does | supervise duty life step does =>
    apply staffed.of_roles
    · intro u
      rw [role?_setDuty] <;> simp only [setLife, does.duty, duty]
      rfl
    · intro other
      simp only [setDuty]
      rw [life_setLife (does.life ▸ life), does.life]

/-- How a connection stands: its life is `x`, its acceptance `t` is at `p`, its supervisor `u` at `q`. -/
structure Stands (l : Lifecycle) (c : ConnectionId) (x : Life) (t : TaskId) (p : Entering)
    (u : TaskId) (q : Leaving) : Prop where
  life : l.life c = some x
  accepts : l.duty t = .accept c p
  supervises : l.duty u = .supervise c q

def toldBy (l : Lifecycle) (c : ConnectionId) : List Report :=
  (l.told.filter fun told => told.1 = c).map Prod.snd

variable {c : ConnectionId} {x x' : Life} {t u : TaskId} {p p' : Entering} {q q' : Leaving}

theorem Stands.acceptor_ne_supervisor (stands : l.Stands c x t p u q) : t ≠ u := by
  intro same
  have supervises := stands.supervises
  rw [← same, stands.accepts] at supervises
  cases supervises

theorem Staffed.acceptor_unique (staffed : l.Staffed) (ht : l.duty t = .accept c p)
    (hu : l.duty u = .accept c p') : t = u := by
  apply staffed.unique
  · rw [ht, Duty.role?]
  · rw [hu, Duty.role?]

theorem Staffed.supervisor_unique (staffed : l.Staffed) (ht : l.duty t = .supervise c q)
    (hu : l.duty u = .supervise c q') : t = u := by
  apply staffed.unique
  · rw [ht, Duty.role?]
  · rw [hu, Duty.role?]

theorem Staffed.acceptor_living (staffed : l.Staffed) (h : l.duty t = .accept c p) :
    l.life c ≠ none := by
  apply staffed.living
  rw [h, Duty.role?]

theorem Staffed.supervisor_living (staffed : l.Staffed) (h : l.duty t = .supervise c q) :
    l.life c ≠ none := by
  apply staffed.living
  rw [h, Duty.role?]

theorem Staffed.stands (staffed : l.Staffed) (life : l.life c = some x) :
    ∃ t p u q, l.Stands c x t p u q := by
  have living : l.life c ≠ none := by simp [life]
  obtain ⟨t, accepts⟩ := staffed.staff living .acceptor
  obtain ⟨u, supervises⟩ := staffed.staff living .supervisor
  cases acceptor : l.duty t with
  | accept c' p =>
    cases supervisor : l.duty u with
    | supervise c'' q =>
      rw [acceptor] at accepts
      rw [supervisor] at supervises
      cases accepts
      cases supervises
      exact ⟨t, p, u, q, life, acceptor, supervisor⟩
    | _ => rw [supervisor] at supervises; cases supervises
  | _ => rw [acceptor] at accepts; cases accepts

theorem Staffed.stands_unique (staffed : l.Staffed) {x₁ x₂ : Life} {t₁ t₂ u₁ u₂ : TaskId}
    {p₁ p₂ : Entering} {q₁ q₂ : Leaving} (h₁ : l.Stands c x₁ t₁ p₁ u₁ q₁)
    (h₂ : l.Stands c x₂ t₂ p₂ u₂ q₂) : x₁ = x₂ ∧ t₁ = t₂ ∧ p₁ = p₂ ∧ u₁ = u₂ ∧ q₁ = q₂ := by
  have acceptor := staffed.acceptor_unique h₁.accepts h₂.accepts
  have supervisor := staffed.supervisor_unique h₁.supervises h₂.supervises
  subst acceptor supervisor
  have life := h₁.life.symm.trans h₂.life
  have accepts := h₁.accepts.symm.trans h₂.accepts
  have supervises := h₁.supervises.symm.trans h₂.supervises
  cases life
  cases accepts
  cases supervises
  exact ⟨rfl, rfl, rfl, rfl, rfl⟩

theorem Staffed.stands_of_accept (staffed : l.Staffed) (duty : l.duty t = .accept c p)
    (life : l.life c = some x) : ∃ u q, l.Stands c x t p u q := by
  obtain ⟨t', p', u, q, stands⟩ := staffed.stands life
  have same := staffed.acceptor_unique duty stands.accepts
  subst same
  exact ⟨u, q, life, duty, stands.supervises⟩

theorem Staffed.stands_of_supervise (staffed : l.Staffed) (duty : l.duty u = .supervise c q)
    (life : l.life c = some x) : ∃ t p, l.Stands c x t p u q := by
  obtain ⟨t, p, u', q', stands⟩ := staffed.stands life
  have same := staffed.supervisor_unique duty stands.supervises
  subst same
  exact ⟨t, p, life, stands.accepts, duty⟩

theorem Move.life (move : l.Move fails l') (here : l.life c = some x) :
    ∃ x', l'.life c = some x' ∧ x'.addr = x.addr ∧ x'.policy = x.policy := by
  cases move with
  | arrive c₀ t₀ addr policy new idle idle' =>
    have old : c ≠ c₀ := fun same => by
      rw [← same, here] at new
      cases new
    exact ⟨x, by simp [setDuty, setLife, old, here], rfl, rfl⟩
  | @accept t₀ c₀ x₀ x₁ p₀ p₁ deed l₁ duty₀ life₀ step does
  | @supervise t₀ c₀ x₀ x₁ q₀ q₁ deed l₁ duty₀ life₀ step does =>
    by_cases same : c = c₀
    · subst same
      rw [here] at life₀
      cases life₀
      exact ⟨x₁, by simp [setDuty, setLife], step.addr⟩
    · exact ⟨x, by simp [setDuty, setLife, same, does.life, here], rfl, rfl⟩

/-- What a move means for one connection. -/
inductive Turn (fails : Report → Prop) (l l' : Lifecycle) (c : ConnectionId) (x' : Life) (t : TaskId)
    (p' : Entering) (u : TaskId) (q' : Leaving) : Prop where
  | new {addr : Endpoint} {policy : DuplicatePolicy} (unknown : l.life c = none)
    (fresh : x' = { addr, policy }) (greeting : p' = .greeting) (serving : q' = .serving)
    (told : l'.told = l.told)
  | other (stands : l.Stands c x' t p' u q') (told : l'.toldBy c = l.toldBy c)
  | accept {x : Life} {p : Entering} {deed : Deed} {l₁ : Lifecycle}
    (stands : l.Stands c x t p u q') (step : p.Step t x deed x' p')
    (does : l.Does fails t c deed l₁) (result : l' = (l₁.setLife c x').setDuty t (.accept c p'))
  | supervise {x : Life} {q : Leaving} {deed : Deed} {l₁ : Lifecycle}
    (stands : l.Stands c x t p' u q) (step : q.Step u x deed x' q')
    (does : l.Does fails u c deed l₁) (result : l' = (l₁.setLife c x').setDuty u (.supervise c q'))

theorem toldBy_other {other : ConnectionId} {reports : List Report} (different : other ≠ c)
    (told : l'.told = l.told ++ reports.map fun report => (other, report)) :
    l'.toldBy c = l.toldBy c := by
  have none : (reports.map fun report => (other, report)).filter (fun told => told.1 = c) = [] := by
    simp [List.filter_eq_nil_iff, different]
  simp only [toldBy, told, List.filter_append, none, List.append_nil]

theorem toldBy_own {reports : List Report}
    (told : l'.told = l.told ++ reports.map fun report => (c, report)) :
    l'.toldBy c = l.toldBy c ++ reports := by
  have all : (reports.map fun report => (c, report)).filter (fun told => told.1 = c) =
      reports.map fun report => (c, report) := by
    simp [List.filter_eq_self]
  have back : (Prod.snd ∘ fun report : Report => (c, report)) = id := rfl
  simp only [toldBy, told, List.filter_append, all, List.map_append, List.map_map, back, List.map_id]

theorem Staffed.turn_arrive (staffed : l.Staffed) {c₀ : ConnectionId} {t₀ : TaskId} {addr : Endpoint}
    {policy : DuplicatePolicy} (new : l.life c₀ = none)
    (stands : (((l.setLife c₀ { addr, policy }).setDuty t₀ (.accept c₀ .greeting)).setDuty (t₀ + 1)
      (.supervise c₀ .serving)).Stands c x' t p' u q') :
    Turn fails l (((l.setLife c₀ { addr, policy }).setDuty t₀ (.accept c₀ .greeting)).setDuty (t₀ + 1)
      (.supervise c₀ .serving)) c x' t p' u q' := by
  obtain ⟨life, accepts, supervises⟩ := stands
  simp only [setDuty, setLife] at life accepts supervises
  by_cases same : c = c₀
  · subst same
    simp only [if_true, Option.some.injEq] at life
    have noAcceptor : l.duty t ≠ .accept c p' := fun h =>
      staffed.acceptor_living h new
    have noSupervisor : l.duty u ≠ .supervise c q' := fun h =>
      staffed.supervisor_living h new
    refine .new new life.symm ?_ ?_ rfl
    · split at accepts
      · cases accepts
      · split at accepts
        · cases accepts
          rfl
        · exact absurd accepts noAcceptor
    · split at supervises
      · cases supervises
        rfl
      · split at supervises
        · cases supervises
        · exact absurd supervises noSupervisor
  · simp only [same, if_false] at life
    refine .other ⟨life, ?_, ?_⟩ rfl
    · split at accepts
      · cases accepts
      · split at accepts
        · cases accepts
          exact absurd rfl same
        · exact accepts
    · split at supervises
      · cases supervises
        exact absurd rfl same
      · split at supervises
        · cases supervises
        · exact supervises

theorem Staffed.turn (staffed : l.Staffed) (move : l.Move fails l')
    (stands : l'.Stands c x' t p' u q') : Turn fails l l' c x' t p' u q' := by
  cases move with
  | arrive c₀ t₀ addr policy new idle idle' => exact staffed.turn_arrive new stands
  | @accept t₀ c₀ x x₁ p p₁ deed l₁ duty life step does =>
    obtain ⟨life', accepts, supervises⟩ := stands
    simp only [setDuty, setLife, does.life, does.duty] at life' accepts supervises
    have notAcceptor : u ≠ t₀ := fun h => by simp [h] at supervises
    simp only [notAcceptor, if_false] at supervises
    by_cases same : c = c₀
    · subst same
      simp only [if_true, Option.some.injEq] at life'
      subst life'
      split at accepts
      next here =>
        cases accepts
        subst here
        exact .accept ⟨life, duty, supervises⟩ step does rfl
      next elsewhere =>
        exact absurd (staffed.acceptor_unique accepts duty) elsewhere
    · have elsewhere : t ≠ t₀ := fun h => by
        simp only [h, if_true, Duty.accept.injEq] at accepts
        exact same accepts.1.symm
      simp only [elsewhere, same, if_false] at accepts life'
      exact .other ⟨life', accepts, supervises⟩ (toldBy_other (fun h => same h.symm) does.told)
  | @supervise t₀ c₀ x x₁ q q₁ deed l₁ duty life step does =>
    obtain ⟨life', accepts, supervises⟩ := stands
    simp only [setDuty, setLife, does.life, does.duty] at life' accepts supervises
    have notSupervisor : t ≠ t₀ := fun h => by simp [h] at accepts
    simp only [notSupervisor, if_false] at accepts
    by_cases same : c = c₀
    · subst same
      simp only [if_true, Option.some.injEq] at life'
      subst life'
      split at supervises
      next here =>
        cases supervises
        subst here
        exact .supervise ⟨life, accepts, duty⟩ step does rfl
      next elsewhere =>
        exact absurd (staffed.supervisor_unique supervises duty) elsewhere
    · have elsewhere : u ≠ t₀ := fun h => by
        simp only [h, if_true, Duty.supervise.injEq] at supervises
        exact same supervises.1.symm
      simp only [elsewhere, same, if_false] at supervises life'
      exact .other ⟨life', accepts, supervises⟩ (toldBy_other (fun h => same h.symm) does.told)

end Lifecycle

end Fleetwire
