import Fleetwire.Proofs.Lifecycle.Tellings

namespace Fleetwire

section Steps

variable {x x' : Life} {t u : TaskId} {p p' : Entering} {q q' : Leaving} {deed : Deed} {report : Report}

theorem Entering.Step.entered_before (step : p.Step t x deed x' p') (entered : p'.entered) :
    p.entered ∨ p'.holdsIdentity := by
  cases step with
  | enter => exact .inr rfl
  | @releaseIdentity identity entered' | @conclude entered' =>
    cases entered' with
    | false => cases entered
    | true => exact .inl rfl
  | markOnline | announce | activate => exact .inl rfl
  | _ => cases entered

theorem Leaving.Step.telling (step : q.Step u x deed x' q') (telling : q.telling? = some report) :
    deed.told = [report] := by
  cases step with
  | markOffline | announce =>
    cases telling
    rfl
  | _ => cases telling

end Steps

namespace Lifecycle

variable {fails : Report → Prop} {l l' : Lifecycle} {states past : List Lifecycle}
  {c : ConnectionId} {x x' : Life} {t u : TaskId} {p p' : Entering} {q q' : Leaving} {identity : String}

theorem Move.entry_lost (move : l.Move fails l') (entry : l.entry identity = some c)
    (lost : l'.entry identity ≠ some c) : (∃ other, other ≠ c ∧ l'.entry identity = some other) ∨
      ∃ u, l'.duty u = .supervise c (.marking identity (.markOffline identity)) := by
  have kept : l'.entry = l.entry → False := fun same => lost (same ▸ entry)
  cases move with
  | arrive => exact absurd rfl kept
  | @accept t₀ c₀ x₀ x₁ p₀ p₁ deed l₁ duty₀ life₀ step does =>
    cases does with
    | @enter other policy held free =>
      by_cases same : identity = other
      · have new : ((l.setEntry other (some c₀)).setLife c₀ x₁ |>.setDuty t₀ (.accept c₀ p₁)).entry identity =
            some c₀ := by
          simp [setDuty, setLife, setEntry, same]
        have different : c₀ ≠ c := fun own => lost (own ▸ new)
        exact .inl ⟨c₀, different, new⟩
      · exact absurd (by simpa [setDuty, setLife, setEntry, same] using entry) lost
    | remove held holder => cases step
    | _ => exact absurd rfl kept
  | @supervise t₀ c₀ x₀ x₁ q₀ q₁ deed l₁ duty₀ life₀ step does =>
    cases does with
    | enter held free => cases step
    | @remove other held holder =>
      by_cases same : identity = other
      · subst same
        rw [entry] at holder
        cases holder
        cases step
        exact .inr ⟨t₀, by simp [setDuty]⟩
      · exact absurd (by simpa [setDuty, setLife, setEntry, same] using entry) lost
    | _ => exact absurd rfl kept

theorem Turn.told (turn : Turn fails l l' c x' t p' u q') {report : Report}
    (former : ∀ {x : Life} {t u : TaskId} {p : Entering} {q : Leaving}, l.Stands c x t p u q →
      report ∈ l.toldBy c ++ q.telling?.toList) (living : l.life c ≠ none) :
    report ∈ l'.toldBy c ++ q'.telling?.toList := by
  cases turn with
  | new unknown => exact absurd unknown living
  | other stands same =>
    rw [same]
    exact former stands
  | accept stands step does result =>
    have told : l'.toldBy c = l.toldBy c ++ _ := toldBy_own (by rw [result]; exact does.told)
    rw [told, List.append_assoc, List.mem_append, List.mem_append]
    rcases List.mem_append.1 (former stands) with arrived | underWay
    · exact .inl arrived
    · exact .inr (.inr underWay)
  | supervise stands step does result =>
    have told : l'.toldBy c = l.toldBy c ++ _ := toldBy_own (by rw [result]; exact does.told)
    rw [told, List.append_assoc, List.mem_append, List.mem_append]
    rcases List.mem_append.1 (former stands) with arrived | underWay
    · exact .inl arrived
    · have arrives := step.telling (Option.mem_toList.1 underWay)
      exact .inr (.inl (by rw [arrives]; exact List.mem_singleton_self _))

def Displaced (states : List Lifecycle) (c : ConnectionId) (identity : String) : Prop :=
  ∃ before after, [after, before] <:+: states ∧ before.entry identity = some c ∧
    ∃ other, other ≠ c ∧ after.entry identity = some other

theorem Displaced.later (h : Displaced states c identity) : Displaced (l :: states) c identity := by
  obtain ⟨before, after, follows, entry, other⟩ := h
  exact ⟨before, after, List.infix_cons follows, entry, other⟩

/-- Where the entry of a connection has gone. -/
inductive Fared (states : List Lifecycle) (l : Lifecycle) (c : ConnectionId) (q : Leaving)
    (identity : String) : Prop where
  | listed (entry : l.entry identity = some c)
  | displaced (displaced : Displaced states c identity)
  | offline (told : .markOffline identity ∈ l.toldBy c ++ q.telling?.toList)

theorem Fared.move (inv : l.Invariant) (move : l.Move fails l') (stands : l'.Stands c x' t p' u q')
    (living : l.life c ≠ none)
    (former : ∀ {x : Life} {t u : TaskId} {p : Entering} {q : Leaving}, l.Stands c x t p u q →
      Fared (l :: past) l c q identity) : Fared (l' :: l :: past) l' c q' identity := by
  have staffed := (inv.staffed.move move)
  obtain ⟨x, life⟩ := Option.ne_none_iff_exists'.1 living
  obtain ⟨t₀, p₀, u₀, q₀, before⟩ := inv.staffed.stands life
  cases former before with
  | listed entry =>
    by_cases kept : l'.entry identity = some c
    · exact .listed kept
    · rcases move.entry_lost entry kept with ⟨other, different, entry'⟩ | ⟨v, duty⟩
      · exact .displaced ⟨l, l', ⟨[], past, rfl⟩, entry, other, different, entry'⟩
      · have own := staffed.supervisor_unique stands.supervises duty
        have phase := stands.supervises
        rw [own, duty] at phase
        cases phase
        exact .offline (List.mem_append_right _ (List.mem_singleton_self _))
  | displaced displaced => exact .displaced displaced.later
  | offline told =>
    refine .offline ((inv.staffed.turn move stands).told (fun stands' => ?_) living)
    obtain ⟨_, _, _, _, rfl⟩ := inv.staffed.stands_unique before stands'
    exact told

/-- A connection that was entered has its entry, or has lost it to another, or was told to be offline. -/
theorem Story.fared (story : Story fails (l :: past)) (stands : l.Stands c x t p u q)
    (known : x.identity? = some identity) (entered : p.entered) : Fared (l :: past) l c q identity := by
  generalize all : l :: past = states at story
  induction story generalizing l past x t p u q with
  | start =>
    cases all
    cases stands.life
  | stay _ ih =>
    cases all
    cases ih stands known entered rfl with
    | listed entry => exact .listed entry
    | displaced displaced => exact .displaced displaced.later
    | offline told => exact .offline told
  | @move former latter earlier story move ih =>
    cases all
    have inv := story.invariant former (List.mem_cons_self ..)
    have onward : ∀ {x₀ : Life} {t₀ u₀ : TaskId} {p₀ : Entering} {q₀ : Leaving},
        former.Stands c x₀ t₀ p₀ u₀ q₀ → x₀.identity? = some identity → p₀.entered →
        Fared (latter :: former :: earlier) latter c q identity := by
      intro x₀ t₀ u₀ p₀ q₀ before known entered
      have living : former.life c ≠ none := by
        rw [before.life]
        exact Option.some_ne_none _
      refine Fared.move inv move stands living fun stands' => ?_
      obtain ⟨rfl, rfl, rfl, rfl, rfl⟩ := inv.staffed.stands_unique before stands'
      exact ih before known entered rfl
    cases inv.staffed.turn move stands with
    | new unknown fresh greeting =>
      rw [greeting] at entered
      cases entered
    | other before => exact onward before known entered
    | accept before step does result =>
      rcases step.entered_before entered with former | holds
      · obtain ⟨_, same⟩ := step.entered former
        exact onward before (same.symm.trans known) former
      · exact .listed ((inv.move move).entered stands holds entered known)
    | supervise before step does result =>
      exact onward before (step.identity.symm.trans known) entered

end Lifecycle

end Fleetwire
