import Fleetwire.Proofs.Lifecycle.Tellings

namespace Fleetwire

namespace Lifecycle

variable {fails : Report → Prop} {l l' : Lifecycle} {states past : List Lifecycle}
  {c : ConnectionId} {x : Life} {t u : TaskId} {p : Entering} {q : Leaving} {identity : String}

theorem pair_infix_cons {a b newest : Lifecycle} (h : [b, a] <:+: newest :: states) :
    b = newest ∧ states.head? = some a ∨ [b, a] <:+: states := by
  rcases List.infix_cons_iff.1 h with first | later
  · obtain ⟨same, second⟩ := List.cons_prefix_cons.1 first
    obtain ⟨rest, rfl⟩ := second
    exact Or.inl ⟨same, rfl⟩
  · exact Or.inr later

theorem Story.move_of_infix (story : Story fails states) (h : [l', l] <:+: states) :
    l' = l ∨ l.Move fails l' := by
  induction story with
  | start => simp [List.infix_cons_iff] at h
  | stay _ ih =>
    rcases pair_infix_cons h with ⟨newest, before⟩ | later
    · exact Or.inl (newest.trans (Option.some.inj before))
    · exact ih later
  | move _ move ih =>
    rcases pair_infix_cons h with ⟨newest, before⟩ | later
    · rw [newest, ← Option.some.inj before]
      exact Or.inr move
    · exact ih later

/-- The connection was taken out of the directory at some time, while it was being closed. -/
def Removed (states : List Lifecycle) (c : ConnectionId) (identity : String) : Prop :=
  ∃ before after x, [after, before] <:+: states ∧ before.entry identity = some c ∧
    after.entry identity = none ∧ before.life c = some x ∧ x.closed

theorem Removed.later (h : Removed states c identity) : Removed (l :: states) c identity := by
  obtain ⟨before, after, x, follows, entry, gone, life, closed⟩ := h
  exact ⟨before, after, x, List.infix_cons follows, entry, gone, life, closed⟩

theorem Invariant.removed_of_turn (inv : l.Invariant) (turn : Turn fails l l' c x t p u q)
    (former : ∀ {x : Life} {t u : TaskId} {p : Entering} {q : Leaving}, l.Stands c x t p u q →
      .markOffline identity ∈ l.toldBy c ++ q.telling?.toList → Removed (l :: past) c identity)
    (told : .markOffline identity ∈ l'.toldBy c ++ q.telling?.toList) :
    Removed (l' :: l :: past) c identity := by
  cases turn with
  | new unknown fresh greeting serving same =>
    subst serving
    rw [toldBy, same, show (l.told.filter _).map Prod.snd = [] from inv.silent unknown] at told
    cases told
  | other stands same =>
    rw [same] at told
    exact (former stands told).later
  | accept stands step does result =>
    have same : l'.toldBy c = l.toldBy c ++ _ := toldBy_own (by rw [result]; exact does.told)
    rw [same, List.append_assoc, List.mem_append, List.mem_append] at told
    rcases told with earlier | now | underWay
    · exact (former stands (List.mem_append_left _ earlier)).later
    · cases step with
      | markOnline =>
        obtain ⟨announced, known, rfl⟩ := (inv.sound stands).marking_eq
        simp [Deed.told] at now
      | announce =>
        obtain ⟨announced, known, rfl⟩ := (inv.sound stands).announcing_eq
        simp [Deed.told] at now
      | _ => cases now
    · exact (former stands (List.mem_append_right _ underWay)).later
  | supervise stands step does result =>
    have same : l'.toldBy c = l.toldBy c ++ _ := toldBy_own (by rw [result]; exact does.told)
    rw [same, List.append_assoc, List.mem_append, List.mem_append] at told
    rcases told with earlier | now | underWay
    · exact (former stands (List.mem_append_left _ earlier)).later
    · cases step with
      | markOffline | announce => exact (former stands (List.mem_append_right _ now)).later
      | _ => cases now
    · cases step with
      | remove =>
        cases does with
        | remove held holder =>
          simp only [Leaving.telling?, Option.toList_some, List.mem_singleton,
            Report.markOffline.injEq] at underWay
          subst underWay
          refine ⟨l, l', _, ⟨[], past, rfl⟩, holder, ?_, stands.life, ?_⟩
          · rw [result]
            simp [setDuty, setLife, setEntry]
          · exact (inv.sound stands).closable.closed (by simp)
      | markOffline => simp [Leaving.telling?] at underWay
      | _ => cases underWay

theorem Story.removed (story : Story fails (l :: past)) (stands : l.Stands c x t p u q)
    (told : .markOffline identity ∈ l.toldBy c ++ q.telling?.toList) :
    Removed (l :: past) c identity := by
  generalize all : l :: past = states at story
  induction story generalizing l past x t p u q with
  | start =>
    cases all
    cases stands.life
  | stay _ ih =>
    cases all
    exact (ih stands told rfl).later
  | move story move ih =>
    cases all
    have inv := story.invariant _ (List.mem_cons_self ..)
    exact inv.removed_of_turn (inv.staffed.turn move stands)
      (fun stands told => ih stands told rfl) told

end Lifecycle

namespace System

theorem pair_infix_lifecycle (states : List System) {l l' : Lifecycle}
    (h : [l', l] <:+: states.map System.lifecycle) :
    ∃ s s', [s', s] <:+: states ∧ l = s.lifecycle ∧ l' = s'.lifecycle := by
  obtain ⟨pair, follows, same⟩ := List.infix_map_iff.1 h
  obtain ⟨s', earlier, rfl, rfl, second⟩ := List.map_eq_cons_iff.1 same.symm
  obtain ⟨s, others, rfl, rfl, none⟩ := List.map_eq_cons_iff.1 second
  rw [List.map_eq_nil_iff.1 none] at follows
  exact ⟨s, s', follows, rfl, rfl⟩

end System

end Fleetwire
