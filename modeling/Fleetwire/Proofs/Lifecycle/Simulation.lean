import Fleetwire.Proofs.Lifecycle.Accepting
import Fleetwire.Proofs.Lifecycle.Supervising

namespace Fleetwire

namespace System

variable {s s' : System} {t : TaskId}

/-- The step from `s` to `s'` is in order. -/
structure Proceeds (s s' : System) : Prop where
  proper : s'.Proper
  collaborators : s'.collaborators = s.collaborators
  moves : s'.lifecycle = s.lifecycle ∨
    Lifecycle.Move s.collaborators.mayFail s.lifecycle s'.lifecycle

theorem Proceeds.of_quiet (proper : s.Proper) (quiet : s.Quiet s') : s.Proceeds s' :=
  ⟨quiet.proper proper, quiet.collaborators, Or.inl quiet.lifecycle⟩

theorem Proceeds.of_goes {task task' : Task} (proper : s.Proper) (found : s.tasks[t]? = some task)
    (goes : Task.Goes s t task s' task') : s.Proceeds (s'.setTask t task') := by
  refine ⟨(goes.keeps.proper proper).setTask goes.proper, goes.keeps.collaborators, ?_⟩
  rw [lifecycle_setTask (goes.keeps.tasks t task found)]
  exact goes.moves

theorem next_proceeds (proper : s.Proper) (h : s' ∈ s.next t) : s.Proceeds s' := by
  unfold next at h
  split at h
  · cases h
  next c phase found =>
    obtain ⟨⟨phase', s₁⟩, acted, rfl⟩ := List.mem_map.1 h
    exact Proceeds.of_goes proper found (Accepting.next_goes proper found acted)
  next c phase found =>
    obtain ⟨⟨phase', s₁⟩, acted, rfl⟩ := List.mem_map.1 h
    exact Proceeds.of_goes proper found (Supervising.next_goes proper found acted)
  next c job phase found =>
    obtain ⟨⟨phase', s₁⟩, acted, rfl⟩ := List.mem_map.1 h
    obtain ⟨quiet, proper'⟩ := Handling.next_calm (proper.tasks t _ found) acted
    exact Proceeds.of_goes proper found (Task.Goes.quiet found quiet proper' rfl)
  next c phase found =>
    obtain ⟨⟨phase', s₁⟩, acted, rfl⟩ := List.mem_map.1 h
    obtain ⟨quiet, proper'⟩ := Operating.next_calm (proper.tasks t _ found) acted
    exact Proceeds.of_goes proper found (Task.Goes.quiet found quiet proper' rfl)
  next phase found =>
    obtain ⟨⟨phase', s₁⟩, acted, rfl⟩ := List.mem_map.1 h
    exact Proceeds.of_goes proper found (Listening.next_goes proper found acted)

theorem abort_proceeds (proper : s.Proper) (t : TaskId) : s.Proceeds (s.abort t) := by
  unfold abort
  split
  next c result found =>
    exact Proceeds.of_goes proper found
      (Task.Goes.quiet found (Quiet.refl s) (proper.tasks t _ found) rfl)
  next c operation _ found =>
    have quiet := Operating.abort_quiet (s := s) (c := c) (t := t) operation
    have served : s.serves c := (proper.tasks t _ found).relies c (List.mem_singleton_self c)
    exact Proceeds.of_goes proper found (Task.Goes.quiet found quiet
      (Task.proper_of_serves rfl rfl rfl (quiet.serves c served)) rfl)
  · exact Proceeds.of_quiet proper (Quiet.refl s)

theorem changeSocket_quiet (c : ConnectionId) (f : Socket → Socket) : s.Quiet (s.changeSocket c f) :=
  quiet_update_exchange (fun _ => rfl) (fun _ => rfl) fun _ _ h => h

theorem react_proceeds {event : Event} (proper : s.Proper) (h : s.Ordinary event) :
    s.Proceeds (s.react event) := by
  cases event with
  | takeOver addr settings socket belongs =>
    simp only [react]
    cases taken : s.takeOver? addr settings socket belongs with
    | none => exact Proceeds.of_quiet proper (Quiet.refl s)
    | some s' =>
      obtain ⟨keeps, move⟩ := takeOver?_arrives taken
      exact ⟨keeps.proper proper, keeps.collaborators, Or.inr move⟩
  | operate c operation =>
    have keeps : s.Keeps (s.spawn (.operate c operation)) :=
      Keeps.spawn (Operating.proper_of_isNew h.1 h.2)
    exact Proceeds.of_quiet proper ⟨keeps, lifecycle_spawn_none rfl⟩
  | abort t => exact abort_proceeds proper t
  | bind c kind handler =>
    exact Proceeds.of_quiet proper
      (quiet_update_exchange (fun _ => rfl) (fun _ => rfl) fun _ _ h => h.of_slots rfl)
  | arrive addr settings socket | release count | elapse nanoseconds | stop =>
    exact Proceeds.of_quiet proper (Quiet.of_sameLives rfl ⟨rfl, rfl, rfl, rfl, rfl⟩)
  | halt => exact Proceeds.of_quiet proper (quiet_haltAll s)
  | unregister identity => exact h.elim
  | peerWrites c bytes | peerEnds c | peerReads c count | peerLeaves c =>
    dsimp only [react]
    exact Proceeds.of_quiet proper (changeSocket_quiet c _)

theorem Step.proceeds (proper : s.Proper) (h : Step Ordinary s s') : s.Proceeds s' := by
  cases h with
  | act t h => exact next_proceeds proper h
  | react event h => exact react_proceeds proper h

variable {past : List System}

theorem Step.mono {allowed allowed' : System → Event → Prop}
    (weaker : ∀ s event, allowed s event → allowed' s event) (h : Step allowed s s') : Step allowed' s s' := by
  cases h with
  | act t h => exact .act t h
  | react event h => exact .react event (weaker s event h)

theorem Run.mono {allowed allowed' : System → Event → Prop} {states : List System}
    (weaker : ∀ s event, allowed s event → allowed' s event) (h : Run allowed states) :
    Run allowed' states := by
  induction h with
  | start initial => exact .start initial
  | step _ step ih => exact .step ih (step.mono weaker)

theorem Initial.lifecycle (h : s.Initial) : s.lifecycle = Lifecycle.blank := by
  obtain ⟨records, directory, connections, reports, tasks⟩ := h
  ext1
  · funext identity
    simp [System.lifecycle, directory, Lifecycle.blank, Directory.get?]
  · funext identity
    simp [System.lifecycle, directory, Lifecycle.blank, Directory.transition]
  · funext identity
    simp [System.lifecycle, records, Lifecycle.blank, MachineRecords.presence?]
  · simp [System.lifecycle, reports, Lifecycle.blank]
  · funext c
    simp [System.lifecycle, connections, Lifecycle.blank]
  · funext t
    simp only [System.lifecycle, Lifecycle.blank]
    cases found : s.tasks[t]? with
    | none => rfl
    | some task =>
      rw [tasks task (List.mem_of_getElem? found)]
      rfl

theorem Initial.proper (h : s.Initial) : s.Proper := by
  obtain ⟨_, directory, connections, _, tasks⟩ := h
  refine ⟨?_, ?_, ?_⟩
  · intro t task found
    rw [tasks task (List.mem_of_getElem? found)]
    exact Task.proper_of_nobody rfl rfl rfl
  · intro identity c entry
    rw [directory] at entry
    cases entry
  · intro c x found
    rw [connections] at found
    cases found

theorem Run.proper {states : List System} (h : Run Ordinary states) : ∀ s ∈ states, s.Proper := by
  induction h with
  | start initial =>
    intro s member
    rw [List.mem_singleton.1 member]
    exact initial.proper
  | step _ step ih =>
    intro s member
    rcases List.mem_cons.1 member with rfl | member
    · exact (step.proceeds (ih _ (List.mem_cons_self ..))).proper
    · exact ih s member

theorem Run.story (h : Run Ordinary (s :: past)) :
    Lifecycle.Story s.collaborators.mayFail ((s :: past).map System.lifecycle) := by
  generalize states : s :: past = all at h
  induction h generalizing s past with
  | start initial =>
    cases states
    rw [List.map_singleton, initial.lifecycle]
    exact .start
  | step run step ih =>
    cases states
    have proceeds := step.proceeds (run.proper _ (List.mem_cons_self ..))
    have story := ih rfl
    rw [proceeds.collaborators, List.map_cons]
    rcases proceeds.moves with same | move
    · rw [same]
      exact .stay story
    · exact .move story move

end System

end Fleetwire
