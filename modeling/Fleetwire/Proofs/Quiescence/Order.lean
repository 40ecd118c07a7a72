import Fleetwire.Proofs.Jobs.Simulation
import Fleetwire.Proofs.Jobs.Sound
import Fleetwire.Proofs.Lifecycle.Waiting
import Fleetwire.Proofs.Traffic.Simulation
import Fleetwire.Proofs.Traffic.Sound

namespace Fleetwire

namespace System

variable {s s' s₁ : System} {t u : TaskId} {c : ConnectionId} {x : Connection}

/-- What happens to a server. Whoever begins an operation has the connection from a handler, from the directory or
from its admission, so the connection is served by then. -/
def Regular (s : System) : Event → Prop
  | .operate c operation => s.serves c ∧ operation.isNew
  | _ => True

theorem Ordinary.regular {event : Event} (h : s.Ordinary event) : s.Regular event := by
  cases event with
  | operate => exact h
  | _ => trivial

theorem Regular.genuine {event : Event} (h : s.Regular event) : s.Genuine event := by
  cases event with
  | operate => exact Ordinary.genuine h
  | _ => trivial

/-- What is always so: tasks know the connections that they are about, the locks are in order, and every job has
its task. -/
structure InOrder (s : System) : Prop where
  proper : s.Proper
  linedUp : s.lifecycle.LinedUp
  busy : ∀ c, (s.desk c).Busy

theorem Proceeds.linedUp (h : s.Proceeds s') (linedUp : s.lifecycle.LinedUp) : s'.lifecycle.LinedUp := by
  rcases h.moves with same | move
  · rw [same]
    exact linedUp
  · exact linedUp.move move

theorem unregister_proper (proper : s.Proper) (identity : String) :
    (s.react (.unregister identity)).Proper := by
  have keeps : s.Keeps (s.react (.unregister identity)) := by
    refine .of_same rfl rfl rfl fun other c entry => .inl ?_
    dsimp only [react] at entry
    rw [Directory.get?_remove] at entry
    split at entry
    · cases entry
    · exact entry
  exact keeps.proper proper

theorem unregister_inOrder (order : s.InOrder) (identity : String) : (s.react (.unregister identity)).InOrder := by
  have lifecycle : (s.react (.unregister identity)).lifecycle = s.lifecycle.setEntry identity none :=
    lifecycle_remove
  refine ⟨unregister_proper order.proper identity, ?_, order.busy⟩
  rw [lifecycle]
  exact order.linedUp.lose identity

theorem bind_busy (busy : (s.desk c).Busy) (other : ConnectionId) (kind : MessageKind) (handler : Handler) :
    ((s.react (.bind other kind handler)).desk c).Busy := by
  have bound : s.Alters other (fun table => { table with handlers := table.handlers.insert kind handler })
      (s.react (.bind other kind handler)) := .update fun _ _ => rfl
  by_cases own : c = other
  · subst own
    cases here : s.table? c with
    | none =>
      have same : (s.react (.bind c kind handler)).table? c = s.table? c := by
        rw [bound.table, here, Option.map_none]
      have desk : (s.react (.bind c kind handler)).desk c = s.desk c := by
        simp only [System.desk, same]
        rfl
      rw [desk]
      exact busy
    | some table =>
      rw [bound.desk here]
      exact busy.setTable here rfl rfl
  · rw [bound.desk_other own]
    exact busy

theorem react_inOrder {event : Event} (order : s.InOrder) (h : s.Regular event) : (s.react event).InOrder := by
  have proceed : ∀ {event : Event}, s.Ordinary event → (∀ c, ((s.react event).desk c).Busy) →
      (s.react event).InOrder := by
    intro event ordinary busy
    have proceeds := react_proceeds order.proper ordinary
    exact ⟨proceeds.proper, proceeds.linedUp order.linedUp, busy⟩
  cases event with
  | unregister identity => exact unregister_inOrder order identity
  | bind other kind handler => exact proceed trivial fun c => bind_busy (order.busy c) other kind handler
  | operate other operation => exact proceed h fun c => (order.busy c).move (react_works h)
  | _ => exact proceed trivial fun c => (order.busy c).move (react_works trivial)

theorem Step.inOrder (order : s.InOrder) (h : Step Regular s s') : s'.InOrder := by
  cases h with
  | act t h =>
    have proceeds := next_proceeds order.proper h
    exact ⟨proceeds.proper, proceeds.linedUp order.linedUp,
      fun c => (order.busy c).move (next_works order.proper h)⟩
  | react event h => exact react_inOrder order h

theorem Initial.inOrder (h : s.Initial) : s.InOrder := by
  refine ⟨h.proper, ?_, fun c => ?_⟩
  · rw [h.lifecycle]
    exact Lifecycle.linedUp_blank
  · have idle : ∀ t, (s.desk c).work t = none := by
      intro t
      simp only [desk]
      cases found : s.tasks[t]? with
      | none => rfl
      | some task =>
        rw [h.tasks task (List.mem_of_getElem? found)]
        rfl
    refine ⟨fun t id phase works => ?_, fun t u id phase phase' works => ?_⟩
    · rw [idle] at works
      cases works
    · rw [idle] at works
      cases works

variable {states past : List System}

theorem Run.inOrder (h : Run Regular states) : ∀ s ∈ states, s.InOrder := by
  induction h with
  | start initial =>
    intro s member
    rw [List.mem_singleton.1 member]
    exact initial.inOrder
  | step _ step ih =>
    intro s member
    rcases List.mem_cons.1 member with rfl | member
    · exact step.inOrder (ih _ (List.mem_cons_self ..))
    · exact ih s member

theorem Run.connection (run : Run Regular (s :: past)) {task : Task} (found : s.tasks[t]? = some task)
    (relied : c ∈ task.relies) : ∃ x, s.connections[c]? = some x := by
  have founded := (run.mono fun _ _ => Regular.genuine).founded s (List.mem_cons_self ..)
  exact ⟨_, List.getElem?_eq_getElem (founded.tasks task (List.mem_of_getElem? found) c relied)⟩

theorem Run.halted (run : Run Regular (s :: past)) {task : Task} (found : s.tasks[t]? = some task)
    (hurries : task.part c = .hurrying) : ∃ x, s.connections[c]? = some x ∧ x.halted := by
  have course := (run.mono fun _ _ => Regular.genuine).course c
  have fits := (course.fits _ (List.mem_cons_self ..)).part t
  rw [part_of_task found, hurries] at fits
  obtain ⟨e, here, halted⟩ := fits
  obtain ⟨x, there, rfl⟩ := Option.map_eq_some_iff.1 here
  exact ⟨x, there, halted⟩

end System

def Supervising.hasLeft : Supervising → Bool
  | spawned | serving => false
  | _ => true

theorem Supervising.next_hasLeft {s : System} {c : ConnectionId} {t : TaskId} {phase : Supervising}
    {out : Supervising × System} (left : phase.hasLeft) (h : out ∈ phase.next s c t) : out.1.hasLeft := by
  obtain ⟨x, _, action⟩ := action_of_next h
  cases action with
  | start | receive | fetch | load | reject | write | leave => cases left
  | unregister =>
    unfold unregister
    dsimp only
    split <;> rfl
  | _ => rfl

namespace System

variable {s s' s₁ : System} {t u : TaskId} {c : ConnectionId} {x : Connection}

theorem next_keeps (proper : s.Proper) (h : s' ∈ s.next t) : ∃ s₁ task', s.Keeps s₁ ∧ s' = s₁.setTask t task' := by
  unfold next at h
  split at h
  · cases h
  next c phase found =>
    obtain ⟨⟨phase', s₁⟩, acted, rfl⟩ := List.mem_map.1 h
    exact ⟨s₁, _, (Accepting.next_goes proper found acted).keeps, rfl⟩
  next c phase found =>
    obtain ⟨⟨phase', s₁⟩, acted, rfl⟩ := List.mem_map.1 h
    exact ⟨s₁, _, (Supervising.next_goes proper found acted).keeps, rfl⟩
  next c job phase found =>
    obtain ⟨⟨phase', s₁⟩, acted, rfl⟩ := List.mem_map.1 h
    exact ⟨s₁, _, (Handling.next_calm (proper.tasks t _ found) acted).1.toKeeps, rfl⟩
  next c phase found =>
    obtain ⟨⟨phase', s₁⟩, acted, rfl⟩ := List.mem_map.1 h
    exact ⟨s₁, _, (Operating.next_calm (proper.tasks t _ found) acted).1.toKeeps, rfl⟩
  next phase found =>
    obtain ⟨⟨phase', s₁⟩, acted, rfl⟩ := List.mem_map.1 h
    exact ⟨s₁, _, (Listening.next_goes proper found acted).keeps, rfl⟩

def Left (s : System) (u : TaskId) (c : ConnectionId) : Prop :=
  ∃ phase, s.tasks[u]? = some (.supervise c phase) ∧ phase.hasLeft

theorem Left.next (proper : s.Proper) (h : s' ∈ s.next t) (left : s.Left u c) : s'.Left u c := by
  obtain ⟨phase, found, hasLeft⟩ := left
  by_cases own : u = t
  · subst own
    simp only [System.next, found, List.mem_map] at h
    obtain ⟨⟨phase', s₁⟩, acted, rfl⟩ := h
    have kept := (Supervising.next_goes proper found acted).keeps.tasks u _ found
    have inside := (List.getElem?_eq_some_iff.1 kept).1
    exact ⟨phase', List.getElem?_set_self inside, Supervising.next_hasLeft hasLeft acted⟩
  · obtain ⟨s₁, task', keeps, rfl⟩ := next_keeps proper h
    refine ⟨phase, ?_, hasLeft⟩
    rw [setTask, List.getElem?_set_ne (Ne.symm own)]
    exact keeps.tasks u _ found

theorem Left.react (left : s.Left u c) (event : Event) : (s.react event).Left u c := by
  obtain ⟨phase, found, hasLeft⟩ := left
  refine ⟨phase, ?_, hasLeft⟩
  cases event with
  | takeOver addr settings socket belongs =>
    simp only [System.react]
    cases taken : s.takeOver? addr settings socket belongs with
    | none => exact found
    | some s' => exact (takeOver?_arrives taken).1.tasks u _ found
  | operate other operation =>
    exact (List.getElem?_append_left (List.getElem?_eq_some_iff.1 found).1).trans found
  | abort t =>
    have other : ∀ {operation : Operating} {other : ConnectionId}, s.tasks[t]? = some (.operate other operation) →
        t ≠ u := by
      rintro operation other here rfl
      rw [found] at here
      cases here
    simp only [System.react, abort]
    split
    next here => exact (List.getElem?_set_ne (other here)).trans found
    next operation _ here =>
      rw [setTask, List.getElem?_set_ne (other here), (Operating.abort_idle operation).tasks]
      exact found
    · exact found
  | _ => exact found

variable {past : List System}

theorem Run.left (run : Run Regular (s :: past)) {former : System} (member : former ∈ s :: past)
    (left : former.Left u c) : s.Left u c := by
  generalize states : s :: past = all at run
  induction run generalizing s past with
  | start =>
    cases states
    rw [← List.mem_singleton.1 member]
    exact left
  | @step before after earlier run step ih =>
    cases states
    rcases List.mem_cons.1 member with rfl | member
    · exact left
    · have left := ih member rfl
      cases step with
      | act t h => exact left.next (run.inOrder _ (List.mem_cons_self ..)).proper h
      | react event h => exact left.react event

end System

end Fleetwire
