import Fleetwire.Proofs.Flow.Lines

namespace Fleetwire

def Task.next (s : System) (t : TaskId) : Task → List (Task × System)
  | accept c phase => (phase.next s c t).map fun (phase, s) => (accept c phase, s)
  | supervise c phase => (phase.next s c t).map fun (phase, s) => (supervise c phase, s)
  | handle c job phase => (phase.next s c t job).map fun (phase, s) => (handle c job phase, s)
  | operate c phase => (phase.next s c t).map fun (phase, s) => (operate c phase, s)
  | listen phase => (phase.next s).map fun (phase, s) => (listen phase, s)

/-- A task may be like this without having done anything, or it is an operation. -/
def Task.isYoung : Task → Bool
  | accept _ (.handshake _) | supervise _ .spawned | handle _ _ .admitted | operate _ _ | listen .accepting => true
  | _ => false

theorem Task.next_accept {s s₁ : System} {t : TaskId} {task : Task} {c : ConnectionId} {later : Accepting}
    (h : (accept c later, s₁) ∈ task.next s t) :
    ∃ phase, task = accept c phase ∧ (later, s₁) ∈ phase.next s c t := by
  cases task with
  | accept c phase =>
    obtain ⟨⟨later, s₁⟩, acted, same⟩ := List.mem_map.1 h
    cases same
    exact ⟨phase, rfl, acted⟩
  | supervise | handle | operate | listen =>
    obtain ⟨out, acted, same⟩ := List.mem_map.1 h
    cases same

theorem Task.next_handle {s s₁ : System} {t : TaskId} {task : Task} {c : ConnectionId} {job : JobId} {later : Handling}
    (h : (handle c job later, s₁) ∈ task.next s t) :
    ∃ phase, task = handle c job phase ∧ (later, s₁) ∈ phase.next s c t job := by
  cases task with
  | handle c job phase =>
    obtain ⟨⟨later, s₁⟩, acted, same⟩ := List.mem_map.1 h
    cases same
    exact ⟨phase, rfl, acted⟩
  | accept | supervise | operate | listen =>
    obtain ⟨out, acted, same⟩ := List.mem_map.1 h
    cases same

namespace System

variable {s s' s₁ : System} {past : List System} {t : TaskId} {task task' : Task}

theorem next_of_task (found : s.tasks[t]? = some task) :
    s.next t = (task.next s t).map fun (task, s) => s.setTask t task := by
  simp only [next, found]
  cases task <;> simp only [Task.next, List.map_map] <;> rfl

theorem next_of_none (nothing : s.tasks[t]? = none) : s.next t = [] := by
  simp only [next, nothing]

theorem mem_next : s' ∈ s.next t ↔ ∃ task task' s₁, s.tasks[t]? = some task ∧ (task', s₁) ∈ task.next s t ∧
    s' = s₁.setTask t task' := by
  cases found : s.tasks[t]? with
  | none => simp [next_of_none found]
  | some task =>
    rw [next_of_task found, List.mem_map]
    constructor
    · rintro ⟨⟨task', s₁⟩, acted, rfl⟩
      exact ⟨task, task', s₁, rfl, acted, rfl⟩
    · rintro ⟨_, task', s₁, same, acted, rfl⟩
      cases same
      exact ⟨(task', s₁), acted, rfl⟩

theorem eq_of_setTask (now : (s.setTask t task).tasks[t]? = some task') : task' = task := by
  rw [setTask] at now
  obtain ⟨inside, same⟩ := List.getElem?_eq_some_iff.1 now
  rw [List.getElem_set_self] at same
  exact same.symm

theorem Begins.young {new : List Task} (begins : s.Begins s₁ new) (member : task ∈ new) : task.isYoung := by
  cases begins with
  | nothing => cases member
  | job =>
    cases List.mem_singleton.1 member
    rfl
  | connection =>
    rcases List.mem_cons.1 member with rfl | member
    · rfl
    · cases List.mem_singleton.1 member
      rfl

theorem task_of_append {old new : List Task} (young : ∀ task ∈ new, task.isYoung)
    (now : (old ++ new)[t]? = some task) : old[t]? = some task ∨ task.isYoung := by
  rw [List.getElem?_append] at now
  split at now
  · exact .inl now
  · exact .inr (young task (List.mem_of_getElem? now))

theorem Step.task_cases (founded : s.Founded) (step : Step Ordinary s s') (now : s'.tasks[t]? = some task) :
    (s.tasks[t]? = some task ∨ task.isYoung) ∨
      ∃ former s₁, s.tasks[t]? = some former ∧ (task, s₁) ∈ former.next s t ∧ s' = s₁.setTask t task := by
  cases step with
  | act u h =>
    by_cases same : u = t
    · subst same
      obtain ⟨former, later, s₁, found, acted, rfl⟩ := mem_next.1 h
      cases eq_of_setTask now
      exact .inr ⟨former, s₁, found, acted, rfl⟩
    · obtain ⟨_, s₁, _, _, turns, rfl⟩ := next_turns founded h
      obtain ⟨new, begins, tasks⟩ := turns.tasks
      rw [tasks, List.getElem?_set_ne same] at now
      exact .inl (task_of_append (fun _ => begins.young) now)
  | react event ordinary =>
    left
    cases event with
    | takeOver addr settings socket belongs =>
      cases taken : s.takeOver? addr settings socket belongs with
      | none =>
        rw [System.react, taken] at now
        exact .inl now
      | some s' =>
        rw [System.react, taken] at now
        obtain ⟨-, call, new, asks, tasks⟩ := takeOver?_lines taken
        have begins : s.Begins s' _ := .connection new asks
        exact task_of_append (fun _ => begins.young) (tasks ▸ now)
    | operate c operation =>
      exact task_of_append (fun _ member => List.mem_singleton.1 member ▸ rfl) now
    | abort u =>
      rw [System.react] at now
      rcases s.abort_turns u with same | ⟨c, operation, s₁, found, turns, same⟩
      · rw [same] at now
        exact .inl now
      · rw [same] at now
        by_cases own : u = t
        · subst own
          cases eq_of_setTask now
          exact .inr rfl
        · obtain ⟨new, begins, tasks⟩ := turns.tasks
          rw [tasks, List.getElem?_set_ne own] at now
          exact task_of_append (fun _ => begins.young) now
    | unregister => exact ordinary.elim
    | _ => exact .inl now

theorem task_of_next (founded : s.Founded) (found : s.tasks[t]? = some task) (h : s' ∈ s.next t) :
    ∃ task' s₁, (task', s₁) ∈ task.next s t ∧ s' = s₁.setTask t task' ∧ s'.tasks[t]? = some task' := by
  obtain ⟨former, task', s₁, here, acted, rfl⟩ := mem_next.1 h
  cases found.symm.trans here
  obtain ⟨_, s₂, later, _, turns, same⟩ := next_turns founded h
  obtain ⟨new, _, tasks⟩ := turns.tasks
  have inside : t < s₁.tasks.length := by
    have within : t < s.tasks.length := (List.getElem?_eq_some_iff.1 found).1
    have lengths := congrArg List.length tasks
    rw [← same] at lengths
    simp only [setTask, List.length_set, List.length_append] at lengths
    rw [lengths]
    exact Nat.lt_of_lt_of_le within (Nat.le_add_right ..)
  exact ⟨task', s₁, acted, rfl, List.getElem?_set_self inside⟩

theorem Step.task_becomes {allowed : System → Event → Prop} (founded : s.Founded) (step : Step allowed s s')
    (found : s.tasks[t]? = some task) :
    s'.tasks[t]? = some task ∨
      (∃ c operation, task = .operate c operation ∧ s'.tasks[t]? = some (.operate c .aborted)) ∨
      ∃ task' s₁, (task', s₁) ∈ task.next s t ∧ s' = s₁.setTask t task' ∧ s'.tasks[t]? = some task' := by
  cases step with
  | act u h =>
    by_cases own : t = u
    · subst own
      exact .inr (.inr (task_of_next founded found h))
    · obtain ⟨_, s₁, _, _, turns, rfl⟩ := next_turns founded h
      exact .inl (turns.other own found)
  | react event =>
    cases event with
    | takeOver addr settings socket belongs =>
      left
      rw [System.react]
      cases taken : s.takeOver? addr settings socket belongs with
      | none => exact found
      | some s' =>
        obtain ⟨-, _, _, _, tasks⟩ := takeOver?_lines taken
        exact getElem?_of_kept (tasks ▸ List.prefix_append ..) t _ found
    | operate c operation => exact .inl (getElem?_of_kept (List.prefix_append ..) t _ found)
    | abort u =>
      rw [System.react]
      rcases s.abort_turns u with same | ⟨c, operation, s₁, here, turns, same⟩
      · rw [same]
        exact .inl found
      · rw [same]
        by_cases own : t = u
        · subst own
          cases found.symm.trans here
          exact .inr (.inl ⟨c, operation, rfl, turns.acted found⟩)
        · exact .inl (turns.other own found)
    | _ => exact .inl found

/-- What lasts, and holds of young tasks and of whatever becomes of a task of which it holds, holds of all tasks. -/
theorem Run.task_holds {motive : List System → TaskId → Task → Prop} (run : Run Ordinary (s :: past))
    (young : ∀ states t task, task.isYoung → motive states t task)
    (lasts : ∀ states after t task, motive states t task → motive (after :: states) t task)
    (next : ∀ before earlier t former task s₁, before.tasks[t]? = some former → (task, s₁) ∈ former.next before t →
      motive (before :: earlier) t former → motive (s₁.setTask t task :: before :: earlier) t task)
    (found : s.tasks[t]? = some task) : motive (s :: past) t task := by
  generalize all : s :: past = states at run
  induction run generalizing s past t task with
  | start initial =>
    cases all
    rw [initial.tasks task (List.mem_of_getElem? found)]
    exact young _ _ _ rfl
  | @step before after earlier run step ih =>
    cases all
    have genuine : Run Genuine (before :: earlier) := run.mono fun _ _ => Ordinary.genuine
    have founded := genuine.founded _ (List.mem_cons_self ..)
    rcases step.task_cases founded found with (former | new) | ⟨former, s₁, here, acted, rfl⟩
    · exact lasts _ _ _ _ (ih former rfl)
    · exact young _ _ _ new
    · exact next _ _ _ _ _ _ here acted (ih here rfl)

theorem Run.tasks_hold {motive : List System → Task → Prop} (run : Run Ordinary (s :: past))
    (young : ∀ states task, task.isYoung → motive states task)
    (lasts : ∀ states after task, motive states task → motive (after :: states) task)
    (next : ∀ before earlier t former task s₁, (task, s₁) ∈ former.next before t →
      motive (before :: earlier) former → motive (s₁.setTask t task :: before :: earlier) task)
    (found : s.tasks[t]? = some task) : motive (s :: past) task :=
  run.task_holds (motive := fun states _ task => motive states task) (fun states _ => young states)
    (fun states after _ => lasts states after)
    (fun before earlier t former task s₁ _ => next before earlier t former task s₁) found

end System

end Fleetwire
