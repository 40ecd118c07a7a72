import Fleetwire.Proofs.Indifference.Layer
import Fleetwire.Proofs.Isolation.Frame
import Fleetwire.Proofs.Replay

namespace Fleetwire

open Fleetwire.System

namespace Handling

variable {s : System} {c : ConnectionId} {t : TaskId} {connection : Connection}

theorem Performs.recordsFile {id : JobId} {job : Job} {phase : Handling} {out : Handling × System}
    (performs : Performs s c t connection id job phase out) : out.1.recordsFile := by
  cases performs with
  | begin begins => cases begins <;> trivial
  | _ => trivial

theorem next_recordsFile {id : JobId} {phase : Handling} {out : Handling × System} (h : out ∈ phase.next s c t id) :
    out.1.recordsFile := by
  obtain ⟨connection, job, _, _, performs⟩ := performs_of_next h
  exact performs.recordsFile

end Handling

theorem Task.recordsFile_of_isYoung {task : Task} (young : task.isYoung) : task.recordsFile := by
  cases task with
  | handle c job phase =>
    cases phase with
    | admitted => trivial
    | queued | acting | finished => cases young
  | accept | supervise | operate | listen => trivial

theorem Task.next_recordsFile {s s₁ : System} {t : TaskId} {task task' : Task} (h : (task', s₁) ∈ task.next s t) :
    task'.recordsFile := by
  cases task' with
  | handle c job phase =>
    obtain ⟨former, rfl, acted⟩ := Task.next_handle h
    exact Handling.next_recordsFile acted
  | accept | supervise | operate | listen => trivial

namespace System

variable {s s' start : System} {past past' : List System} {c : ConnectionId} {t : TaskId}

theorem Run.recordsFile (run : Run Ordinary (s :: past)) {task : Task} (found : s.tasks[t]? = some task) :
    task.recordsFile :=
  run.tasks_hold (fun _ _ young => Task.recordsFile_of_isYoung young) (fun _ _ _ records => records)
    (fun _ _ _ _ _ _ acted _ => Task.next_recordsFile acted) found

theorem SameLayer.ordinary (h : SameLayer s s') (event : Event) : s'.Ordinary event ↔ s.Ordinary event := by
  cases event with
  | operate c operation => simp only [Ordinary, serves, h.connections]
  | _ => exact Iff.rfl

theorem choice_of_step (step : Step Ordinary s s') : ∃ choice, s.choose? choice = some s' := by
  cases step with
  | act t member =>
    obtain ⟨passed, found⟩ := List.mem_iff_getElem?.1 member
    exact ⟨.act t passed, found⟩
  | react event ordinary => exact ⟨.react event, if_pos ordinary⟩

theorem Run.choices (run : Run Ordinary (s :: past)) : ∃ (start : System) (choices : List Choice), start.Initial ∧
    choices.length = past.length ∧ ∀ more, start.replay [] (choices ++ more) = s.replay past more := by
  generalize all : s :: past = states at run
  induction run generalizing s past with
  | start initial =>
    cases all
    exact ⟨_, [], initial, rfl, fun _ => rfl⟩
  | @step before after earlier run step ih =>
    cases all
    obtain ⟨start, choices, initial, count, continues⟩ := ih rfl
    obtain ⟨choice, chosen⟩ := choice_of_step step
    refine ⟨start, choices ++ [choice], initial, by simp [count], fun more => ?_⟩
    rw [List.append_assoc, continues, List.singleton_append, replay, chosen]

def standing (s : System) (c : ConnectionId) : Option (Stage × Bool × Bool × Bool) :=
  (s.connections[c]?).map fun x => (x.stage, x.closed, x.halted, x.router.faulted)

end System

end Fleetwire
