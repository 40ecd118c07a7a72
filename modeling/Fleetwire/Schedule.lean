namespace Fleetwire

/-- A state that tasks act upon. `step` is one action of one task, and `none` where it has to wait. -/
structure Machine (State Task : Type) where
  step : State → Task → Option State
  tasks : State → List Task

namespace Machine

variable {State Task : Type}

def canStep (m : Machine State Task) (s : State) (task : Task) : Bool := (m.step s task).isSome

def ready (m : Machine State Task) (s : State) : List Task := (m.tasks s).filter (m.canStep s)

variable [DecidableEq Task]

def run (m : Machine State Task) : (fuel : Nat) → State → List Task → State
  | 0, s, _ => s
  | _ + 1, s, [] => s
  | fuel + 1, s, task :: queue =>
    match m.step s task with
    | none => run m fuel s queue
    | some next =>
      let waiting := task :: queue
      let joining := (m.tasks next).filter fun t => !waiting.contains t && m.canStep next t
      run m fuel next (waiting ++ joining)

/-- The number of actions after which a run is broken off. -/
def patience : Nat := 0x1000000

def settle (m : Machine State Task) (s : State) : State := m.run patience s (m.ready s)

end Machine

end Fleetwire
