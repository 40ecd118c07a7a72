import Fleetwire.Proofs.Lifecycle.Simulation

namespace Fleetwire

namespace System

inductive Choice where
  /-- The task goes on, with so many of its outcomes passed over. -/
  | act (t : TaskId) (passed : Nat)
  | react (event : Event)

instance (s : System) : (event : Event) → Decidable (s.Ordinary event)
  | .operate c operation => inferInstanceAs (Decidable (s.serves c ∧ operation.isNew))
  | .unregister _ => isFalse id
  | .arrive .. | .takeOver .. | .abort _ | .bind .. | .release _ | .elapse _ | .halt | .stop
  | .peerWrites .. | .peerEnds _ | .peerReads .. | .peerLeaves _ => isTrue trivial

def choose? (s : System) : Choice → Option System
  | .act t passed => (s.next t)[passed]?
  | .react event => if s.Ordinary event then some (s.react event) else none

/-- The last state and those before it. It ends with the first choice that there is not. -/
def replay (s : System) (past : List System) : List Choice → System × List System
  | [] => (s, past)
  | choice :: choices =>
    match s.choose? choice with
    | none => (s, past)
    | some s' => replay s' (s :: past) choices

theorem step_of_choose? {s s' : System} {choice : Choice} (h : s.choose? choice = some s') :
    Step Ordinary s s' := by
  cases choice with
  | act t passed => exact .act t (List.mem_of_getElem? h)
  | react event =>
    simp only [choose?] at h
    split at h
    next ordinary =>
      cases h
      exact .react event ordinary
    · cases h

theorem run_replay {s : System} {past : List System} (run : Run Ordinary (s :: past))
    (choices : List Choice) :
    Run Ordinary ((s.replay past choices).1 :: (s.replay past choices).2) := by
  induction choices generalizing s past with
  | nil => exact run
  | cons choice choices ih =>
    unfold replay
    split
    · exact run
    next s' chosen => exact ih (run.step (step_of_choose? chosen))

theorem collaborators_replay {s : System} (proper : s.Proper) (past : List System)
    (choices : List Choice) : (s.replay past choices).1.collaborators = s.collaborators := by
  induction choices generalizing s past with
  | nil => rfl
  | cons choice choices ih =>
    unfold replay
    split
    · rfl
    next s' chosen =>
      have proceeds := (step_of_choose? chosen).proceeds proper
      rw [ih proceeds.proper, proceeds.collaborators]

def introduction (n : Nat) (identity : String) : Bytes :=
  let fields := (MessagePack.Shape.record Catalog.agentIdentity).encode (identity, "1.0", "", ())
  let message := (Message.request (.fresh n) .agentInfo Message.emptyPayload).reply fields
  (Frame.encode message.encode).toOption.getD []

/-- The `c`-th connection comes in and goes through its acceptance, as long as nothing stands in its way,
where no task was begun but for connections. -/
def admission (c : ConnectionId) (addr : Endpoint) (policy : DuplicatePolicy) (identity : String) :
    List Choice :=
  let acceptor := 2 * c
  let supervisor := 2 * c + 1
  let settings := { duplicateIdentity := policy }
  .react (.takeOver addr settings (.ofCapacity 1024 none none) true) :: .act supervisor 0 ::
    .replicate 4 (.act acceptor 0) ++
    .react (.peerWrites c (introduction c identity)) :: .replicate 4 (.act supervisor 0) ++
    .replicate 10 (.act acceptor 0)

def takedown (c : ConnectionId) : List Choice := .replicate 12 (.act (2 * c + 1) 0)

def handover : List Choice :=
  admission 0 (.v4 10 0 0 1 4000) .evict "host" ++ admission 1 (.v4 10 0 0 2 4000) .evict "host" ++
    .replicate 2 (.act 2 0) ++ takedown 0 ++ [.act 2 0]

def slowArrivals : System where
  collaborators := { delay := fun report => if report = .markOnline "host" (.v4 10 0 0 1 4000) then 1000 else 0 }

theorem initial_slowArrivals : Initial slowArrivals := ⟨rfl, rfl, rfl, rfl, fun _ member => nomatch member⟩

theorem initial_empty : Initial {} := ⟨rfl, rfl, rfl, rfl, fun _ member => nomatch member⟩

theorem run_replay_empty (choices : List Choice) :
    Run Ordinary ((replay {} [] choices).1 :: (replay {} [] choices).2) :=
  run_replay (.start initial_empty) choices

theorem not_mayFail_replay_empty (choices : List Choice) (report : Report) :
    ¬ (replay {} [] choices).1.collaborators.mayFail report := by
  rw [collaborators_replay initial_empty.proper]
  rintro ⟨count, fails⟩
  cases fails

end System

end Fleetwire
