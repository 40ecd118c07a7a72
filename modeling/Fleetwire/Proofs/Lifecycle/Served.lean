import Fleetwire.Proofs.Lifecycle.View

namespace Fleetwire

namespace Router

def Unanswered (r : Router) : Prop :=
  ∀ (slot : SlotId) (response : Message), r.slots[slot]? ≠ some (.filled response)

variable {r : Router}

theorem Unanswered.of_slots {r' : Router} (h : r.Unanswered) (same : r'.slots = r.slots) :
    r'.Unanswered := by
  intro slot response
  rw [same]
  exact h slot response

theorem Unanswered.modify (h : r.Unanswered) (slot : SlotId) {f : Slot → Slot}
    (empty : ∀ content response, f content = .filled response → content = .filled response) :
    Unanswered { r with slots := r.slots.modify slot f } := by
  intro other response
  rw [List.getElem?_modify]
  intro filled
  obtain ⟨content, found, now⟩ := Option.map_eq_some_iff.1 filled
  split at now
  · exact h other response (found.trans (congrArg some (empty content response now)))
  · exact h other response (found.trans (congrArg some now))

theorem Unanswered.closeSlot (h : r.Unanswered) (slot : SlotId) : (r.closeSlot slot).Unanswered := by
  apply h.modify
  intro content response now
  split at now
  · cases now
  · exact now

theorem Unanswered.abandon (h : r.Unanswered) (slot : SlotId) : (r.abandon slot).Unanswered := by
  apply h.modify
  intro content response now
  split at now
  · cases now
  · exact now

theorem Unanswered.cancel (h : r.Unanswered) (id : MessageId) : (r.cancel id).2.Unanswered := by
  unfold Router.cancel
  split
  · exact (h.closeSlot _).of_slots rfl
  · exact h

theorem Unanswered.failAll (h : r.Unanswered) : r.failAll.2.Unanswered := by
  have all : ∀ (slots : List SlotId) (r : Router), r.Unanswered →
      (slots.foldl Router.closeSlot r).Unanswered := by
    intro slots
    induction slots with
    | nil => exact fun _ h => h
    | cons slot slots ih => exact fun r h => ih _ (h.closeSlot slot)
  exact (all r.pending.values r h).of_slots rfl

theorem Unanswered.expect (h : r.Unanswered) (id : MessageId) : (r.expect id).2.Unanswered := by
  have former : ∀ r' : Router, r'.Unanswered →
      Unanswered { r' with
        slots := r'.slots ++ [.waiting], pending := r'.pending.insert id r'.slots.length } := by
    intro r' h' slot response filled
    rcases List.mem_append.1 (List.mem_of_getElem? filled) with old | new
    · obtain ⟨place, found⟩ := List.mem_iff_getElem?.1 old
      exact h' place response found
    · cases List.mem_singleton.1 new
  unfold Router.expect
  split
  · exact former _ (h.closeSlot _)
  · exact former _ h

theorem slots_finish (id : JobId) (ending : Ending) : (r.finish id ending).2.slots = r.slots := by
  unfold Router.finish
  split
  · rfl
  · cases ending <;> rfl

end Router

def Closing.waits : Closing → Bool
  | halt | look | wait => true
  | claim | failAll | publish => false

def Accepting.relies (c : ConnectionId) : Accepting → List ConnectionId
  | handshake _ | refuse _ _ | finished _ => []
  | marking displaced _ | announcing displaced _ | activate displaced
  | releaseIdentity (.admitted displaced) | releaseLifecycle (.admitted displaced) =>
    c :: displaced.toList
  | replace old _ => [c, old]
  | _ => [c]

/-- The connections that a task takes to be served. -/
def Task.relies : Task → List ConnectionId
  | accept c phase => phase.relies c
  | supervise _ .spawned => []
  | supervise c _ | handle c _ _ | operate c _ => [c]
  | listen (.halt agents) | listen (.closing agents _) => agents
  | listen _ => []

def Task.closing? : Task → Option Closing
  | accept _ (.replace _ closing) | handle _ _ (.acting _ (.closing closing))
  | operate _ (.closing closing) | listen (.closing _ closing) => some closing
  | _ => none

def Task.errand? : Task → Option (ConnectionId × Errand × Bool)
  | accept c (.marking _ errand) | accept c (.announcing _ errand)
  | supervise c (.marking _ _ errand) | supervise c (.announcing _ _ errand) => some (c, errand, true)
  | handle c _ (.acting _ (.recording _ errand)) | handle c _ (.acting _ (.reporting errand)) =>
    some (c, errand, false)
  | _ => none

structure Task.Proper (s : System) (task : Task) : Prop where
  relies : ∀ c ∈ task.relies, s.serves c
  waits : ∀ closing, task.closing? = some closing → closing.waits
  errands : ∀ c errand transition, task.errand? = some (c, errand, transition) →
    errand.source = c ∧ errand.report.isTransition = transition

namespace System

structure Proper (s : System) : Prop where
  tasks : ∀ (t : TaskId) (task : Task), s.tasks[t]? = some task → task.Proper s
  entries : ∀ (identity : String) (c : ConnectionId), s.directory.get? identity = some c → s.serves c
  answers : ∀ (c : ConnectionId) (x : Connection), s.connections[c]? = some x →
    x.supervised = false → x.router.Unanswered

variable {s s' s'' : System}

theorem serves_iff {c : ConnectionId} :
    s.serves c ↔ ∃ x, s.connections[c]? = some x ∧ x.supervised = true := by
  unfold serves
  cases s.connections[c]? <;> simp

def Serves (s s' : System) : Prop := ∀ c, s.serves c → s'.serves c

end System

theorem Task.Proper.mono {s s' : System} {task : Task} (h : task.Proper s) (served : s.Serves s') :
    task.Proper s' :=
  ⟨fun c member => served c (h.relies c member), h.waits, h.errands⟩

end Fleetwire
