import Fleetwire.Router

namespace Fleetwire.Router

inductive Operation where
  | bind (kind : MessageKind) (handler : Handler)
  | expect (id : MessageId)
  | cancel (id : MessageId)
  | failAll
  | abandon (slot : SlotId)
  | route (message : Message)
  | askWorker (job : JobId)
  | finish (job : JobId) (ending : Ending)
deriving DecidableEq, Repr

def perform (r : Router) : Operation → Router
  | .bind kind handler => r.bind kind handler
  | .expect id => (r.expect id).2
  | .cancel id => (r.cancel id).2
  | .failAll => r.failAll.2
  | .abandon slot => r.abandon slot
  | .route message => (r.route message).2.2
  | .askWorker job => r.askWorker job
  | .finish job ending => (r.finish job ending).2

def run (r : Router) (operations : List Operation) : Router := operations.foldl perform r

namespace Operation

def expected? : Operation → Option MessageId
  | expect id => some id
  | _ => none

def releases (id : MessageId) : Operation → Bool
  | route message => message.id = id
  | cancel other => other = id
  | failAll => true
  | _ => false

def settles? (id : MessageId) (slot : SlotId) : Operation → Option Slot
  | route message => if message.id = id then some (.filled message) else none
  | cancel other => if other = id then some .closed else none
  | failAll => some .closed
  | abandon other => if other = slot then some .abandoned else none
  | _ => none

end Operation

variable {r : Router} {operation : Operation} {id : MessageId} {slot : SlotId}

theorem run_append (r : Router) (before after : List Operation) :
    r.run (before ++ after) = (r.run before).run after :=
  List.foldl_append ..

theorem get?_pending_route (message : Message) :
    (r.route message).2.2.pending.get? id =
      if id = message.id then none else r.pending.get? id := by
  unfold route
  split
  next slot found =>
    have erased : (r.respond slot message).2.pending = r.pending.erase message.id := by
      simp only [respond]
      split <;> rfl
    rw [erased, Assoc.get?_erase]
  next unknown =>
    have same : (if id = message.id then none else r.pending.get? id) = r.pending.get? id := by
      split
      next here => rw [here, unknown]
      · rfl
    rw [same]
    split
    · rfl
    · split <;> rfl

theorem pending_expect (r : Router) (id : MessageId) :
    (r.expect id).2.pending = r.pending.insert id r.slots.length := by
  unfold expect
  split
  · simp only [closeSlot, List.length_modify]
  · rfl

theorem get?_pending_cancel (other : MessageId) :
    (r.cancel other).2.pending.get? id = if id = other then none else r.pending.get? id := by
  unfold cancel
  split
  · exact Assoc.get?_erase ..
  next unknown =>
    split
    next here => rw [here, unknown]
    · rfl

theorem slots_route_of_unknown {message : Message} (unknown : r.pending.get? message.id = none) :
    (r.route message).2.2.slots = r.slots := by
  simp only [route, unknown]
  split
  · rfl
  · split <;> rfl

theorem finish_calls (job : JobId) (ending : Ending) :
    (r.finish job ending).2.pending = r.pending ∧ (r.finish job ending).2.slots = r.slots := by
  unfold finish
  split
  · exact ⟨rfl, rfl⟩
  · cases ending <;> exact ⟨rfl, rfl⟩

theorem get?_pending_perform (r : Router) (operation : Operation) (id : MessageId) :
    (r.perform operation).pending.get? id =
      if operation.expected? = some id then some r.slots.length
      else if operation.releases id then none else r.pending.get? id := by
  cases operation with
  | expect other =>
    have same : other = id ↔ id = other := ⟨Eq.symm, Eq.symm⟩
    simp only [perform, pending_expect, Assoc.get?_insert, Operation.expected?, Operation.releases,
      Option.some.injEq, same]
    rfl
  | cancel other =>
    have same : other = id ↔ id = other := ⟨Eq.symm, Eq.symm⟩
    simp [perform, get?_pending_cancel, Operation.expected?, Operation.releases, same]
  | route message =>
    have same : message.id = id ↔ id = message.id := ⟨Eq.symm, Eq.symm⟩
    simp [perform, get?_pending_route, Operation.expected?, Operation.releases, same]
  | failAll => rfl
  | finish job ending => rw [perform, (finish_calls job ending).1]; rfl
  | bind | abandon | askWorker => rfl

theorem slots_closeSlot (r : Router) (slot k : SlotId) :
    (r.closeSlot slot).slots[k]? =
      (r.slots[k]?).map fun s => if k = slot ∧ s = .waiting then .closed else s := by
  rw [closeSlot, List.getElem?_modify]
  cases r.slots[k]? with
  | none => rfl
  | some s =>
    by_cases same : k = slot
    · simp [same]
    · have different : ¬ slot = k := fun h => same h.symm
      simp [same, different]

theorem slots_closeSlots (slots : List SlotId) (r : Router) (k : SlotId) :
    (slots.foldl closeSlot r).slots[k]? =
      (r.slots[k]?).map fun s => if k ∈ slots ∧ s = .waiting then .closed else s := by
  induction slots generalizing r with
  | nil => simp
  | cons slot slots ih =>
    rw [List.foldl_cons, ih, slots_closeSlot, Option.map_map]
    congr 1
    funext s
    by_cases first : k = slot <;> by_cases rest : k ∈ slots <;> by_cases waits : s = .waiting <;>
      simp [first, rest, waits]

def Operation.reaches (r : Router) (k : SlotId) : Operation → Option Slot
  | expect id | cancel id => if r.pending.get? id = some k then some .closed else none
  | failAll => if k ∈ r.pending.values then some .closed else none
  | abandon slot => if k = slot then some .abandoned else none
  | route message => if r.pending.get? message.id = some k then some (.filled message) else none
  | _ => none

variable {k : SlotId} {content : Slot}

theorem slots_expect (found : r.slots[k]? = some content) (id : MessageId) :
    (r.expect id).2.slots[k]? =
      some (if r.pending.get? id = some k ∧ content = .waiting then .closed else content) := by
  have inside := (List.getElem?_eq_some_iff.1 found).1
  unfold expect
  split
  next former pending =>
    have within : k < (r.closeSlot former).slots.length := by rwa [closeSlot, List.length_modify]
    have same : former = k ↔ k = former := ⟨Eq.symm, Eq.symm⟩
    simp only [List.getElem?_append_left within, slots_closeSlot, found, Option.map_some, pending,
      Option.some.injEq, same]
  next unknown =>
    simp only [List.getElem?_append_left inside, found, unknown]
    simp

theorem slots_cancel (found : r.slots[k]? = some content) (id : MessageId) :
    (r.cancel id).2.slots[k]? =
      some (if r.pending.get? id = some k ∧ content = .waiting then .closed else content) := by
  unfold cancel
  split
  next slot pending =>
    have same : slot = k ↔ k = slot := ⟨Eq.symm, Eq.symm⟩
    simp only [slots_closeSlot, found, Option.map_some, pending, Option.some.injEq, same]
  next unknown => simp [found, unknown]

theorem slots_route (found : r.slots[k]? = some content) (message : Message) :
    (r.route message).2.2.slots[k]? = some (if r.pending.get? message.id = some k ∧
      content = .waiting then .filled message else content) := by
  cases pending : r.pending.get? message.id with
  | none => rw [slots_route_of_unknown pending, found]; simp
  | some slot =>
    simp only [route, pending, respond, Option.some.injEq]
    by_cases same : slot = k
    · subst same
      by_cases waits : content = .waiting
      · have inside := (List.getElem?_eq_some_iff.1 found).1
        have waiting : r.slots[slot]? = some .waiting := by rw [found, waits]
        rw [if_pos waiting, if_pos ⟨rfl, waits⟩]
        exact List.getElem?_set_self inside
      · have taken : r.slots[slot]? ≠ some .waiting := fun h =>
          waits (Option.some.inj (found.symm.trans h))
        rw [if_neg taken, if_neg (fun h => waits h.2)]
        exact found
    · split <;> simp [same, found]

theorem slots_perform (found : r.slots[k]? = some content) (operation : Operation) :
    (r.perform operation).slots[k]? =
      some (if content = .waiting then (operation.reaches r k).getD .waiting else content) := by
  have decided : ∀ (reached : Prop) [Decidable reached] (outcome : Slot),
      (if reached ∧ content = .waiting then outcome else content) =
        if content = .waiting then (if reached then some outcome else none).getD .waiting
        else content := by
    intro reached _ outcome
    by_cases waits : content = .waiting <;> by_cases h : reached <;> simp [waits, h]
  cases operation with
  | expect id => exact (slots_expect found id).trans (congrArg some (decided ..))
  | cancel id => exact (slots_cancel found id).trans (congrArg some (decided ..))
  | route message => exact (slots_route found message).trans (congrArg some (decided ..))
  | failAll =>
    have closed : r.failAll.2.slots[k]? = _ := slots_closeSlots r.pending.values r k
    rw [found, Option.map_some] at closed
    exact closed.trans (congrArg some (decided ..))
  | abandon slot =>
    have same : slot = k ↔ k = slot := ⟨Eq.symm, Eq.symm⟩
    rw [perform, abandon, List.getElem?_modify, found]
    by_cases own : k = slot <;> by_cases waits : content = .waiting <;>
      simp [Operation.reaches, own, waits, same]
  | bind | askWorker => simp [perform, bind, askWorker, found, Operation.reaches]
  | finish job ending => simp [perform, (finish_calls job ending).2, found, Operation.reaches]

end Fleetwire.Router
