import Fleetwire.Proofs.Router

namespace Fleetwire.Router

/-- The call in the slot is open: its caller waits, and its id leads to the slot. -/
structure Open (r : Router) (id : MessageId) (slot : SlotId) : Prop where
  waits : r.slots[slot]? = some .waiting
  awaited : r.pending.get? id = some slot
  own : ∀ other, r.pending.get? other = some slot → other = id

def Awaited (id : MessageId) (operations : List Operation) : Prop :=
  ∃ before after, operations = before ++ .expect id :: after ∧
    ∀ operation ∈ after, ¬ operation.releases id

def Bounded (r : Router) : Prop :=
  ∀ id slot, r.pending.get? id = some slot → slot < r.slots.length

variable {r : Router} {operation : Operation} {operations : List Operation} {id : MessageId}
  {slot : SlotId} {content outcome : Slot}

theorem length_slots_perform (r : Router) (operation : Operation) :
    r.slots.length ≤ (r.perform operation).slots.length := by
  by_cases empty : r.slots.length = 0
  · rw [empty]
    exact Nat.zero_le _
  · have last : r.slots.length - 1 < r.slots.length := by omega
    have kept := slots_perform (List.getElem?_eq_getElem last) operation
    have inside := (List.getElem?_eq_some_iff.1 kept).1
    omega

theorem slots_expect_new (r : Router) (id : MessageId) :
    (r.expect id).2.slots.length = r.slots.length + 1 ∧
      (r.expect id).2.slots[r.slots.length]? = some .waiting := by
  unfold expect
  split
  · simp [closeSlot]
  · simp

theorem Bounded.perform (h : r.Bounded) (operation : Operation) : (r.perform operation).Bounded := by
  intro id slot found
  have longer := length_slots_perform r operation
  rw [get?_pending_perform] at found
  split at found
  next made =>
    cases found
    cases operation with
    | expect other =>
      rw [Router.perform, (slots_expect_new r other).1]
      exact Nat.lt_succ_self _
    | _ => cases made
  · split at found
    · cases found
    · exact Nat.lt_of_lt_of_le (h id slot found) longer

theorem Open.reaches (h : r.Open id slot) (new : operation.expected? ≠ some id) :
    operation.reaches r slot = operation.settles? id slot := by
  have leads : ∀ other, r.pending.get? other = some slot ↔ other = id := by
    intro other
    exact ⟨h.own other, fun same => same ▸ h.awaited⟩
  cases operation with
  | expect other =>
    have different : other ≠ id := fun same => new (congrArg some same)
    simp [Operation.reaches, Operation.settles?, leads, different]
  | cancel other => simp only [Operation.reaches, Operation.settles?, leads]
  | route message => simp only [Operation.reaches, Operation.settles?, leads]
  | failAll =>
    have member : slot ∈ r.pending.values := Assoc.mem_values.2 ⟨id, h.awaited⟩
    simp [Operation.reaches, Operation.settles?, member]
  | abandon other =>
    have same : slot = other ↔ other = slot := ⟨Eq.symm, Eq.symm⟩
    simp only [Operation.reaches, Operation.settles?, same]
  | _ => rfl

theorem Open.perform (h : r.Open id slot) (new : operation.expected? ≠ some id)
    (unsettled : operation.settles? id slot = none) : (r.perform operation).Open id slot := by
  have inside := (List.getElem?_eq_some_iff.1 h.waits).1
  -- What does not settle the call does not give up its id either.
  have kept : operation.releases id = false := by
    cases operation with
    | route message | cancel other => simpa [Operation.settles?, Operation.releases] using unsettled
    | failAll => cases unsettled
    | _ => rfl
  refine ⟨?_, ?_, fun other leads => ?_⟩
  · rw [slots_perform h.waits, h.reaches new, unsettled]
    rfl
  · rw [get?_pending_perform, if_neg new, kept]
    exact h.awaited
  · rw [get?_pending_perform] at leads
    split at leads
    · cases leads
      exact absurd inside (Nat.lt_irrefl _)
    · split at leads
      · cases leads
      · exact h.own other leads

theorem Open.settle (h : r.Open id slot) (new : operation.expected? ≠ some id)
    (settles : operation.settles? id slot = some outcome) :
    (r.perform operation).slots[slot]? = some outcome := by
  rw [slots_perform h.waits, h.reaches new, settles]
  rfl

theorem ne_waiting_of_settles (settles : operation.settles? id slot = some outcome) :
    outcome ≠ .waiting := by
  rintro rfl
  cases operation with
  | route | cancel | abandon =>
    simp only [Operation.settles?] at settles
    split at settles <;> cases settles
  | _ => cases settles

theorem Bounded.open_expect (h : r.Bounded) (id : MessageId) :
    (r.expect id).2.Open id (r.expect id).1 := by
  have first : (r.expect id).1 = r.slots.length := by
    unfold expect
    split
    · simp [closeSlot]
    · rfl
  refine ⟨?_, ?_, fun other leads => ?_⟩
  · rw [first, (slots_expect_new r id).2]
  · rw [pending_expect, Assoc.get?_insert, if_pos rfl, first]
  · rw [pending_expect, Assoc.get?_insert, first] at leads
    split at leads
    next same => exact same
    · exact absurd (h other _ leads) (Nat.lt_irrefl _)

theorem Bounded.run (h : r.Bounded) (operations : List Operation) : (r.run operations).Bounded := by
  induction operations generalizing r with
  | nil => exact h
  | cons operation operations ih => exact ih (h.perform operation)

theorem settled_run (found : r.slots[slot]? = some content) (settled : content ≠ .waiting)
    (operations : List Operation) : (r.run operations).slots[slot]? = some content := by
  induction operations generalizing r with
  | nil => exact found
  | cons operation operations ih =>
    apply ih
    rw [slots_perform found, if_neg settled]

theorem Open.run (h : r.Open id slot) (new : id ∉ operations.filterMap Operation.expected?) :
    (r.run operations).slots[slot]? =
      some ((operations.findSome? (·.settles? id slot)).getD .waiting) := by
  induction operations generalizing r with
  | nil => exact h.waits
  | cons operation operations ih =>
    have other : operation.expected? ≠ some id := fun same =>
      new (List.mem_filterMap.2 ⟨operation, List.mem_cons_self .., same⟩)
    have later : id ∉ operations.filterMap Operation.expected? := fun member => by
      obtain ⟨again, inside, same⟩ := List.mem_filterMap.1 member
      exact new (List.mem_filterMap.2 ⟨again, List.mem_cons_of_mem _ inside, same⟩)
    rw [List.findSome?_cons]
    cases settles : operation.settles? id slot with
    | none => exact ih (h.perform other settles) later
    | some outcome => exact settled_run (h.settle other settles) (ne_waiting_of_settles settles) _

theorem awaited_cons : Awaited id (operation :: operations) ↔ Awaited id operations ∨
    operation = .expect id ∧ ∀ later ∈ operations, ¬ later.releases id := by
  constructor
  · rintro ⟨before, after, same, kept⟩
    cases before with
    | nil =>
      cases same
      exact Or.inr ⟨rfl, kept⟩
    | cons first before =>
      cases same
      exact Or.inl ⟨before, after, rfl, kept⟩
  · rintro (⟨before, after, rfl, kept⟩ | ⟨rfl, kept⟩)
    · exact ⟨operation :: before, after, rfl, kept⟩
    · exact ⟨[], operations, rfl, kept⟩

theorem pending_run : (r.run operations).pending.get? id ≠ none ↔ Awaited id operations ∨
    r.pending.get? id ≠ none ∧ ∀ operation ∈ operations, ¬ operation.releases id := by
  induction operations generalizing r with
  | nil =>
    refine ⟨fun found => Or.inr ⟨found, nofun⟩, ?_⟩
    rintro (⟨before, after, same, _⟩ | ⟨found, _⟩)
    · cases before <;> cases same
    · exact found
  | cons operation operations ih =>
    have made : operation.expected? = some id ↔ operation = .expect id := by
      cases operation <;> simp [Operation.expected?]
    have first : (r.perform operation).pending.get? id ≠ none ↔
        operation = .expect id ∨ r.pending.get? id ≠ none ∧ ¬ operation.releases id := by
      rw [get?_pending_perform, ← made]
      by_cases new : operation.expected? = some id <;> by_cases ended : operation.releases id <;>
        simp [new, ended]
    have rest := ih (r := r.perform operation)
    rw [show r.run (operation :: operations) = (r.perform operation).run operations from rfl, rest,
      first, awaited_cons, List.forall_mem_cons, or_and_right, and_assoc, or_assoc]

theorem route_response_iff {message : Message} :
    (r.route message).1 = .response ↔ r.pending.get? message.id ≠ none := by
  cases pending : r.pending.get? message.id with
  | some slot => simp [route, pending]
  | none =>
    simp only [route, pending]
    split
    · simp
    · split <;> simp

theorem route_of_response {message : Message} (response : (r.route message).1 = .response) :
    ∃ pending slots, (r.route message).2.2 = { r with pending, slots } := by
  obtain ⟨slot, pending⟩ := Option.ne_none_iff_exists'.1 (route_response_iff.1 response)
  simp only [route, pending, respond]
  split
  · exact ⟨_, _, rfl⟩
  · exact ⟨_, r.slots, rfl⟩

theorem bounded_ofLimits {concurrent backlog : Nat} (made : ofLimits? concurrent backlog = some r) :
    r.Bounded ∧ ∀ id, r.pending.get? id = none := by
  unfold ofLimits? at made
  split at made
  · cases made
    exact ⟨nofun, fun _ => rfl⟩
  · cases made

/-- A call with an id of its own gets the first message with this id that comes while it is open; it is closed
if it is cancelled or all calls fail before that. A message is taken for a response exactly while a call with
its id is open; then it takes up no capacity, and otherwise it does not reach any call. -/
theorem responses_reach_their_calls {concurrent backlog : Nat} {r : Router}
    (made : ofLimits? concurrent backlog = some r) {operations : List Operation}
    (distinct : (operations.filterMap Operation.expected?).Nodup) :
    (∀ before id after, operations = before ++ .expect id :: after →
      (r.run operations).slots[((r.run before).expect id).1]? = some
        ((after.findSome? (·.settles? id ((r.run before).expect id).1)).getD .waiting)) ∧
    (∀ message, (((r.run operations).route message).1 = .response ↔ Awaited message.id operations) ∧
      (Awaited message.id operations → ∃ pending slots,
        ((r.run operations).route message).2.2 = { r.run operations with pending, slots }) ∧
      (¬ Awaited message.id operations →
        ((r.run operations).route message).2.2.slots = (r.run operations).slots)) := by
  obtain ⟨bounded, empty⟩ := bounded_ofLimits made
  constructor
  · rintro before id after rfl
    have new : id ∉ after.filterMap Operation.expected? := by
      simp only [List.filterMap_append, List.filterMap_cons, Operation.expected?] at distinct
      exact (List.nodup_cons.1 (List.nodup_append.1 distinct).2.1).1
    rw [run_append]
    exact ((bounded.run before).open_expect id).run new
  · intro message
    have awaited : (r.run operations).pending.get? message.id ≠ none ↔ Awaited message.id operations := by
      rw [pending_run]
      simp [empty]
    have response := route_response_iff.trans awaited
    refine ⟨response, fun here => route_of_response (response.2 here), fun gone => ?_⟩
    apply slots_route_of_unknown
    cases pending : (r.run operations).pending.get? message.id with
    | none => rfl
    | some slot => exact absurd (awaited.1 (by simp [pending])) gone

/-- Two calls are made; one has its response while all capacity is taken, the other is cancelled before. -/
def contended : List Operation :=
  let heartbeat (n : Nat) := Operation.route (.request (.fresh n) .heartbeat [])
  [.bind .heartbeat { actions := [.stall] }, .expect (.fresh 0), .expect (.fresh 1), heartbeat 8,
    heartbeat 9, heartbeat 0, .cancel (.fresh 1), heartbeat 1]

theorem responses_reach_their_calls_under_load :
    let r : Router := { workers := 1, backlog := 0 }
    ofLimits? 1 0 = some r ∧ (contended.filterMap Operation.expected?).Nodup ∧
    (r.run contended).faulted ∧
    (r.run contended).slots = [.filled (.request (.fresh 0) .heartbeat []), .closed] ∧
    (r.run contended).slots[((r.run (contended.take 1)).expect (.fresh 0)).1]? = some
      (((contended.drop 2).findSome? (·.settles? (.fresh 0) 0)).getD .waiting) ∧
    (((r.run contended).route (.request (.fresh 0) .heartbeat [])).1 = .response ↔
      Awaited (.fresh 0) contended) := by
  have made : ofLimits? 1 0 = some { workers := 1, backlog := 0 } := by decide
  have distinct : (contended.filterMap Operation.expected?).Nodup := by decide +kernel
  obtain ⟨calls, messages⟩ := responses_reach_their_calls made distinct
  exact ⟨made, distinct, by decide +kernel, by decide +kernel,
    calls (contended.take 1) (.fresh 0) (contended.drop 2) (by decide +kernel),
    (messages (.request (.fresh 0) .heartbeat [])).1⟩

end Fleetwire.Router
