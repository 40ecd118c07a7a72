import Fleetwire.Proofs.Router.Correlation
import Fleetwire.Proofs.Traffic

namespace Fleetwire

namespace Router

variable {r r' : Router}

structure Tidy (r : Router) : Prop where
  bounded : r.Bounded
  distinct : ∀ id other slot, r.pending.get? id = some slot → r.pending.get? other = some slot →
    other = id
  unfilled : ∀ id slot response, r.pending.get? id = some slot →
    r.slots[slot]? ≠ some (.filled response)

theorem Tidy.of_calls (h : r.Tidy) (pending : r'.pending = r.pending) (slots : r'.slots = r.slots) :
    r'.Tidy := by
  refine ⟨?_, ?_, ?_⟩
  · unfold Bounded
    rw [pending, slots]
    exact h.bounded
  · rw [pending]
    exact h.distinct
  · rw [pending, slots]
    exact h.unfilled

theorem tidy_of_empty (pending : r.pending = {}) : r.Tidy := by
  refine ⟨?_, ?_, ?_⟩
  · intro id slot found
    rw [pending] at found
    cases found
  · intro id other slot found
    rw [pending] at found
    cases found
  · intro id slot response found
    rw [pending] at found
    cases found

theorem fst_expect (r : Router) (id : MessageId) : (r.expect id).1 = r.slots.length := by
  unfold expect
  split
  · simp [closeSlot]
  · rfl

def Operation.routed? : Operation → Option Message
  | route message => some message
  | _ => none

theorem pending_perform_cases {operation : Operation} {id : MessageId} {slot : SlotId}
    (found : (r.perform operation).pending.get? id = some slot) :
    operation.expected? = some id ∧ slot = r.slots.length ∨
      operation.expected? ≠ some id ∧ operation.releases id = false ∧ r.pending.get? id = some slot := by
  rw [get?_pending_perform] at found
  split at found
  next made =>
    cases found
    exact .inl ⟨made, rfl⟩
  next other =>
    split at found
    · cases found
    next kept => exact .inr ⟨other, Bool.eq_false_iff.2 kept, found⟩

theorem Tidy.perform (h : r.Tidy) (operation : Operation) : (r.perform operation).Tidy := by
  have fresh : ∀ {id slot}, r.pending.get? id = some slot → slot ≠ r.slots.length := by
    intro id slot found
    exact Nat.ne_of_lt (h.bounded id slot found)
  refine ⟨h.bounded.perform operation, ?_, ?_⟩
  · intro id other slot found found'
    rcases pending_perform_cases found with ⟨made, new⟩ | ⟨_, _, old⟩
    · rcases pending_perform_cases found' with ⟨made', _⟩ | ⟨_, _, old'⟩
      · exact Option.some.inj (made'.symm.trans made)
      · exact absurd new (fresh old')
    · rcases pending_perform_cases found' with ⟨_, new'⟩ | ⟨_, _, old'⟩
      · exact absurd new' (fresh old)
      · exact h.distinct id other slot old old'
  · intro id slot response found filled
    rcases pending_perform_cases found with ⟨made, new⟩ | ⟨_, kept, old⟩
    · cases operation with
      | expect other =>
        rw [new, Router.perform, (slots_expect_new r other).2] at filled
        cases filled
      | _ => cases made
    · have inside := h.bounded id slot old
      have before := List.getElem?_eq_getElem inside
      rw [slots_perform before] at filled
      split at filled
      · -- Only a message with the id itself could have filled the slot.
        cases operation with
        | route message =>
          simp only [Operation.reaches] at filled
          split at filled
          next leads =>
            have same := h.distinct id message.id slot old leads
            simp only [Operation.releases, same, decide_true] at kept
            cases kept
          · cases filled
        | expect other | cancel other | failAll | abandon other =>
          simp only [Operation.reaches] at filled
          split at filled <;> cases filled
        | _ => cases filled
      · rw [Option.some.inj filled] at before
        exact h.unfilled id slot response old before

end Router

namespace Exchange

variable {e e' e'' : Exchange}

/-- The connection may have come nearer to its end. -/
structure Later (e e' : Exchange) : Prop where
  limit : e'.limit = e.limit
  closed : e.closed → e'.closed
  halted : e.halted → e'.halted
  isOpen : e'.isOpen → e.isOpen

theorem Later.refl (e : Exchange) : e.Later e := ⟨rfl, id, id, id⟩

theorem Mild.later (h : e.Mild e') : e.Later e' := ⟨h.limit, fun closed => h.closed.trans closed, h.halted, h.isOpen⟩

theorem Later.ending (h : e.Later e') (ending : e.Ending) : e'.Ending := by
  rcases ending with closed | halted | gone
  · exact .inl (h.closed closed)
  · exact .inr (.inl (h.halted halted))
  · refine .inr (.inr (Bool.eq_false_iff.2 fun isOpen => ?_))
    rw [h.isOpen isOpen] at gone
    cases gone

theorem Later.refuses {request : Message} {error : LinkError} (h : e.Later e')
    (refuses : e.Refuses request error) : e'.Refuses request error := by
  cases refuses with
  | ending ending => exact .ending (h.ending ending)
  | tooLong long =>
    rw [← h.limit] at long ⊢
    exact .tooLong long

end Exchange

namespace Part

variable {now n n' : Nat} {e e' : Exchange} {p p' : Part}

theorem Step.later (h : Step now n e p p' n' e') : e.Later e' := by
  cases h with
  | call _ act => cases act <;> exact ⟨rfl, id, id, id⟩
  | claim | seize => exact ⟨rfl, fun _ => rfl, id, id⟩
  | hurry | press => exact ⟨rfl, id, fun _ => rfl, id⟩
  | drop | receive | fail | publish => exact ⟨rfl, id, id, id⟩

theorem Step.nextId_le (h : Step now n e p p' n' e') : n ≤ n' := by
  cases h with
  | call _ act =>
    cases act with
    | register => exact Nat.le_succ n
    | _ => exact Nat.le_refl n
  | _ => exact Nat.le_refl n

inductive Does (n : Nat) (p : Part) : Router.Operation → Prop where
  | expect : Does n p (.expect (.fresh n))
  | cancel {call : Call} {request : Message} (own : p = calling call)
    (named : call.phase.request? = some request) : Does n p (.cancel request.id)
  | abandon {call : Call} {slot : SlotId} (own : p = calling call) (held : call.phase.slot? = some slot) :
    Does n p (.abandon slot)
  | route (message : Message) : Does n p (.route message)
  | failAll (own : p = failing) : Does n p .failAll

def Got (id : MessageId) (slot : SlotId) (p : Part) : Prop :=
  ∃ call request, p = calling call ∧ call.phase.request? = some request ∧ request.id = id ∧
    call.phase.slot? = some slot

theorem Step.router (h : Step now n e p p' n' e') :
    e'.router = e.router ∧ e'.routed = e.routed ∨ ∃ operation, Does n p operation ∧
      e'.router = e.router.perform operation ∧ e'.routed = e.routed ++ operation.routed?.toList ∧
      ∀ id, operation.expected? = some id → n' = n + 1 ∧ Got id e.router.slots.length p' := by
  cases h with
  | @call call _ _ _ _ current act =>
    obtain ⟨kind, payload, timeout, phase⟩ := call
    cases current
    cases act with
    | register =>
      refine .inr ⟨_, .expect, rfl, (List.append_nil _).symm, fun id made => ⟨rfl, _, _, rfl, rfl, ?_, ?_⟩⟩
      · exact Option.some.inj made
      · exact congrArg some (Router.fst_expect ..)
    | fail | expire | expireWaiting =>
      exact .inr ⟨_, .abandon rfl rfl, rfl, (List.append_nil _).symm, fun _ made => nomatch made⟩
    | forget => exact .inr ⟨_, .cancel rfl rfl, rfl, (List.append_nil _).symm, fun _ made => nomatch made⟩
    | goOn | sent | answer | lose => exact .inl ⟨rfl, rfl⟩
  | drop held =>
    exact .inr ⟨_, .abandon rfl held, rfl, (List.append_nil _).symm, fun _ made => nomatch made⟩
  | receive message => exact .inr ⟨_, .route message, rfl, rfl, fun _ made => nomatch made⟩
  | fail => exact .inr ⟨_, .failAll rfl, rfl, (List.append_nil _).symm, fun _ made => nomatch made⟩
  | hurry | claim | seize | press | publish => exact .inl ⟨rfl, rfl⟩

theorem Does.expected {operation : Router.Operation} {id : MessageId} (h : Does n p operation)
    (made : operation.expected? = some id) : id = .fresh n := by
  cases h with
  | expect => exact (Option.some.inj made).symm
  | _ => cases made

end Part

namespace Traffic

variable {l l' : Traffic} {p p' : Part} {t : TaskId} {e e' : Exchange}

theorem Act.later (h : l.Act p p' l') (before : l.exchange = some e) :
    ∃ e', l'.exchange = some e' ∧ e.Later e' := by
  have mild : l.Mild l' → ∃ e', l'.exchange = some e' ∧ e.Later e' := by
    intro same
    obtain ⟨e', after, mild⟩ := same.after before
    exact ⟨e', after, mild.later⟩
  cases h with
  | mild same | rest same => exact mild same
  | begin | quit => exact ⟨e, before, .refl e⟩
  | deal here step =>
    cases before.symm.trans here
    exact ⟨_, rfl, step.later⟩

theorem Move.later (h : l.Move l') (before : l.exchange = some e) :
    ∃ e', l'.exchange = some e' ∧ e.Later e' := by
  cases h with
  | act was act => exact act.later before
  | arrive absent => cases before.symm.trans absent
  | elapse => exact ⟨e, before, .refl e⟩

theorem Act.nextId_le (h : l.Act p p' l') : l.nextId ≤ l'.nextId := by
  cases h with
  | mild same | rest same => exact same.nextId
  | begin | quit => exact Nat.le_refl _
  | deal here step => exact step.nextId_le

theorem Move.nextId_le (h : l.Move l') : l.nextId ≤ l'.nextId := by
  cases h with
  | act was act => exact act.nextId_le
  | arrive | elapse => exact Nat.le_refl _

theorem Act.tidy (h : l.Act p p' l') (tidy : ∀ e, l.exchange = some e → e.router.Tidy) :
    ∀ e, l'.exchange = some e → e.router.Tidy := by
  intro e' after
  have mild : l.Mild l' → e'.router.Tidy := by
    intro same
    obtain ⟨e, before, mild⟩ := same.before after
    exact (tidy e before).of_calls mild.pending mild.slots
  cases h with
  | mild same | rest same => exact mild same
  | begin | quit => exact tidy e' after
  | deal here step =>
    cases after
    rcases step.router with ⟨same, _⟩ | ⟨operation, _, performed, _⟩
    · rw [same]
      exact tidy _ here
    · rw [performed]
      exact (tidy _ here).perform operation

theorem Course.tidy {states : List Traffic} (course : Course states) :
    ∀ l ∈ states, ∀ e, l.exchange = some e → e.router.Tidy := by
  induction course with
  | start none =>
    intro l member e here
    rw [List.mem_singleton.1 member, none] at here
    cases here
  | move course move ih =>
    intro l member
    rcases List.mem_cons.1 member with rfl | member
    · have before := ih _ (List.mem_cons_self ..)
      cases move with
      | act was act => exact act.tidy before
      | arrive absent idle new calls =>
        intro e here
        cases here
        exact Router.tidy_of_empty calls.1
      | elapse => exact before
    · exact ih l member

end Traffic

def Part.Fits (exchange : Option Exchange) : Part → Prop
  | none | dropped => True
  | calling call => exchange = .none → call.phase.request? = .none
  | hurrying => ∃ e, exchange = some e ∧ e.halted
  | seizing => ∃ e, exchange = some e ∧ e.closed
  | failing | failed => ∃ e, exchange = some e ∧ e.closed ∧ e.halted

theorem Part.Fits.later {p : Part} {before after : Option Exchange} (h : p.Fits before)
    (later : ∀ e, before = some e → ∃ e', after = some e' ∧ e.Later e') : p.Fits after := by
  cases p with
  | none | dropped => trivial
  | calling call =>
    intro absent
    cases before with
    | none => exact h rfl
    | some e =>
      obtain ⟨e', here, _⟩ := later e rfl
      cases absent.symm.trans here
  | hurrying =>
    obtain ⟨e, here, halted⟩ := h
    obtain ⟨e', here', nearer⟩ := later e here
    exact ⟨e', here', nearer.halted halted⟩
  | seizing =>
    obtain ⟨e, here, closed⟩ := h
    obtain ⟨e', here', nearer⟩ := later e here
    exact ⟨e', here', nearer.closed closed⟩
  | failing | failed =>
    obtain ⟨e, here, closed, halted⟩ := h
    obtain ⟨e', here', nearer⟩ := later e here
    exact ⟨e', here', nearer.closed closed, nearer.halted halted⟩

theorem Part.Step.fits {now n n' : Nat} {e e' : Exchange} {p p' : Part} (h : Step now n e p p' n' e')
    (fits : p.Fits (some e)) : p'.Fits (some e') := by
  cases h with
  | call current act =>
    cases act with
    | answer | forget => trivial
    | _ => intro absent; cases absent
  | drop | receive | publish => trivial
  | hurry => exact ⟨_, rfl, rfl⟩
  | claim =>
    obtain ⟨_, here, halted⟩ := fits
    cases here
    exact ⟨_, rfl, rfl, halted⟩
  | seize => exact ⟨_, rfl, rfl⟩
  | press =>
    obtain ⟨_, here, closed⟩ := fits
    cases here
    exact ⟨_, rfl, closed, rfl⟩
  | fail =>
    obtain ⟨_, here, closed, halted⟩ := fits
    cases here
    exact ⟨_, rfl, closed, halted⟩

namespace Traffic

variable {l l' : Traffic} {p p' : Part} {t : TaskId} {e e' : Exchange} {states : List Traffic}

/-- Whoever takes part in the end of the connection has told it so. -/
structure Fits (l : Traffic) : Prop where
  part : ∀ t, (l.part t).Fits l.exchange
  stage : ∀ e, l.exchange = some e → e.stage = .closed → e.closed ∧ e.halted

theorem Act.part_eq (h : l.Act p p' l') : l'.part = l.part := by
  cases h with
  | mild same | rest same => exact same.part
  | begin | quit | deal => rfl

theorem Act.fits (h : l.Act p p' l') (fits : p.Fits l.exchange) : p'.Fits l'.exchange := by
  cases h with
  | mild same => exact fits.later fun e here => (Act.mild (p := p) same).later here
  | rest same => trivial
  | begin call new =>
    intro absent
    rw [new]
    rfl
  | quit => trivial
  | deal here step =>
    rw [here] at fits
    exact step.fits fits

theorem Act.stage (h : l.Act p p' l') (fits : l.Fits) (part : p.Fits l.exchange) :
    ∀ e, l'.exchange = some e → e.stage = .closed → e.closed ∧ e.halted := by
  intro e' after atEnd
  have mild : l.Mild l' → e'.closed ∧ e'.halted := by
    intro same
    obtain ⟨e, before, mild⟩ := same.before after
    obtain ⟨closed, halted⟩ := fits.stage e before (mild.stage atEnd)
    exact ⟨mild.later.closed closed, mild.halted halted⟩
  cases h with
  | mild same | rest same => exact mild same
  | begin | quit => exact fits.stage e' after atEnd
  | deal here step =>
    cases after
    have before := fits.stage _ here
    cases step with
    | call _ act => cases act <;> exact before atEnd
    | publish =>
      obtain ⟨_, same, ended⟩ := part
      cases here.symm.trans same
      exact ended
    | claim | seize => exact ⟨rfl, (before atEnd).2⟩
    | hurry | press => exact ⟨(before atEnd).1, rfl⟩
    | drop | receive | fail => exact before atEnd

theorem Fits.move (fits : l.Fits) (move : l.Move l') : l'.Fits := by
  have later : ∀ e, l.exchange = some e → ∃ e', l'.exchange = some e' ∧ e.Later e' := fun _ => move.later
  cases move with
  | act was act =>
    have own := was ▸ fits.part _
    refine ⟨fun u => ?_, act.stage fits own⟩
    dsimp only [setPart]
    split
    · exact act.fits own
    · rw [act.part_eq]
      exact (fits.part u).later later
  | arrive absent idle new calls routed stage =>
    refine ⟨fun u => ?_, fun e here atEnd => ?_⟩
    · dsimp only [setPart]
      split
      · intro absent
        cases absent
      · exact (fits.part u).later later
    · cases here
      rw [stage] at atEnd
      cases atEnd
  | elapse => exact ⟨fits.part, fits.stage⟩

theorem Course.fits (course : Course states) : ∀ l ∈ states, l.Fits := by
  induction course with
  | start none idle =>
    intro l member
    rw [List.mem_singleton.1 member]
    refine ⟨fun t => ?_, fun e here => ?_⟩
    · rw [idle t]
      trivial
    · rw [none] at here
      cases here
  | move course move ih =>
    intro l member
    rcases List.mem_cons.1 member with rfl | member
    · exact (ih _ (List.mem_cons_self ..)).move move
    · exact ih l member

def Distinct (n : Nat) : Prop :=
  ∀ i j, i < n → j < n → MessageId.fresh i = MessageId.fresh j → i = j

theorem distinct_of_le {n : Nat} (bounded : n ≤ 0x1000000000000) : Distinct n := by
  intro i j less less'
  exact MessageId.fresh_injective (Nat.lt_of_lt_of_le less bounded) (Nat.lt_of_lt_of_le less' bounded)

/-- No two calls have an id or a slot in common. -/
structure Named (l : Traffic) : Prop where
  pending : ∀ e id slot, l.exchange = some e → e.router.pending.get? id = some slot →
    ∃ k < l.nextId, id = .fresh k
  request : ∀ t call request, l.part t = .calling call → call.phase.request? = some request →
    ∃ k < l.nextId, request = .request (.fresh k) call.kind call.payload
  slot : ∀ t call slot, l.part t = .calling call → call.phase.slot? = some slot →
    ∃ e, l.exchange = some e ∧ slot < e.router.slots.length
  ids : ∀ t u call other request request', l.part t = .calling call → l.part u = .calling other →
    call.phase.request? = some request → other.phase.request? = some request' →
    request.id = request'.id → t = u
  slots : ∀ t u call other slot, l.part t = .calling call → l.part u = .calling other →
    call.phase.slot? = some slot → other.phase.slot? = some slot → t = u

inductive Origin (l : Traffic) (p : Part) (l' : Traffic) (call : Call) : Prop where
  | unnamed (none : call.phase.request? = none)
  | former {phase : Calling} (was : p = .calling { call with phase })
    (request : call.phase.request? = phase.request?)
    (slot : call.phase.slot? = phase.slot? ∨ call.phase.slot? = none)
  | new {e : Exchange} (was : p = .calling { call with phase := .register }) (here : l.exchange = some e)
    (request : call.phase.request? = some (.request (.fresh l.nextId) call.kind call.payload))
    (slot : call.phase.slot? = some e.router.slots.length) (next : l'.nextId = l.nextId + 1)
    (after : l'.exchange = some { e with router := e.router.perform (.expect (.fresh l.nextId)) })

theorem Act.origin {call : Call} (h : l.Act p (.calling call) l') : l.Origin p l' call := by
  cases h with
  | mild => exact .former rfl rfl (.inl rfl)
  | begin _ new => exact .unnamed (by rw [new]; rfl)
  | deal here step =>
    generalize result : Part.calling call = p' at step
    cases step with
    | @call was _ _ _ _ current act =>
      obtain ⟨kind, payload, timeout, phase⟩ := was
      cases current
      cases act with
      | answer | forget => cases result
      | register =>
        cases result
        exact .new rfl here rfl (congrArg some (Router.fst_expect ..)) rfl rfl
      | goOn | sent | fail | expire | expireWaiting | lose =>
        cases result
        first
        | exact .former rfl rfl (.inl rfl)
        | exact .former rfl rfl (.inr rfl)
    | _ => cases result

theorem Act.pending_cases (h : l.Act p p' l') (after : l'.exchange = some e') {id : MessageId}
    {slot : SlotId} (found : e'.router.pending.get? id = some slot) :
    (∃ e, l.exchange = some e ∧ e.router.pending.get? id = some slot) ∨
      id = .fresh l.nextId ∧ l'.nextId = l.nextId + 1 ∧ p'.Got id slot := by
  have mild : l.Mild l' → ∃ e, l.exchange = some e ∧ e.router.pending.get? id = some slot := by
    intro same
    obtain ⟨e, before, mild⟩ := same.before after
    rw [mild.pending] at found
    exact ⟨e, before, found⟩
  cases h with
  | mild same | rest same => exact .inl (mild same)
  | begin | quit => exact .inl ⟨e', after, found⟩
  | deal here step =>
    cases after
    rcases step.router with ⟨same, _⟩ | ⟨operation, does, performed, _, next⟩
    · rw [same] at found
      exact .inl ⟨_, here, found⟩
    · rw [performed] at found
      rcases Router.pending_perform_cases found with ⟨made, rfl⟩ | ⟨_, _, old⟩
      · exact .inr ⟨does.expected made, next id made⟩
      · exact .inl ⟨_, here, old⟩

theorem Act.slots_length (h : l.Act p p' l') (before : l.exchange = some e) :
    ∃ e', l'.exchange = some e' ∧ e.router.slots.length ≤ e'.router.slots.length := by
  have mild : l.Mild l' → ∃ e', l'.exchange = some e' ∧ e.router.slots.length ≤ e'.router.slots.length := by
    intro same
    obtain ⟨e', after, mild⟩ := same.after before
    exact ⟨e', after, Nat.le_of_eq (congrArg List.length mild.slots.symm)⟩
  cases h with
  | mild same | rest same => exact mild same
  | begin | quit => exact ⟨e, before, Nat.le_refl _⟩
  | deal here step =>
    cases before.symm.trans here
    rcases step.router with ⟨same, _⟩ | ⟨operation, _, performed, _⟩
    · exact ⟨_, rfl, Nat.le_of_eq (by rw [same])⟩
    · exact ⟨_, rfl, by rw [performed]; exact Router.length_slots_perform ..⟩

theorem setPart_calling {call : Call} {u : TaskId} (h : (l'.setPart t p').part u = .calling call)
    (same : l'.part = l.part) :
    u = t ∧ p' = .calling call ∨ u ≠ t ∧ l.part u = .calling call := by
  dsimp only [setPart] at h
  split at h
  next own => exact .inl ⟨own, h⟩
  next other =>
    rw [same] at h
    exact .inr ⟨other, h⟩

theorem Act.calling {call : Call} {u : TaskId} (h : l.Act p p' l') (was : l.part t = p)
    (calls : (l'.setPart t p').part u = .calling call) :
    l.part u = .calling call ∨ u = t ∧ l.Origin (l.part u) l' call := by
  rcases setPart_calling calls h.part_eq with ⟨own, result⟩ | ⟨_, before⟩
  · subst own result
    rw [was]
    exact .inr ⟨rfl, h.origin⟩
  · exact .inl before

theorem Act.requests {call : Call} {u : TaskId} {request : Message} (h : l.Act p p' l')
    (was : l.part t = p) (calls : (l'.setPart t p').part u = .calling call)
    (named : call.phase.request? = some request) :
    (∃ phase, l.part u = .calling { call with phase } ∧ phase.request? = some request) ∨
      u = t ∧ request = .request (.fresh l.nextId) call.kind call.payload ∧
        l'.nextId = l.nextId + 1 := by
  rcases h.calling was calls with before | ⟨own, origin⟩
  · exact .inl ⟨call.phase, before, named⟩
  · cases origin with
    | unnamed none => cases none.symm.trans named
    | former before same =>
      rw [same] at named
      exact .inl ⟨_, before, named⟩
    | new _ _ requested _ next => exact .inr ⟨own, Option.some.inj (named.symm.trans requested), next⟩

theorem Act.holds {call : Call} {u : TaskId} {slot : SlotId} (h : l.Act p p' l') (was : l.part t = p)
    (calls : (l'.setPart t p').part u = .calling call) (held : call.phase.slot? = some slot) :
    (∃ phase, l.part u = .calling { call with phase } ∧ phase.slot? = some slot) ∨
      u = t ∧ ∃ e, l.exchange = some e ∧ slot = e.router.slots.length ∧
        l'.exchange = some { e with router := e.router.perform (.expect (.fresh l.nextId)) } := by
  rcases h.calling was calls with before | ⟨own, origin⟩
  · exact .inl ⟨call.phase, before, held⟩
  · cases origin with
    | unnamed none =>
      cases phase : call.phase with
      | register =>
        rw [phase] at held
        cases held
      | _ =>
        rw [phase] at none
        cases none
    | former before _ same =>
      rcases same with same | none
      · rw [same] at held
        exact .inl ⟨_, before, held⟩
      · cases none.symm.trans held
    | new _ here _ first _ after =>
      exact .inr ⟨own, _, here, Option.some.inj (held.symm.trans first), after⟩

variable {n : Nat}

theorem Named.act (named : l.Named) (distinct : Distinct n) (bounded : l'.nextId ≤ n)
    (was : l.part t = p) (act : l.Act p p' l') : (l'.setPart t p').Named := by
  have growth := act.nextId_le
  refine ⟨?_, ?_, ?_, ?_, ?_⟩
  · intro e' id slot after found
    rcases act.pending_cases after found with ⟨e, here, old⟩ | ⟨new, next, _⟩
    · obtain ⟨k, less, same⟩ := named.pending e id slot here old
      exact ⟨k, Nat.lt_of_lt_of_le less growth, same⟩
    · exact ⟨l.nextId, Nat.lt_of_lt_of_eq (Nat.lt_succ_self _) next.symm, new⟩
  · intro u call request calls requested
    rcases act.requests was calls requested with ⟨phase, before, same⟩ | ⟨_, new, next⟩
    · obtain ⟨k, less, same⟩ := named.request u _ request before same
      exact ⟨k, Nat.lt_of_lt_of_le less growth, same⟩
    · exact ⟨l.nextId, Nat.lt_of_lt_of_eq (Nat.lt_succ_self _) next.symm, new⟩
  · intro u call slot calls held
    rcases act.holds was calls held with ⟨phase, before, same⟩ | ⟨_, e, _, new, after⟩
    · obtain ⟨e, here, less⟩ := named.slot u _ slot before same
      obtain ⟨e', after, longer⟩ := act.slots_length here
      exact ⟨e', after, Nat.lt_of_lt_of_le less longer⟩
    · refine ⟨_, after, ?_⟩
      dsimp only
      rw [new, Router.perform, (Router.slots_expect_new ..).1]
      exact Nat.lt_succ_self _
  · -- A fresh id differs from all ids there were.
    have differs : ∀ {u : TaskId} {call : Call} {phase : Calling} {request : Message},
        l.part u = .calling { call with phase } → phase.request? = some request →
        l'.nextId = l.nextId + 1 → request.id ≠ .fresh l.nextId := by
      intro u call phase request before requested next same
      obtain ⟨k, less, rfl⟩ := named.request u _ request before requested
      have equal := distinct k l.nextId (by omega) (by omega) same
      exact absurd equal (Nat.ne_of_lt less)
    intro u v call other request request' calls calls' requested requested' same
    rcases act.requests was calls requested with ⟨phase, before, old⟩ | ⟨own, new, next⟩
    · rcases act.requests was calls' requested' with ⟨phase', before', old'⟩ | ⟨own', new', next'⟩
      · exact named.ids u v _ _ request request' before before' old old' same
      · rw [new'] at same
        exact absurd same (differs before old next')
    · rcases act.requests was calls' requested' with ⟨phase', before', old'⟩ | ⟨own', _, _⟩
      · rw [new] at same
        exact absurd same.symm (differs before' old' next)
      · exact own.trans own'.symm
  · have differs : ∀ {u : TaskId} {call : Call} {phase : Calling} {slot : SlotId} {e : Exchange},
        l.part u = .calling { call with phase } → phase.slot? = some slot → l.exchange = some e →
        slot ≠ e.router.slots.length := by
      intro u call phase slot e before held here same
      obtain ⟨e', here', less⟩ := named.slot u _ slot before held
      cases here.symm.trans here'
      exact absurd same (Nat.ne_of_lt less)
    intro u v call other slot calls calls' held held'
    rcases act.holds was calls held with ⟨phase, before, old⟩ | ⟨own, e, here, new, _⟩
    · rcases act.holds was calls' held' with ⟨phase', before', old'⟩ | ⟨own', e, here, new, _⟩
      · exact named.slots u v _ _ slot before before' old old'
      · exact absurd new (differs before old here)
    · rcases act.holds was calls' held' with ⟨phase', before', old'⟩ | ⟨own', _⟩
      · exact absurd new (differs before' old' here)
      · exact own.trans own'.symm

theorem Named.move (named : l.Named) (distinct : Distinct n) (bounded : l'.nextId ≤ n)
    (fits : l.Fits) (move : l.Move l') : l'.Named := by
  cases move with
  | act was act => exact named.act distinct bounded was act
  | elapse => exact ⟨named.pending, named.request, named.slot, named.ids, named.slots⟩
  | arrive absent idle new calls =>
    -- Before a connection came, no call on it had an id.
    have unnamed : ∀ {t u : TaskId} {call other : Call}, call.phase = .register →
        (l.setPart t (.calling call)).part u = .calling other → other.phase = .register := by
      intro t u call other new calls
      rcases setPart_calling calls rfl with ⟨_, result⟩ | ⟨_, before⟩
      · cases result
        exact new
      · have nameless := fits.part u
        rw [before] at nameless
        have none := nameless absent
        cases phase : other.phase with
        | register => rfl
        | _ =>
          rw [phase] at none
          cases none
    refine ⟨?_, ?_, ?_, ?_, ?_⟩
    · intro e id slot here found
      cases here
      rw [calls.1] at found
      cases found
    · intro u other request calls named
      rw [unnamed new calls] at named
      cases named
    · intro u other slot calls held
      rw [unnamed new calls] at held
      cases held
    · intro u v other _ request _ calls _ named
      rw [unnamed new calls] at named
      cases named
    · intro u v other _ slot calls _ held
      rw [unnamed new calls] at held
      cases held

theorem Course.named (course : Course (l :: states)) (distinct : Distinct l.nextId) :
    ∀ l' ∈ l :: states, l'.Named ∧ l'.nextId ≤ l.nextId := by
  generalize bound : l.nextId = n at distinct
  have bounded : l.nextId ≤ n := Nat.le_of_eq bound
  clear bound
  generalize all : l :: states = every at course
  induction course generalizing l states with
  | start none idle =>
    intro l' member
    cases all
    rw [List.mem_singleton.1 member]
    refine ⟨⟨?_, ?_, ?_, ?_, ?_⟩, bounded⟩
    · intro e id slot here
      cases none.symm.trans here
    · intro t call request calls
      cases (idle t).symm.trans calls
    · intro t call slot calls
      cases (idle t).symm.trans calls
    · intro t u call other _ _ calls
      cases (idle t).symm.trans calls
    · intro t u call other _ calls
      cases (idle t).symm.trans calls
  | move course move ih =>
    intro l' member
    cases all
    have former := ih (Nat.le_trans move.nextId_le bounded) rfl
    rcases List.mem_cons.1 member with rfl | member
    · have before := former _ (List.mem_cons_self ..)
      exact ⟨before.1.move distinct bounded (course.fits _ (List.mem_cons_self ..)) move, bounded⟩
    · exact former l' member

end Traffic

end Fleetwire
