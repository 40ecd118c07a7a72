import Fleetwire.Proofs.Actions
import Fleetwire.Proofs.Traffic.View

namespace Fleetwire

open Fleetwire.System

variable {s s' : System} {c : ConnectionId} {t : TaskId} {x : Connection}

namespace Sending

inductive Comes (x : Connection) (message : Message) (phase : Sending) :
    Progress Sending (Except LinkError Unit) → Prop where
  | goOn {phase' : Sending} (later : phase'.checked) (isOpen : phase.checked = false → x.closed = false)
    (nearer : ∀ slot deadline, Calling.rank (.send message slot deadline phase') <
      Calling.rank (.send message slot deadline phase)) : Comes x message phase (.going phase')
  | sent (checked : phase.checked) : Comes x message phase (.ended (.ok ()))
  | fail {error : LinkError} (why : x.exchange.Refuses message error) :
    Comes x message phase (.ended (.error error))

theorem next_same {message : Message} {phase : Sending}
    {out : Progress Sending (Except LinkError Unit) × System} (h : out ∈ phase.next s c t message) :
    s.Same out.2 := by
  have outbox : ∀ f : Outbox → Outbox, (∀ o, (f o).isOpen = o.isOpen) →
      s.Same (s.update c fun x => { x with outbox := f x.outbox }) := by
    intro f kept
    refine Same.update fun x => ?_
    simp only [Connection.exchange, kept]
  cases action_of_next h with
  | closed | tooLarge | check => exact Same.refl s
  | queue => exact outbox (·.join t) fun _ => rfl
  | @accept _ envelope => exact outbox (·.accept t envelope) fun _ => rfl
  | giveUp => exact outbox (·.leave t) fun _ => rfl

theorem next_comes {message : Message} {phase : Sending}
    {progress : Progress Sending (Except LinkError Unit)} (found : s.connections[c]? = some x)
    (h : (progress, s') ∈ phase.next s c t message) : Comes x message phase progress := by
  cases action_of_next h with
  | closed here closed =>
    cases found.symm.trans here
    exact .fail (.ending (.inl closed))
  | tooLarge here large =>
    cases found.symm.trans here
    exact .fail (.tooLong large)
  | check here isOpen =>
    cases found.symm.trans here
    exact .goOn rfl (fun _ => isOpen) fun _ _ => Nat.lt_succ_self _
  | queue => exact .goOn rfl (fun unchecked => nomatch unchecked) fun _ _ => Nat.lt_succ_self _
  | accept => exact .sent rfl
  | giveUp here gone =>
    cases found.symm.trans here
    rcases gone with shut | halted
    · exact .fail (.ending (.inr (.inr shut)))
    · exact .fail (.ending (.inr (.inl halted)))

theorem next_ne_nil {message : Message} {phase : Sending} (found : s.connections[c]? = some x)
    (halted : x.halted) : phase.next s c t message ≠ [] := by
  cases phase with
  | check =>
    simp only [Sending.next, found]
    split
    · exact List.cons_ne_nil _ _
    · split <;> exact List.cons_ne_nil _ _
  | queue envelope => exact List.cons_ne_nil _ _
  | wait envelope =>
    simp only [Sending.next, found, halted, if_true]
    split
    · exact List.cons_ne_nil _ _
    · simp

end Sending

namespace Call

def Comes (s : System) (c : ConnectionId) (call : Call) (x : Connection)
    (progress : Progress Calling (Except LinkError Bytes)) (s' : System) : Prop :=
  ∃ (n : Nat) (f : Connection → Connection), s.nextId ≤ n ∧
    Calling.Act s.now s.nextId x.exchange call call.phase progress n (f x).exchange ∧
    (∀ other, s'.traffic other = { (s.update c f).traffic other with nextId := n }) ∧ s.Grows s'

variable {call : Call} {progress : Progress Calling (Except LinkError Bytes)}

theorem Comes.same
    (act : Calling.Act s.now s.nextId x.exchange call call.phase progress s.nextId x.exchange)
    (same : s.Same s') : Comes s c call x progress s' := by
  have unchanged : s.Same (s.update c id) := Same.update fun _ => rfl
  refine ⟨s.nextId, id, Nat.le_refl _, act, fun other => ?_, same.grows⟩
  exact (same.traffic other).trans (unchanged.traffic other).symm

theorem Comes.giveUp {s₁ : System} {slot : SlotId} (same : s.Same s₁)
    (act : Calling.Act s.now s.nextId x.exchange call call.phase progress s.nextId
      (x.exchange.abandon slot)) : Comes s c call x progress (giveUp s₁ c t slot) :=
  ⟨s.nextId, fun y => { y with outbox := y.outbox.leave t, router := y.router.abandon slot },
    Nat.le_refl _, act, traffic_update_congr same (g := fun e => e.abandon slot) fun _ => rfl,
    same.grows.trans (.update c _)⟩

theorem next_comes (found : s.connections[c]? = some x) (h : (progress, s') ∈ call.next s c t) :
    Comes s c call x progress s' := by
  obtain ⟨y, here, action⟩ := action_of_next h
  cases found.symm.trans here
  obtain ⟨kind, payload, timeout, phase⟩ := call
  cases action with
  | register current =>
    cases current
    exact ⟨s.nextId + 1, fun y => { y with router := (x.router.expect (.fresh s.nextId)).2 },
      Nat.le_succ _, .register, fun _ => rfl, .of_eq (List.length_modify ..) rfl fun _ _ => .inl⟩
  | send current sends =>
    cases current
    cases Sending.next_comes found sends with
    | goOn later isOpen nearer => exact Comes.same (.goOn later isOpen (nearer _ _)) (Sending.next_same sends)
  | sent current sends =>
    cases current
    cases Sending.next_comes found sends with
    | sent checked => exact Comes.same (.sent checked) (Sending.next_same sends)
  | unsent current sends =>
    cases current
    cases Sending.next_comes found sends with
    | fail why => exact Comes.giveUp (Sending.next_same sends) (.fail why)
  | expire current due =>
    cases current
    exact Comes.giveUp (Same.refl s) (.expire due)
  | expireWaiting current waiting due =>
    cases current
    exact Comes.giveUp (Same.refl s) (.expireWaiting due waiting)
  | answer current filled =>
    cases current
    exact Comes.same (.answer filled) (Same.refl s)
  | lose current unfilled settled =>
    cases current
    exact Comes.same (.lose unfilled settled) (Same.refl s)
  | forget current =>
    cases current
    exact ⟨s.nextId, _, Nat.le_refl _, .forget, fun _ => rfl, Grows.update c _⟩
  | @forgetLate request after current =>
    cases current
    have same := Same.logs (s.update c fun x => { x with router := (x.router.cancel request.id).2 })
      [timedOut x request after]
    exact ⟨s.nextId, _, Nat.le_refl _, .forget, same.traffic, (Grows.update c _).trans same.grows⟩

theorem next_ne_nil (found : s.connections[c]? = some x) (halted : x.halted)
    (settled : ∀ slot, call.phase.admitted? = some slot → x.router.slots[slot]? ≠ some .waiting) :
    call.next s c t ≠ [] := by
  obtain ⟨kind, payload, timeout, phase⟩ := call
  simp only [next, found]
  cases phase with
  | register => exact List.cons_ne_nil _ _
  | send request slot deadline phase =>
    dsimp only
    split
    next waits => exact absurd waits (Sending.next_ne_nil found halted)
    next going =>
      intro none
      exact Sending.next_ne_nil found halted (List.map_eq_nil_iff.1 none)
  | wait request slot deadline =>
    dsimp only
    split
    · exact List.cons_ne_nil _ _
    next waits => exact absurd waits (settled slot rfl)
    · exact List.cons_ne_nil _ _
  | forget request error =>
    dsimp only
    split <;> exact List.cons_ne_nil _ _

theorem Comes.deals (found : s.connections[c]? = some x) (h : Comes s c call x progress s') :
    s.Deals c (.calling call) (.ofProgress call progress) s' := by
  obtain ⟨n, f, growth, act, result, grows⟩ := h
  exact Deals.of_step found (.call rfl act) growth result grows

theorem next_deals (h : (progress, s') ∈ call.next s c t) :
    s.Deals c (.calling call) (.ofProgress call progress) s' := by
  cases found : s.connections[c]? with
  | none =>
    simp only [next, found] at h
    cases h
  | some x => exact (next_comes found h).deals found

theorem abort_deals (call : Call) : s.Deals c (.calling call) .dropped (call.abort s c t) := by
  have quits : (s.connections[c]? = none ∨ call.phase.slot? = none) →
      s.Deals c (.calling call) .dropped s := by
    intro idle
    refine ⟨.quit ?_, fun other _ => .refl _, .refl s⟩
    rcases idle with absent | idle
    · exact .inl (by simp [traffic, absent])
    · exact .inr fun other eq => by cases eq; exact idle
  have drops : ∀ slot, call.phase.slot? = some slot →
      s.Deals c (.calling call) .dropped (giveUp s c t slot) := by
    intro slot held
    cases found : s.connections[c]? with
    | none =>
      have unchanged : giveUp s c t slot = s := by
        rw [giveUp, System.update, List.modify_eq_self (List.getElem?_eq_none_iff.1 found)]
      rw [unchanged]
      exact quits (.inl found)
    | some x => exact Deals.update found (.drop held)
  unfold abort
  split
  next phase => exact drops _ (by rw [phase]; rfl)
  next phase => exact drops _ (by rw [phase]; rfl)
  next sending waiting =>
    refine quits (.inr ?_)
    cases phase : call.phase with
    | register | forget => rfl
    | send request slot deadline phase' => exact absurd phase (sending _ _ _ _)
    | wait request slot deadline => exact absurd phase (waiting _ _ _)

end Call

def Closing.partOf : Progress Closing Unit → Part
  | .going phase => phase.part
  | .ended () => .none

theorem Closing.next_deals {phase : Closing} {progress : Progress Closing Unit}
    (found : s.connections[c]? = some x) (h : (progress, s') ∈ phase.next s c) :
    s.Deals c phase.part (partOf progress) s' := by
  cases action_of_next h with
  | halt => exact Deals.update found .hurry
  | @look y here =>
    have same : partOf (.going (if y.supervised then Closing.wait else .claim)) = Closing.look.part := by
      cases y.supervised <;> rfl
    rw [same]
    exact Deals.of_same (Same.refl s)
  | forgo => exact Deals.of_same (Same.refl s)
  | claim here isOpen =>
    cases found.symm.trans here
    exact Deals.update found (.claim isOpen)
  | failAll => exact Deals.update found .fail
  | publish => exact Deals.update found .publish
  | wait => exact ⟨.rest (.refl _), fun other _ => .refl _, .refl s⟩

end Fleetwire
