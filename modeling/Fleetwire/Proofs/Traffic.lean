import Fleetwire.System.Exchange

namespace Fleetwire

/-- What calls see of their connection. -/
structure Exchange where
  router : Router
  routed : List Message := []
  limit : Nat
  stage : Stage := .initializing
  closed : Bool := false
  halted : Bool := false
  isOpen : Bool := true

namespace Exchange

/-- No call notices the change, except that the connection may come nearer to its end. -/
structure Mild (e e' : Exchange) : Prop where
  pending : e'.router.pending = e.router.pending
  slots : e'.router.slots = e.router.slots
  routed : e'.routed = e.routed
  limit : e'.limit = e.limit
  stage : e'.stage = .closed → e.stage = .closed
  closed : e'.closed = e.closed
  halted : e.halted → e'.halted
  isOpen : e'.isOpen → e.isOpen

theorem Mild.refl (e : Exchange) : e.Mild e := ⟨rfl, rfl, rfl, rfl, id, rfl, id, id⟩

def Ending (e : Exchange) : Prop := e.closed ∨ e.halted ∨ e.isOpen = false

inductive Refuses (e : Exchange) (request : Message) : LinkError → Prop where
  | ending (h : e.Ending) : Refuses e request .disconnected
  | tooLong (h : e.limit < request.encode.length) :
    Refuses e request (.stream (.frameTooLarge request.encode.length e.limit))

def abandon (e : Exchange) (slot : SlotId) : Exchange := { e with router := e.router.abandon slot }

end Exchange

namespace Sending

def checked : Sending → Bool
  | check => false
  | queue _ | wait _ => true

end Sending

namespace Calling

def request? : Calling → Option Message
  | register => none
  | send request _ _ _ | wait request _ _ | forget request _ => some request

def slot? : Calling → Option SlotId
  | register | forget _ _ => none
  | send _ slot _ _ | wait _ slot _ => some slot

def deadline? : Calling → Option Nat
  | register | forget _ _ => none
  | send _ _ deadline _ | wait _ _ deadline => some deadline

def sending? : Calling → Option Message
  | send request _ _ _ => some request
  | register | wait _ _ _ | forget _ _ => none

def admitted? : Calling → Option SlotId
  | send _ slot _ phase => if phase.checked then some slot else none
  | wait _ slot _ => some slot
  | register | forget _ _ => none

def rank : Calling → Nat
  | register => 6
  | send _ _ _ .check => 5
  | send _ _ _ (.queue _) => 4
  | send _ _ _ (.wait _) => 3
  | wait _ _ _ => 2
  | forget _ _ => 1

/-- What one action makes of a call, when the time is `now`, the next id has the number `n` and its connection
is as `e`. -/
inductive Act (now n : Nat) (e : Exchange) (call : Call) :
    Calling → Progress Calling (Except LinkError Bytes) → Nat → Exchange → Prop where
  | register : Act now n e call .register
    (.going (.send (.request (.fresh n) call.kind call.payload) (e.router.expect (.fresh n)).1
      (now + call.timeout.nanoseconds) .check)) (n + 1)
    { e with router := (e.router.expect (.fresh n)).2 }
  | goOn {request : Message} {slot : SlotId} {deadline : Nat} {phase phase' : Sending}
    (later : phase'.checked) (isOpen : phase.checked = false → e.closed = false)
    (nearer : rank (.send request slot deadline phase') < rank (.send request slot deadline phase)) :
    Act now n e call (.send request slot deadline phase) (.going (.send request slot deadline phase')) n e
  | sent {request : Message} {slot : SlotId} {deadline : Nat} {phase : Sending} (checked : phase.checked) :
    Act now n e call (.send request slot deadline phase) (.going (.wait request slot deadline)) n e
  | fail {request : Message} {slot : SlotId} {deadline : Nat} {phase : Sending} {error : LinkError}
    (why : e.Refuses request error) :
    Act now n e call (.send request slot deadline phase) (.going (.forget request error)) n (e.abandon slot)
  | expire {request : Message} {slot : SlotId} {deadline : Nat} {phase : Sending} (due : deadline ≤ now) :
    Act now n e call (.send request slot deadline phase) (.going (.forget request (.timeout call.timeout))) n
      (e.abandon slot)
  | expireWaiting {request : Message} {slot : SlotId} {deadline : Nat} (due : deadline ≤ now)
    (waits : e.router.slots[slot]? = some .waiting) :
    Act now n e call (.wait request slot deadline) (.going (.forget request (.timeout call.timeout))) n
      (e.abandon slot)
  | answer {request : Message} {slot : SlotId} {deadline : Nat} {response : Message}
    (filled : e.router.slots[slot]? = some (.filled response)) :
    Act now n e call (.wait request slot deadline) (.ended (Call.outcome response)) n e
  | lose {request : Message} {slot : SlotId} {deadline : Nat}
    (unfilled : ∀ response, e.router.slots[slot]? ≠ some (.filled response))
    (settled : e.router.slots[slot]? ≠ some .waiting) :
    Act now n e call (.wait request slot deadline) (.going (.forget request .disconnected)) n e
  | forget {request : Message} {error : LinkError} :
    Act now n e call (.forget request error) (.ended (.error error)) n
      { e with router := (e.router.cancel request.id).2 }

end Calling

/-- What a task has to do with the traffic of a connection. -/
inductive Part where
  | none
  | calling (call : Call)
  | hurrying
  | seizing
  | failing
  | failed
  | dropped
deriving DecidableEq, Repr

namespace Part

def ofProgress (call : Call) : Progress Calling (Except LinkError Bytes) → Part
  | .going phase => calling { call with phase }
  | .ended _ => none

inductive Step (now n : Nat) (e : Exchange) : Part → Part → Nat → Exchange → Prop where
  | call {call : Call} {phase : Calling} {progress : Progress Calling (Except LinkError Bytes)} {n' : Nat}
    {e' : Exchange} (current : call.phase = phase) (act : Calling.Act now n e call phase progress n' e') :
    Step now n e (calling call) (ofProgress call progress) n' e'
  | drop {call : Call} {slot : SlotId} (held : call.phase.slot? = some slot) :
    Step now n e (calling call) dropped n (e.abandon slot)
  | receive (message : Message) :
    Step now n e none none n
      { e with router := (e.router.route message).2.2, routed := e.routed ++ [message] }
  | hurry : Step now n e none hurrying n { e with halted := true }
  | claim (isOpen : e.closed = false) : Step now n e hurrying failing n { e with closed := true }
  | seize (isOpen : e.closed = false) : Step now n e none seizing n { e with closed := true }
  | press : Step now n e seizing failing n { e with halted := true }
  | fail : Step now n e failing failed n { e with router := e.router.failAll.2 }
  | publish : Step now n e failed none n { e with stage := .closed }

end Part

/-- What the calls over one connection see of it, and what each task has to do with them. -/
@[ext]
structure Traffic where
  now : Nat
  nextId : Nat
  exchange : Option Exchange
  part : TaskId → Part

namespace Traffic

def setPart (l : Traffic) (t : TaskId) (part : Part) : Traffic :=
  { l with part := fun other => if other = t then part else l.part other }

theorem setPart_of_part {l : Traffic} {t : TaskId} {part : Part} (h : l.part t = part) :
    l.setPart t part = l := by
  ext1 <;> try rfl
  funext other
  by_cases same : other = t
  · simp [setPart, same, h]
  · simp [setPart, same]

/-- Ids may have been given out elsewhere, and the connection may have come nearer to its end. -/
structure Mild (l l' : Traffic) : Prop where
  now : l'.now = l.now
  nextId : l.nextId ≤ l'.nextId
  exchange : Option.Rel Exchange.Mild l.exchange l'.exchange
  part : l'.part = l.part

theorem Mild.after {l l' : Traffic} {e : Exchange} (h : l.Mild l') (here : l.exchange = some e) :
    ∃ e', l'.exchange = some e' ∧ e.Mild e' := by
  have related := h.exchange
  rw [here] at related
  generalize l'.exchange = after at related
  cases related with
  | some mild => exact ⟨_, rfl, mild⟩

theorem Mild.before {l l' : Traffic} {e' : Exchange} (h : l.Mild l') (here : l'.exchange = some e') :
    ∃ e, l.exchange = some e ∧ e.Mild e' := by
  have related := h.exchange
  rw [here] at related
  generalize l.exchange = before at related
  cases related with
  | some mild => exact ⟨_, rfl, mild⟩

inductive Act (l : Traffic) : Part → Part → Traffic → Prop where
  | mild {p : Part} {l' : Traffic} (same : l.Mild l') : Act l p p l'
  | rest {l' : Traffic} (same : l.Mild l') : Act l .hurrying .none l'
  | begin (call : Call) (new : call.phase = .register) : Act l .none (.calling call) l
  | quit {p : Part} (idle : l.exchange = none ∨ ∀ call, p = .calling call → call.phase.slot? = none) :
    Act l p .dropped l
  | deal {p p' : Part} {e e' : Exchange} {n : Nat} (here : l.exchange = some e)
    (step : Part.Step l.now l.nextId e p p' n e') :
    Act l p p' { l with nextId := n, exchange := some e' }

/-- All that can happen to the traffic of a connection. -/
inductive Move (l : Traffic) : Traffic → Prop where
  | act {t : TaskId} {p p' : Part} {l' : Traffic} (was : l.part t = p) (act : l.Act p p' l') :
    Move l (l'.setPart t p')
  | arrive {t : TaskId} {e : Exchange} {call : Call} (none : l.exchange = none) (idle : l.part t = .none)
    (new : call.phase = .register) (calls : e.router.pending = {} ∧ e.router.slots = [])
    (routed : e.routed = []) (stage : e.stage = .initializing) :
    Move l ({ l with exchange := some e }.setPart t (.calling call))
  | elapse {now : Nat} (later : l.now ≤ now) : Move l { l with now }

inductive Course : List Traffic → Prop where
  | start {l : Traffic} (none : l.exchange = none) (idle : ∀ t, l.part t = .none) : Course [l]
  | move {l l' : Traffic} {past : List Traffic} (h : Course (l :: past)) (h' : l.Move l') :
    Course (l' :: l :: past)

def routed (l : Traffic) : List Message :=
  match l.exchange with
  | none => []
  | some e => e.routed

end Traffic

def Router.awaits (r : Router) (id : MessageId) : Bool :=
  (r.pending.get? id).any fun slot => r.slots[slot]? = some .waiting

namespace Traffic

def awaits (l : Traffic) (id : MessageId) : Bool := l.exchange.any fun e => e.router.awaits id

def delivered (id : MessageId) : List Traffic → List Message
  | l' :: l :: past => delivered id (l :: past) ++
    (l'.routed.drop l.routed.length).filter fun message => message.id = id ∧ l.awaits id
  | _ => []

variable {l l' : Traffic} {past : List Traffic} {id : MessageId}

theorem delivered_of_append {arrivals : List Message} (came : l'.routed = l.routed ++ arrivals) :
    delivered id (l' :: l :: past) = delivered id (l :: past) ++
      arrivals.filter fun message => message.id = id ∧ l.awaits id := by
  rw [delivered, came, List.drop_left]

theorem delivered_of_routed (same : l'.routed = l.routed) :
    delivered id (l' :: l :: past) = delivered id (l :: past) := by
  rw [delivered_of_append (same.trans (List.append_nil _).symm)]
  exact List.append_nil _

end Traffic

end Fleetwire
