import Fleetwire.Proofs.Closing.Dismissal
import Fleetwire.Proofs.Dialogue.Sound
import Fleetwire.Proofs.Pool

namespace Fleetwire

open MessagePack

abbrev LinkError.tooLarge (size limit : Nat) : LinkError := .stream (.frameTooLarge size limit)

theorem Message.length_encode_withId (message : Message) (id : MessageId) :
    ({ message with id } : Message).encode.length = message.encode.length := by
  have width (id : MessageId) : ((Wire.field .id).write id).length = 18 := by
    simp [Wire.field, Wire.id, Wire.binHeader, id.length_bytes, Bytes.length_bigEndian]
  show (Wire.mapHeader 5 ++ Wire.fieldBytes layout.fields _).length =
    (Wire.mapHeader 5 ++ Wire.fieldBytes layout.fields _).length
  simp only [layout, fields, Wire.fieldBytes, List.length_append, width]

namespace Call

def size (call : Call) : Nat := (Message.request (.fresh 0) call.kind call.payload).encode.length

theorem length_request (call : Call) (id : MessageId) :
    (Message.request id call.kind call.payload).encode.length = call.size :=
  Message.length_encode_withId (.request (.fresh 0) call.kind call.payload) id

/-- The phases of a call whose envelope is longer than `limit` on a connection that is not closed. -/
inductive Overlong (limit : Nat) (call : Call) : Calling → Prop where
  | register : Overlong limit call .register
  | check (id : MessageId) (slot : SlotId) (deadline : Nat) :
    Overlong limit call (.send (.request id call.kind call.payload) slot deadline .check)
  | forget (id : MessageId) : Overlong limit call
    (.forget (.request id call.kind call.payload) (.tooLarge call.size limit))

theorem Overlong.goesOn {limit : Nat} {call : Call} {later : Calling} (overlong : call.Overlong limit later) :
    ({ call with phase := later } : Call).Overlong limit later := by
  cases overlong with
  | register => exact .register
  | check => exact .check ..
  | forget => exact .forget _

end Call

namespace System

variable {s s' : System} {past : List System} {c : ConnectionId} {t : TaskId} {x : Connection} {call : Call}

theorem update_congr {f g : Connection → Connection} (here : s.connections[c]? = some x) (same : f x = g x) :
    s.update c f = s.update c g := by
  have changed : s.connections.modify c f = s.connections.modify c g := by
    apply List.ext_getElem?
    intro other
    rw [List.getElem?_modify, List.getElem?_modify]
    split
    next own => simp [← own, here, same]
    · rfl
  rw [update, update, changed]

def withCalls (s : System) (c : ConnectionId) (pending : Assoc MessageId SlotId) (slots : List Slot) (nextId : Nat) :
    System :=
  { s.update c (fun x => { x with router := { x.router with pending, slots } }) with nextId }

theorem update_eq_withCalls {f : Connection → Connection} {pending : Assoc MessageId SlotId} {slots : List Slot}
    (here : s.connections[c]? = some x) (same : f x = { x with router := { x.router with pending, slots } })
    (nextId : Nat) : { s.update c f with nextId } = s.withCalls c pending slots nextId := by
  have changed : s.update c f = s.update c fun x => { x with router := { x.router with pending, slots } } :=
    update_congr here same
  rw [withCalls, changed]

/-- An action of a call whose envelope is longer than the connection `x` may send comes to this, and to nothing else:
it goes on towards its end, or it fails with the size of the envelope. No id but its own is touched, and nothing besides
the ids and the slots of calls, but for the number of the next id. -/
structure Rebuffs (s : System) (c : ConnectionId) (t : TaskId) (x : Connection) (call : Call)
    (progress : Progress Calling (Except LinkError Bytes)) (s' : System) : Prop where
  only : call.next s c t = [(progress, s')]
  fails : progress = .ended (.error (.tooLarge call.size x.settings.maxFrameSize)) ∧
      s'.pending? c (call.ownId s) = none ∨
    ∃ later, progress = .going later ∧ call.Overlong x.settings.maxFrameSize later ∧ later.rank < call.phase.rank
  others : ∀ id, id ≠ call.ownId s → s'.pending? c id = s.pending? c id
  rest : ∃ pending slots nextId, s' = s.withCalls c pending slots nextId

theorem sending_of_overlong (here : s.connections[c]? = some x) (isOpen : x.closed = false) (t : TaskId)
    {message : Message} (long : x.settings.maxFrameSize < message.encode.length) : Sending.check.next s c t message =
      [(.ended (.error (.tooLarge message.encode.length x.settings.maxFrameSize)), s)] := by
  simp only [Sending.next, here, isOpen, Bool.false_eq_true, if_false, if_pos long]

theorem rebuffs (linedUp : s.LinedUp) (here : s.connections[c]? = some x) (calls : s.call? c t = some call)
    (long : x.settings.maxFrameSize < call.size) (overlong : call.Overlong x.settings.maxFrameSize call.phase)
    (isOpen : ∀ request ∈ call.phase.sending?, x.closed = false) :
    ∃ progress s', s.Rebuffs c t x call progress s' := by
  generalize current : call.phase = phase at overlong
  cases overlong with
  | register =>
    let request := Message.request (.fresh s.nextId) call.kind call.payload
    let expecting := x.router.expect request.id
    have own : call.ownId s = request.id := by simp [Call.ownId, current, Calling.request?, request, Message.request]
    refine ⟨.going (.send request expecting.1 (s.now + call.timeout.nanoseconds) .check),
      { s.update c (fun y => { y with router := expecting.2 }) with nextId := s.nextId + 1 }, ?_,
      .inr ⟨_, rfl, .check .., by simp [current, Calling.rank]⟩, fun other different => ?_, ?_⟩
    · simp only [Call.next, here, current, request, expecting]
    · rw [own] at different
      simp [pending?, System.update, here, expecting, Router.pending_expect, Assoc.get?_insert, different]
    · obtain ⟨pending, slots, expected⟩ := x.router.expect_calls request.id
      exact ⟨pending, slots, _, update_eq_withCalls here (by simp only [expecting, expected]) _⟩
  | check requestId slot deadline =>
    let request := Message.request requestId call.kind call.payload
    have idle : ¬ call.phase.station.InLine := by
      rw [current]
      exact id
    have away : t ∉ x.outbox.senders.members := line_of_connection here ▸ not_mem_line linedUp calls idle
    have kept : x.outbox.leave t = x.outbox := by
      simp only [Outbox.leave, Line.leave_of_not_mem away]
    have size : request.encode.length = call.size := call.length_request requestId
    have sends := sending_of_overlong here (isOpen request (by rw [current]; rfl)) t (size ▸ long)
    rw [size] at sends
    refine ⟨.going (.forget request (.tooLarge call.size x.settings.maxFrameSize)), Call.giveUp s c t slot, ?_,
      .inr ⟨_, rfl, .forget .., by simp [current, Calling.rank]⟩, fun other _ => ?_, ?_⟩
    · simp only [Call.next, here, current, sends, List.map_cons, List.map_nil, request]
    · simp [pending?, Call.giveUp, System.update, here, Router.abandon]
    · have left : { x with outbox := x.outbox.leave t, router := x.router.abandon slot } =
          { x with router := { x.router with slots := (x.router.abandon slot).slots } } := by rw [kept]; rfl
      exact ⟨_, _, _, update_eq_withCalls here left s.nextId⟩
  | forget requestId =>
    let request := Message.request requestId call.kind call.payload
    have own : call.ownId s = requestId := by simp [Call.ownId, current, Calling.request?, Message.request]
    refine ⟨.ended (.error (.tooLarge call.size x.settings.maxFrameSize)),
      s.update c fun y => { y with router := (y.router.cancel request.id).2 }, ?_, .inl ⟨rfl, ?_⟩,
      fun other different => ?_, ?_⟩
    · simp only [Call.next, here, current, request]
    · simp [pending?, System.update, here, Router.get?_pending_cancel, own, request, Message.request]
    · rw [own] at different
      simp [pending?, System.update, here, Router.get?_pending_cancel, different, request, Message.request]
    · obtain ⟨pending, slots, cancelled⟩ := x.router.cancel_calls request.id
      exact ⟨pending, slots, _, update_eq_withCalls here (by simp only [cancelled]) s.nextId⟩

theorem overlong_of_next (linedUp : s.LinedUp) (here : s.connections[c]? = some x) (calls : s.call? c t = some call)
    (long : x.settings.maxFrameSize < call.size)
    (former : call.Overlong x.settings.maxFrameSize call.phase ∨ x.closed ∧ call.phase.Dismissed) {later : Calling}
    {s₁ : System} (acts : (.going later, s₁) ∈ call.next s c t) :
    call.Overlong x.settings.maxFrameSize later ∨ x.closed ∧ later.Dismissed := by
  have dismissed (closed : x.closed) (dismissed : call.phase.Dismissed) : later.Dismissed := by
    obtain ⟨progress, _, only⟩ := dismisses linedUp here closed calls dismissed
    rw [only.only] at acts
    cases List.mem_singleton.1 acts
    rcases only.fails with ⟨fails, _⟩ | ⟨_, same, still, _⟩
    · cases fails
    · cases same
      exact still
  have rebuffed (overlong : call.Overlong x.settings.maxFrameSize call.phase)
      (isOpen : ∀ request ∈ call.phase.sending?, x.closed = false) : call.Overlong x.settings.maxFrameSize later := by
    obtain ⟨progress, _, only⟩ := rebuffs linedUp here calls long overlong isOpen
    rw [only.only] at acts
    cases List.mem_singleton.1 acts
    rcases only.fails with ⟨fails, _⟩ | ⟨_, same, still, _⟩
    · cases fails
    · cases same
      exact still
  rcases former with overlong | ⟨closed, former⟩
  · cases closed : x.closed with
    | false => exact .inl (rebuffed overlong fun _ _ => closed)
    | true =>
      generalize current : call.phase = phase at overlong dismissed rebuffed
      cases overlong with
      | register => exact .inr ⟨rfl, dismissed closed .register⟩
      | check => exact .inr ⟨rfl, dismissed closed (.check ..)⟩
      | forget => exact .inl (rebuffed (.forget _) nofun)
  · exact .inr ⟨closed, dismissed closed former⟩

theorem Happening.call_origin (founded : s.Founded) (h : s.Happening s') (calls : s'.call? c t = some call) :
    s.call? c t = some call ∨ call.phase = .register ∨
      ∃ former later s₁, s.call? c t = some former ∧ (.going later, s₁) ∈ former.next s c t ∧
        call = { former with phase := later } := by
  cases h with
  | step step => exact (step.mono fun _ _ plain => plain.1).call_origin founded calls
  | mood => exact .inl calls

theorem Happening.connection (founded : s.Founded) (h : s.Happening s') (here : s.connections[c]? = some x) :
    ∃ x', s'.connections[c]? = some x' ∧ x'.settings.maxFrameSize = x.settings.maxFrameSize ∧
      (x.closed → x'.closed) := by
  obtain ⟨e, exchange, later⟩ := ((h.moves founded).traffic c).later (exchange_of_connection here)
  obtain ⟨x', here', rfl⟩ := Option.map_eq_some_iff.1 exchange
  exact ⟨x', here', later.limit, later.closed⟩

theorem Streaming.unconnected (run : Streaming [s]) : s.connections[c]? = none := by
  cases run with
  | start initial => rw [initial.connections, List.getElem?_nil]

theorem Streaming.overlong (run : Streaming (s :: past)) (here : s.connections[c]? = some x)
    (calls : s.call? c t = some call) (long : x.settings.maxFrameSize < call.size) :
    call.Overlong x.settings.maxFrameSize call.phase ∨ x.closed ∧ call.phase.Dismissed := by
  induction past generalizing s x call with
  | nil => cases run.unconnected.symm.trans here
  | cons before past ih =>
    have founded := run.earlier.basis.1
    have begins (new : call.phase = .register) :
        call.Overlong x.settings.maxFrameSize call.phase ∨ x.closed ∧ call.phase.Dismissed := by
      rw [new]
      exact .inl .register
    cases was : before.connections[c]? with
    | none =>
      -- There was no connection, so that the call can only be at its beginning.
      have absent : (before.traffic c).exchange = none := by simp [traffic, was]
      have idle (former : Call) (called : before.call? c t = some former) : former.phase = .register := by
        have fits := ((run.earlier.course c).fits _ (List.mem_cons_self ..)).part t
        rw [call?_eq_some.1 called] at fits
        have unnamed := fits absent
        generalize former.phase = phase at unnamed
        cases phase with
        | register => rfl
        | send | wait | forget => cases unnamed
      rcases run.happening.call_origin founded calls with same | new | ⟨former, later, s₁, _, acts, _⟩
      · exact begins (idle _ same)
      · exact begins new
      · obtain ⟨_, there, _⟩ := Call.action_of_next acts
        cases was.symm.trans there
    | some x₀ =>
      obtain ⟨x', here', limit, closed⟩ := run.happening.connection founded was
      cases here.symm.trans here'
      rw [limit] at long ⊢
      rcases run.happening.call_origin founded calls with same | new | ⟨former, later, s₁, called, acts, rfl⟩
      · exact (ih run.earlier was same long).imp_right fun h => ⟨closed h.1, h.2⟩
      · rw [limit] at begins
        exact begins new
      · have state := ih run.earlier was called long
        rcases overlong_of_next run.earlier.linedUp was called long state acts with still | ⟨ended, dismissed⟩
        · exact .inl still.goesOn
        · exact .inr ⟨closed ended, dismissed⟩

end System

end Fleetwire
