import Fleetwire.Proofs.Framing.Reader
import Fleetwire.System.Exchange

namespace Fleetwire

/-- What of a connection its bytes and envelopes pass through. -/
structure Lane where
  settings : Settings
  came : Bytes
  readCount : Nat := 0
  inbox : FrameBuffer
  routed : List Message := []
  capacity : Nat
  accepted : List Bytes := []
  takenCount : Nat := 0
  isOpen : Bool := true
  writing : Bytes := []
  went : Bytes := []

/-- What a task has to do with the flow through a connection. -/
inductive Station where
  | none
  | sending (message : Message) (phase : Sending)
  | serving
  | retired
deriving DecidableEq

def Station.serves : Station → Bool
  | serving | retired => true
  | none | sending _ _ => false

def Sending.Fits (message : Message) (limit : Nat) : Sending → Prop
  | check => True
  | queue envelope | wait envelope => envelope = message.encode ∧ envelope.length ≤ limit

def Message.ofPayload? (payload : Bytes) : Option Message := (Message.decode payload).toOption

namespace Lane

def new (settings : Settings) (came : Bytes) : Lane where
  settings := settings
  came := came
  inbox := { limit := settings.maxFrameSize }
  capacity := max settings.outboundQueueCapacity 1

def received (x : Lane) : Bytes := x.came.take x.readCount

def upcoming (x : Lane) (count : Nat) : Bytes := (x.came.drop x.readCount).take count

/-- What one action makes of a task's station and of the lane, and the message that it enqueues. -/
inductive Act (x : Lane) : Station → Option Message → Station → Lane → Prop where
  | begin (message : Message) : Act x .none none (.sending message .check) x
  | check {message : Message} (fits : message.encode.length ≤ x.settings.maxFrameSize) :
    Act x (.sending message .check) none (.sending message (.queue message.encode)) x
  | queue {message : Message} {envelope : Bytes} :
    Act x (.sending message (.queue envelope)) none (.sending message (.wait envelope)) x
  | stop {message : Message} {phase : Sending} : Act x (.sending message phase) none .none x
  | post {message : Message} {envelope : Bytes} (isOpen : x.isOpen)
    (room : x.accepted.length - x.takenCount < x.capacity) :
    Act x (.sending message (.wait envelope)) (some message) .none
      { x with accepted := x.accepted ++ [envelope] }
  | fetch (count : Nat) :
    Act x .serving none .serving
      { x with
        inbox := x.inbox.extend (x.upcoming count)
        readCount := x.readCount + (x.upcoming count).length }
  | receive {payload : Bytes} {inbox : FrameBuffer} (found : x.inbox.next? = .ok (some (payload, inbox))) :
    Act x .serving none .serving
      { x with inbox, routed := x.routed ++ (Message.ofPayload? payload).toList }
  | load {envelope frame : Bytes} (idle : x.writing = []) (next : x.accepted[x.takenCount]? = some envelope)
    (encoded : Frame.encodeWithin x.settings.maxFrameSize envelope = .ok frame) :
    Act x .serving none .serving { x with takenCount := x.takenCount + 1, writing := frame }
  | write (count : Nat) :
    Act x .serving none .serving
      { x with went := x.went ++ x.writing.take count, writing := x.writing.drop count }
  | leave : Act x .serving none .retired { x with isOpen := false }
  | refuse {envelope : Bytes} {error : StreamError} (idle : x.writing = [])
    (next : x.accepted[x.takenCount]? = some envelope)
    (unwritable : Frame.encodeWithin x.settings.maxFrameSize envelope = .error error) :
    Act x .serving none .retired { x with takenCount := x.takenCount + 1, isOpen := false }

/-- What was received are the frames of these payloads, and what is held. -/
structure Receives (x : Lane) (payloads : List Bytes) : Prop where
  split : ∃ frames, Written payloads frames ∧ x.received = frames ++ x.inbox.held
  fits : ∀ payload ∈ payloads, payload.length ≤ x.settings.maxFrameSize
  routed : x.routed = payloads.filterMap Message.ofPayload?

/-- What was written are the frames of the first `count` envelopes, and a part of the next one's frame, of
which the rest is still to be written. -/
structure Writes (x : Lane) (count : Nat) (part : Bytes) : Prop where
  split : ∃ frames, Written (x.accepted.take count) frames ∧ x.went = frames ++ part
  rest : part = [] ∧ x.writing = [] ∧ count = x.takenCount ∨
    ∃ envelope, x.accepted[count]? = some envelope ∧ Frame.encode envelope = .ok (part ++ x.writing) ∧
      x.writing ≠ [] ∧ count + 1 = x.takenCount

structure Sound (x : Lane) (sent : List Message) : Prop where
  bound : x.inbox.limit = x.settings.maxFrameSize
  read : x.readCount ≤ x.came.length
  receives : ∃ payloads, x.Receives payloads
  capacity : x.capacity = max x.settings.outboundQueueCapacity 1
  accepted : x.accepted = sent.map Message.encode
  fits : ∀ envelope ∈ x.accepted, envelope.length ≤ x.settings.maxFrameSize
  taken : x.takenCount ≤ x.accepted.length
  room : x.accepted.length - x.takenCount ≤ x.capacity
  writes : x.settings.maxFrameSize ≤ Frame.maxLength → ∃ count part, x.Writes count part

variable {x x' : Lane} {sent : List Message} {p p' : Station} {posted : Option Message} {payloads : List Bytes}

theorem sound_new (settings : Settings) (came : Bytes) : (new settings came).Sound [] where
  bound := rfl
  read := Nat.zero_le _
  receives := ⟨[], ⟨[], .nil, rfl⟩, nofun, rfl⟩
  capacity := rfl
  accepted := rfl
  fits := nofun
  taken := Nat.le_refl _
  room := Nat.zero_le _
  writes _ := ⟨0, [], ⟨[], .nil, rfl⟩, .inl ⟨rfl, rfl, rfl⟩⟩

theorem received_fetch (x : Lane) (count : Nat) :
    x.came.take (x.readCount + (x.upcoming count).length) = x.received ++ x.upcoming count := by
  have exact : x.upcoming count = (x.came.drop x.readCount).take (x.upcoming count).length := by
    unfold upcoming
    rw [List.length_take, List.take_eq_take_min]
  rw [List.take_add, ← exact, received]

theorem Receives.fetch (h : x.Receives payloads) (count : Nat) :
    ({ x with
      inbox := x.inbox.extend (x.upcoming count)
      readCount := x.readCount + (x.upcoming count).length } : Lane).Receives payloads := by
  obtain ⟨⟨frames, written, split⟩, fits, routed⟩ := h
  refine ⟨⟨frames, written, ?_⟩, fits, routed⟩
  simp only [received, FrameBuffer.extend]
  rw [received_fetch, split, List.append_assoc]

theorem Receives.receive (h : x.Receives payloads) {payload : Bytes} {inbox : FrameBuffer}
    (bound : x.inbox.limit = x.settings.maxFrameSize)
    (found : x.inbox.next? = .ok (some (payload, inbox))) :
    ({ x with inbox, routed := x.routed ++ (Message.ofPayload? payload).toList } : Lane).Receives
      (payloads ++ [payload]) := by
  obtain ⟨⟨frames, written, split⟩, fits, routed⟩ := h
  obtain ⟨-, frame, encoded, held, small⟩ := FrameBuffer.next?_payload found
  refine ⟨⟨frames ++ frame, written.concat encoded, ?_⟩, ?_, ?_⟩
  · show x.received = _
    rw [split, held, List.append_assoc]
  · simp only [List.forall_mem_append, List.forall_mem_singleton]
    exact ⟨fits, bound ▸ small⟩
  · rw [List.filterMap_append, routed]
    cases decoded : Message.ofPayload? payload <;> simp [decoded]

theorem Receives.come (h : x.Receives payloads) (read : x.readCount ≤ x.came.length) (bytes : Bytes) :
    ({ x with came := x.came ++ bytes } : Lane).Receives payloads := by
  refine ⟨?_, h.fits, h.routed⟩
  simp only [received, List.take_append_of_le_length read]
  exact h.split

theorem Writes.post {count : Nat} {part : Bytes} (h : x.Writes count part)
    (taken : x.takenCount ≤ x.accepted.length) (envelope : Bytes) :
    ({ x with accepted := x.accepted ++ [envelope] } : Lane).Writes count part := by
  obtain ⟨split, rest⟩ := h
  have inside : count ≤ x.accepted.length := by
    rcases rest with ⟨-, -, rfl⟩ | ⟨_, -, -, -, next⟩ <;> omega
  refine ⟨by simpa only [List.take_append_of_le_length inside] using split, ?_⟩
  rcases rest with done | ⟨current, found, encoded, more, next⟩
  · exact .inl done
  · refine .inr ⟨current, ?_, encoded, more, next⟩
    rw [List.getElem?_append_left (by omega)]
    exact found

theorem Writes.load {count : Nat} {part envelope frame : Bytes} (h : x.Writes count part)
    (idle : x.writing = []) (next : x.accepted[x.takenCount]? = some envelope)
    (encoded : Frame.encode envelope = .ok frame) :
    ({ x with takenCount := x.takenCount + 1, writing := frame } : Lane).Writes x.takenCount [] := by
  obtain ⟨⟨frames, written, split⟩, ⟨rfl, -, rfl⟩ | ⟨_, -, -, more, -⟩⟩ := h
  · have long := Frame.length_encode encoded
    refine ⟨⟨frames, written, split⟩, .inr ⟨envelope, next, encoded, ?_, rfl⟩⟩
    rintro rfl
    simp only [List.length_nil, Frame.lengthSize] at long
    omega
  · exact absurd idle more

theorem Writes.write {count : Nat} {part : Bytes} (h : x.Writes count part) (size : Nat) :
    ∃ count' part', ({ x with went := x.went ++ x.writing.take size, writing := x.writing.drop size } :
      Lane).Writes count' part' := by
  obtain ⟨⟨frames, written, split⟩, ⟨rfl, done, rfl⟩ | ⟨envelope, found, encoded, more, next⟩⟩ := h
  · refine ⟨x.takenCount, [], ⟨frames, written, ?_⟩, .inl ⟨rfl, ?_, rfl⟩⟩
    · simp only [done, List.take_nil, split, List.append_nil]
    · simp only [done, List.drop_nil]
  · by_cases finished : x.writing.drop size = []
    · -- The frame is complete, and counts among those that were written.
      have all : x.writing.take size = x.writing := by
        have both := List.take_append_drop size x.writing
        rwa [finished, List.append_nil] at both
      have current : x.accepted.take (count + 1) = x.accepted.take count ++ [envelope] := by
        rw [List.take_add_one, found, Option.toList_some]
      refine ⟨count + 1, [], ⟨frames ++ (part ++ x.writing), ?_, ?_⟩, .inl ⟨rfl, finished, next⟩⟩
      · rw [current]
        exact written.concat encoded
      · simp only [split, all, List.append_assoc, List.append_nil]
    · refine ⟨count, part ++ x.writing.take size, ⟨frames, written, ?_⟩,
        .inr ⟨envelope, found, ?_, finished, next⟩⟩
      · simp only [split, List.append_assoc]
      · rwa [List.append_assoc, List.take_append_drop]

theorem encode_of_encodeWithin {limit : Nat} {envelope frame : Bytes}
    (h : Frame.encodeWithin limit envelope = .ok frame) : Frame.encode envelope = .ok frame := by
  unfold Frame.encodeWithin at h
  split at h
  · cases h
  · exact h

theorem encodeWithin_ok {limit : Nat} {envelope : Bytes} (fits : envelope.length ≤ limit)
    (countable : limit ≤ Frame.maxLength) (error : StreamError) :
    Frame.encodeWithin limit envelope ≠ .error error := by
  unfold Frame.encodeWithin Frame.encode
  rw [if_neg (by omega), if_neg (by omega)]
  simp

theorem Sound.post (h : x.Sound sent) {message : Message} {envelope : Bytes}
    (fits : (Sending.wait envelope).Fits message x.settings.maxFrameSize)
    (room : x.accepted.length - x.takenCount < x.capacity) :
    ({ x with accepted := x.accepted ++ [envelope] } : Lane).Sound (sent ++ [message]) := by
  obtain ⟨rfl, small⟩ := fits
  have taken := h.taken
  refine ⟨h.bound, h.read, ?_, h.capacity, ?_, ?_, ?_, ?_, fun countable => ?_⟩
  · obtain ⟨payloads, receives⟩ := h.receives
    exact ⟨payloads, receives.split, receives.fits, receives.routed⟩
  · rw [List.map_append, h.accepted, List.map_singleton]
  · simp only [List.forall_mem_append, List.forall_mem_singleton]
    exact ⟨h.fits, small⟩
  · rw [List.length_append]
    exact Nat.le_add_right_of_le taken
  · simp only [List.length_append, List.length_singleton]
    omega
  · obtain ⟨count, part, writes⟩ := h.writes countable
    exact ⟨count, part, writes.post taken message.encode⟩

theorem Sound.act (h : x.Sound sent) (act : x.Act p posted p' x')
    (fits : ∀ message phase, p = .sending message phase → phase.Fits message x.settings.maxFrameSize) :
    x'.Sound (sent ++ posted.toList) := by
  obtain ⟨payloads, receives⟩ := h.receives
  have inside {envelope : Bytes} (next : x.accepted[x.takenCount]? = some envelope) :
      x.takenCount < x.accepted.length := (List.getElem?_eq_some_iff.1 next).1
  cases act with
  | post isOpen room => exact h.post (fits _ _ rfl) room
  | begin | check | queue | stop =>
    rw [Option.toList_none, List.append_nil]
    exact h
  | fetch count =>
    rw [Option.toList_none, List.append_nil]
    have available : (x.upcoming count).length ≤ x.came.length - x.readCount := by
      simp only [upcoming, List.length_take, List.length_drop]
      omega
    have read := h.read
    exact ⟨h.bound, by dsimp only; omega, ⟨payloads, receives.fetch count⟩, h.capacity, h.accepted, h.fits,
      h.taken, h.room, fun countable => (h.writes countable).imp fun _ => .imp fun _ w => ⟨w.split, w.rest⟩⟩
  | receive found =>
    rw [Option.toList_none, List.append_nil]
    have kept := (FrameBuffer.next?_payload found).1
    exact ⟨kept.trans h.bound, h.read, ⟨_, receives.receive h.bound found⟩, h.capacity, h.accepted, h.fits,
      h.taken, h.room, fun countable => (h.writes countable).imp fun _ => .imp fun _ w => ⟨w.split, w.rest⟩⟩
  | load idle next encoded =>
    rw [Option.toList_none, List.append_nil]
    have more := inside next
    have room := h.room
    refine ⟨h.bound, h.read, ⟨payloads, receives.split, receives.fits, receives.routed⟩, h.capacity,
      h.accepted, h.fits, more, by dsimp only; omega, fun countable => ?_⟩
    obtain ⟨count, part, writes⟩ := h.writes countable
    exact ⟨x.takenCount, [], writes.load idle next (encode_of_encodeWithin encoded)⟩
  | write size =>
    rw [Option.toList_none, List.append_nil]
    refine ⟨h.bound, h.read, ⟨payloads, receives.split, receives.fits, receives.routed⟩, h.capacity,
      h.accepted, h.fits, h.taken, h.room, fun countable => ?_⟩
    obtain ⟨count, part, writes⟩ := h.writes countable
    exact writes.write size
  | leave =>
    rw [Option.toList_none, List.append_nil]
    exact ⟨h.bound, h.read, ⟨payloads, receives.split, receives.fits, receives.routed⟩, h.capacity,
      h.accepted, h.fits, h.taken, h.room,
      fun countable => (h.writes countable).imp fun _ => .imp fun _ w => ⟨w.split, w.rest⟩⟩
  | refuse idle next unwritable =>
    rw [Option.toList_none, List.append_nil]
    have more := inside next
    have room := h.room
    refine ⟨h.bound, h.read, ⟨payloads, receives.split, receives.fits, receives.routed⟩, h.capacity,
      h.accepted, h.fits, more, by dsimp only; omega, fun countable => ?_⟩
    exact absurd unwritable (encodeWithin_ok (h.fits _ (List.mem_of_getElem? next)) countable _)

theorem Act.settings (act : x.Act p posted p' x') : x'.settings = x.settings := by
  cases act <;> rfl

theorem Act.isOpen (act : x.Act p posted p' x') (serving : p' = .serving) (isOpen : x.isOpen) :
    x'.isOpen := by
  cases act <;> first | exact isOpen | cases serving

theorem Act.serves (act : x.Act p posted p' x') : p'.serves = p.serves := by
  cases act <;> rfl

theorem Act.serving (act : x.Act p posted p' x') (serving : p' = .serving) : p = .serving := by
  cases act <;> first | rfl | cases serving

theorem Act.closes (act : x.Act p posted p' x') (isOpen : x.isOpen) :
    x'.isOpen ∨ p = .serving ∧ p' ≠ .serving := by
  cases act <;> first | exact .inl isOpen | exact .inr ⟨rfl, nofun⟩

theorem Act.went (act : x.Act p posted p' x') (other : p ≠ .serving) :
    x'.went = x.went ∧ x'.isOpen = x.isOpen := by
  cases act <;> first | exact absurd rfl other | exact ⟨rfl, rfl⟩

theorem Act.fits (act : x.Act p posted p' x')
    (fits : ∀ message phase, p = .sending message phase → phase.Fits message x.settings.maxFrameSize)
    (message : Message) (phase : Sending) (sends : p' = .sending message phase) :
    phase.Fits message x.settings.maxFrameSize := by
  cases act with
  | begin =>
    cases sends
    trivial
  | check small =>
    cases sends
    exact ⟨rfl, small⟩
  | queue =>
    cases sends
    exact fits message (.queue _) rfl
  | _ => cases sends

end Lane

/-- What flows through a connection, and what the tasks have to do with it. -/
@[ext]
structure Flow where
  lane : Option Lane
  station : TaskId → Station

namespace Flow

def setStation (l : Flow) (t : TaskId) (station : Station) : Flow :=
  { l with station := fun other => if other = t then station else l.station other }

theorem setStation_of_station {l : Flow} {t : TaskId} {station : Station} (h : l.station t = station) :
    l.setStation t station = l := by
  ext1 <;> try rfl
  funext other
  by_cases same : other = t
  · simp [setStation, same, h]
  · simp [setStation, same]

inductive Act (l : Flow) : Station → Option Message → Station → Flow → Prop where
  | rest {p : Station} : Act l p none p l
  | act {p p' : Station} {posted : Option Message} {x x' : Lane} (here : l.lane = some x)
    (act : x.Act p posted p' x') : Act l p posted p' { l with lane := some x' }

/-- One step of the flow, and the message whose envelope it enqueued. -/
inductive Move (l : Flow) : Option Message → Flow → Prop where
  | act {t : TaskId} {p p' : Station} {posted : Option Message} {l' : Flow} (station : l.station t = p)
    (act : l.Act p posted p' l') : Move l posted (l'.setStation t p')
  | come {x : Lane} (here : l.lane = some x) (bytes : Bytes) :
    Move l none { l with lane := some { x with came := x.came ++ bytes } }
  | arrive {t : TaskId} (absent : l.lane = none) (settings : Settings) (came : Bytes) :
    Move l none (({ l with lane := some (.new settings came) } : Flow).setStation t .serving)

structure Sound (l : Flow) (sent : List Message) : Prop where
  lane : ∀ x, l.lane = some x → x.Sound sent
  absent : l.lane = none → sent = [] ∧ ∀ t, l.station t = .none
  isOpen : ∀ x t, l.lane = some x → l.station t = .serving → x.isOpen
  alone : ∀ t t', (l.station t).serves → (l.station t').serves → t = t'
  fits : ∀ x t message phase, l.lane = some x → l.station t = .sending message phase →
    phase.Fits message x.settings.maxFrameSize

variable {l l' : Flow} {sent : List Message} {posted : Option Message} {t : TaskId}

theorem station_setStation (l : Flow) (t : TaskId) (station : Station) (other : TaskId) :
    (l.setStation t station).station other = if other = t then station else l.station other := rfl

theorem Sound.act (h : l.Sound sent) {p p' : Station} {x x' : Lane} (here : l.lane = some x)
    (station : l.station t = p) (act : x.Act p posted p' x') :
    (({ l with lane := some x' } : Flow).setStation t p').Sound (sent ++ posted.toList) := by
  have own : ∀ message phase, p = .sending message phase →
      phase.Fits message x.settings.maxFrameSize :=
    fun message phase sends => h.fits x t message phase here (station.trans sends)
  have serves : ∀ u, (if u = t then p' else l.station u).serves = (l.station u).serves := by
    intro u
    by_cases same : u = t
    · rw [if_pos same, act.serves, same, station]
    · rw [if_neg same]
  refine ⟨?_, nofun, ?_, ?_, ?_⟩
  · rintro _ ⟨⟩
    exact (h.lane x here).act act own
  · rintro _ u ⟨⟩ serving
    rw [station_setStation] at serving
    by_cases same : u = t
    · rw [if_pos same] at serving
      exact act.isOpen serving (h.isOpen x t here (station.trans (act.serving serving)))
    · rw [if_neg same] at serving
      have isOpen := h.isOpen x u here serving
      -- Two do not serve one connection, so that it was not `t` who closed the queue.
      refine (act.closes isOpen).resolve_right fun closed => same ?_
      exact h.alone u t (by rw [serving]; rfl) (by rw [station, closed.1]; rfl)
  · intro u u' here' there'
    rw [station_setStation, serves] at here' there'
    exact h.alone u u' here' there'
  · rintro _ u message phase ⟨⟩ sends
    rw [act.settings]
    rw [station_setStation] at sends
    by_cases same : u = t
    · rw [if_pos same] at sends
      exact act.fits own message phase sends
    · rw [if_neg same] at sends
      exact h.fits x u message phase here sends

theorem Sound.move (h : l.Sound sent) (move : l.Move posted l') : l'.Sound (sent ++ posted.toList) := by
  cases move with
  | act station act =>
    cases act with
    | rest =>
      rw [setStation_of_station station, Option.toList_none, List.append_nil]
      exact h
    | act here act => exact h.act here station act
  | @come x here bytes =>
    rw [Option.toList_none, List.append_nil]
    have sound := h.lane _ here
    have read := sound.read
    refine ⟨?_, nofun, ?_, h.alone, ?_⟩
    · rintro _ ⟨⟩
      obtain ⟨payloads, receives⟩ := sound.receives
      exact ⟨sound.bound, by simp only [List.length_append]; omega, ⟨payloads, receives.come read bytes⟩,
        sound.capacity, sound.accepted, sound.fits, sound.taken, sound.room,
        fun countable => (sound.writes countable).imp fun _ => .imp fun _ w => ⟨w.split, w.rest⟩⟩
    · rintro _ u ⟨⟩
      exact h.isOpen x u here
    · rintro _ u message phase ⟨⟩
      exact h.fits x u message phase here
  | @arrive t absent settings came =>
    obtain ⟨rfl, idle⟩ := h.absent absent
    have only : ∀ u, u ≠ t → (if u = t then Station.serving else l.station u) = .none := by
      intro u other
      rw [if_neg other, idle]
    refine ⟨?_, nofun, ?_, ?_, ?_⟩
    · rintro _ ⟨⟩
      exact Lane.sound_new settings came
    · rintro _ u ⟨⟩ -
      rfl
    · have serves : ∀ u, ((if u = t then Station.serving else l.station u).serves) → u = t := by
        intro u serves
        by_contra other
        rw [only u other] at serves
        cases serves
      intro u u' here there
      rw [station_setStation] at here there
      exact (serves u here).trans (serves u' there).symm
    · rintro _ u message phase ⟨⟩ sends
      rw [station_setStation] at sends
      by_cases same : u = t
      · rw [if_pos same] at sends
        cases sends
      · rw [only u same] at sends
        cases sends

theorem Move.closed (h : l.Sound sent) (move : l.Move posted l') {x : Lane} (here : l.lane = some x)
    (closed : x.isOpen = false) :
    ∃ x', l'.lane = some x' ∧ x'.isOpen = false ∧ x'.went = x.went := by
  have nobody : ∀ t, l.station t ≠ .serving := by
    intro t serving
    rw [h.isOpen x t here serving] at closed
    cases closed
  cases move with
  | act station act =>
    cases act with
    | rest => exact ⟨x, here, closed, rfl⟩
    | act there act =>
      obtain rfl := Option.some.inj (here.symm.trans there)
      obtain ⟨went, isOpen⟩ := act.went (station ▸ nobody _)
      exact ⟨_, rfl, isOpen.trans closed, went⟩
  | come there bytes =>
    obtain rfl := Option.some.inj (here.symm.trans there)
    exact ⟨_, rfl, closed, rfl⟩
  | arrive absent => exact absurd (here.symm.trans absent) nofun

end Flow

end Fleetwire
