import Fleetwire.Proofs.Framing

namespace Fleetwire

def Arrival.contents : Arrival → Bytes
  | .bytes chunk => chunk
  | .fault _ => []
  | .notReady => []

namespace FrameBuffer

abbrev Answer := Except StreamError (Option Bytes)

def Answer.payload? : Answer → Option Bytes
  | .ok payload => payload
  | .error _ => none

/-- One go at a read. It has no answer where the stream is not ready, and keeps what has come. -/
def attempt (buffer : FrameBuffer) : List Arrival → Option Answer × FrameBuffer × List Arrival
  | [] =>
    match buffer.next? with
    | .error e => (some (.error e), buffer, [])
    | .ok (some (payload, buffer)) => (some (.ok (some payload)), buffer, [])
    | .ok none => (some buffer.atEnd, buffer, [])
  | arrival :: rest =>
    match buffer.next? with
    | .error e => (some (.error e), buffer, arrival :: rest)
    | .ok (some (payload, buffer)) => (some (.ok (some payload)), buffer, arrival :: rest)
    | .ok none =>
      match arrival with
      | .bytes [] => (some buffer.atEnd, buffer, rest)
      | .bytes chunk => attempt (buffer.extend chunk) rest
      | .fault reason => (some (.error (.io reason)), buffer, rest)
      | .notReady => (none, buffer, rest)

variable {buffer after later : FrameBuffer} {stream rest : List Arrival} {answer : Option Answer}
  {payload : Bytes} {error : StreamError}

theorem read_eq_attempt (buffer : FrameBuffer) (stream : List Arrival) :
    buffer.read stream =
      match buffer.attempt stream with
      | (some answer, after, rest) => (answer, after, rest)
      | (none, after, rest) => after.read rest := by
  fun_induction attempt buffer stream <;> simp only [read, *]

theorem next?_payload (h : buffer.next? = .ok (some (payload, after))) :
    after.limit = buffer.limit ∧ ∃ frame, Frame.encode payload = .ok frame ∧
      buffer.held = frame ++ after.held ∧ payload.length ≤ buffer.limit := by
  unfold next? at h
  split at h
  · cases h
  · cases h
  · rename_i decoded
    obtain ⟨rfl, rfl⟩ : _ = payload ∧ _ = after := by simpa using h
    exact ⟨rfl, Frame.decode?_payload decoded⟩

theorem next?_error_iff : buffer.next? = .error error ↔
    ∃ length, Frame.announced? buffer.held = some length ∧ buffer.limit < length ∧
      error = .frameTooLarge length buffer.limit := by
  rw [← Frame.decode?_error]
  unfold next?
  split <;> simp [*]

theorem rest_iff_next? : Rest buffer.limit buffer.held ↔ ∀ found, buffer.next? ≠ .ok (some found) := by
  rw [rest_iff_decode?]
  unfold next?
  split <;> simp [*]

/-- The part of `stream` before `rest` was received, and all that was held or received is either in the
answer, with its frame, or held. -/
def Takes (buffer : FrameBuffer) (stream : List Arrival) (answer : Option Answer)
    (after : FrameBuffer) (rest : List Arrival) : Prop :=
  ∃ used frames, stream = used ++ rest ∧ after.limit = buffer.limit ∧
    Written (answer.toList.filterMap Answer.payload?) frames ∧
    (∀ payload ∈ answer.toList.filterMap Answer.payload?, payload.length ≤ buffer.limit) ∧
    buffer.held ++ used.flatMap Arrival.contents = frames ++ after.held

theorem Takes.nothing (h : answer.toList.filterMap Answer.payload? = []) :
    buffer.Takes stream answer buffer stream :=
  ⟨[], [], rfl, rfl, h ▸ .nil, by simp [h], by simp⟩

theorem Takes.ofNext (h : buffer.next? = .ok (some (payload, after))) :
    buffer.Takes stream (some (.ok (some payload))) after stream := by
  obtain ⟨limit, frame, encoded, split, fits⟩ := next?_payload h
  have written : Written [payload] (frame ++ []) := .cons encoded .nil
  refine ⟨[], frame ++ [], rfl, limit, written, ?_, ?_⟩
  · simpa [Answer.payload?] using fits
  · simpa using split

theorem Takes.arrive (arrival : Arrival)
    (h : Takes (buffer.extend arrival.contents) stream answer after rest) :
    buffer.Takes (arrival :: stream) answer after rest := by
  obtain ⟨used, frames, rfl, limit, written, fits, split⟩ := h
  refine ⟨arrival :: used, frames, rfl, limit, written, fits, ?_⟩
  simpa [extend, List.append_assoc] using split

theorem extend_nil (buffer : FrameBuffer) : buffer.extend [] = buffer := by
  simp [extend]

theorem Takes.trans {between : List Arrival} (first : buffer.Takes stream none after between)
    (second : after.Takes between answer later rest) : buffer.Takes stream answer later rest := by
  obtain ⟨used, frames, rfl, limit, written, -, split⟩ := first
  obtain ⟨used', frames', rfl, limit', written', fits', split'⟩ := second
  obtain ⟨⟩ := written
  refine ⟨used ++ used', frames', (List.append_assoc ..).symm, limit'.trans limit, written',
    limit ▸ fits', ?_⟩
  rw [List.flatMap_append, ← List.append_assoc, split, List.nil_append, split']

theorem payload?_atEnd (buffer : FrameBuffer) : Answer.payload? buffer.atEnd = none := by
  unfold atEnd
  split <;> rfl

theorem takes_attempt (buffer : FrameBuffer) (stream : List Arrival) :
    buffer.Takes stream (buffer.attempt stream).1 (buffer.attempt stream).2.1
      (buffer.attempt stream).2.2 := by
  have silent (arrival : Arrival) (rest : List Arrival) (empty : arrival.contents = [])
      {answer : Option Answer} (none : answer.toList.filterMap Answer.payload? = [])
      (buffer : FrameBuffer) : buffer.Takes (arrival :: rest) answer buffer rest := by
    refine .arrive arrival ?_
    rw [empty, extend_nil]
    exact .nothing none
  fun_induction attempt buffer stream with
  | case1 => exact .nothing rfl
  | case2 _ _ _ h => exact .ofNext h
  | case3 buffer => exact .nothing (by simp [payload?_atEnd])
  | case4 => exact .nothing rfl
  | case5 _ _ _ _ _ h => exact .ofNext h
  | case6 buffer => exact silent (.bytes []) _ rfl (by simp [payload?_atEnd]) buffer
  | case7 _ _ _ chunk _ ih => exact .arrive (.bytes chunk) ih
  | case8 buffer _ _ reason => exact silent (.fault reason) _ rfl rfl buffer
  | case9 buffer => exact silent .notReady _ rfl rfl buffer

theorem attempt_unanswered (h : buffer.attempt stream = (none, after, rest)) :
    rest.length < stream.length := by
  fun_induction attempt buffer stream with
  | case7 _ _ _ _ _ ih => exact Nat.lt_succ_of_lt (ih h)
  | case9 =>
    obtain ⟨rfl, rfl⟩ : _ = after ∧ _ = rest := by simpa using h
    exact Nat.lt_succ_self _
  | _ => simp at h

theorem takes_read (buffer : FrameBuffer) (stream : List Arrival) :
    buffer.Takes stream (some (buffer.read stream).1) (buffer.read stream).2.1
      (buffer.read stream).2.2 := by
  have first := takes_attempt buffer stream
  rw [read_eq_attempt]
  split
  · rename_i found
    rwa [found] at first
  · rename_i after rest found
    rw [found] at first
    -- Without an answer the attempt ate a part of the stream, so that the rest of the read is shorter.
    have shorter : rest.length < stream.length := attempt_unanswered found
    exact first.trans (takes_read after rest)
termination_by stream.length

end FrameBuffer

open FrameBuffer (Answer)

structure Reader where
  buffer : FrameBuffer
  stream : List Arrival
  received : Bytes := []
  answers : List Answer := []

inductive Use where
  | extend (chunk : Bytes)
  | poll
  | read
  /-- A read that is given up while the stream is not ready. -/
  | attempt
deriving DecidableEq

def Use.asks : Use → Bool
  | .extend _ => false
  | _ => true

namespace Reader

def ofStream (limit : Nat) (stream : List Arrival) : Reader where
  buffer := { limit }
  stream := stream

def payloads (reader : Reader) : List Bytes := reader.answers.filterMap Answer.payload?

def answered (reader : Reader) (answer : Option Answer) (buffer : FrameBuffer)
    (rest : List Arrival) : Reader where
  buffer := buffer
  stream := rest
  received := reader.received ++
    (reader.stream.take (reader.stream.length - rest.length)).flatMap Arrival.contents
  answers := reader.answers ++ answer.toList

def use (reader : Reader) : Use → Reader
  | .extend chunk =>
    { reader with
      buffer := reader.buffer.extend chunk
      received := reader.received ++ chunk }
  | .poll =>
    match reader.buffer.next? with
    | .error e => reader.answered (some (.error e)) reader.buffer reader.stream
    | .ok none => reader.answered (some (.ok none)) reader.buffer reader.stream
    | .ok (some (payload, buffer)) => reader.answered (some (.ok (some payload))) buffer reader.stream
  | .read =>
    let (answer, buffer, rest) := reader.buffer.read reader.stream
    reader.answered (some answer) buffer rest
  | .attempt =>
    let (answer, buffer, rest) := reader.buffer.attempt reader.stream
    reader.answered answer buffer rest

def run (reader : Reader) (uses : List Use) : Reader := uses.foldl use reader

def Drained (reader : Reader) : Prop := ∀ found, reader.buffer.next? ≠ .ok (some found)

/-- All that was received is the frames of the payloads returned and what the buffer holds. -/
structure Kept (limit : Nat) (reader : Reader) : Prop where
  bound : reader.buffer.limit = limit
  split : ∃ frames, Written reader.payloads frames ∧ reader.received = frames ++ reader.buffer.held
  fits : ∀ payload ∈ reader.payloads, payload.length ≤ limit

variable {limit length : Nat} {reader : Reader} {answer : Option Answer} {buffer : FrameBuffer}
  {rest : List Arrival}

theorem kept_ofStream (limit : Nat) (stream : List Arrival) : Kept limit (ofStream limit stream) :=
  ⟨rfl, ⟨[], .nil, rfl⟩, by simp [payloads, ofStream]⟩

theorem received_answered {used : List Arrival} (split : reader.stream = used ++ rest) :
    (reader.answered answer buffer rest).received =
      reader.received ++ used.flatMap Arrival.contents := by
  simp [Reader.answered, split]

theorem takes_use {u : Use} (asks : u.asks) :
    ∃ answer after rest, reader.use u = reader.answered answer after rest ∧
      reader.buffer.Takes reader.stream answer after rest := by
  cases u with
  | extend => cases asks
  | poll =>
    rcases found : reader.buffer.next? with error | _ | ⟨payload, after⟩ <;> simp only [use, found]
    · exact ⟨_, _, _, rfl, .nothing rfl⟩
    · exact ⟨_, _, _, rfl, .nothing rfl⟩
    · exact ⟨_, _, _, rfl, .ofNext found⟩
  | read => exact ⟨_, _, _, rfl, FrameBuffer.takes_read ..⟩
  | attempt => exact ⟨_, _, _, rfl, FrameBuffer.takes_attempt ..⟩

theorem Kept.answered (kept : Kept limit reader)
    (takes : reader.buffer.Takes reader.stream answer buffer rest) :
    Kept limit (reader.answered answer buffer rest) := by
  obtain ⟨rfl, ⟨frames, written, split⟩, fits⟩ := kept
  obtain ⟨used, frames', stream, limit, written', fits', split'⟩ := takes
  have payloads : (reader.answered answer buffer rest).payloads =
      reader.payloads ++ answer.toList.filterMap Answer.payload? := List.filterMap_append ..
  refine ⟨limit, ⟨frames ++ frames', payloads ▸ written.append written', ?_⟩, ?_⟩
  · rw [received_answered stream, split, List.append_assoc, split', ← List.append_assoc]
    rfl
  · rw [payloads]
    simpa only [List.forall_mem_append] using ⟨fits, fits'⟩

theorem Kept.use (kept : Kept limit reader) (u : Use) : Kept limit (reader.use u) := by
  by_cases asks : u.asks
  · obtain ⟨answer, after, rest, used, takes⟩ := takes_use asks
    rw [used]
    exact kept.answered takes
  · cases u with
    | extend chunk =>
      obtain ⟨rfl, ⟨frames, written, split⟩, fits⟩ := kept
      refine ⟨rfl, ⟨frames, written, ?_⟩, fits⟩
      simp only [Reader.use, FrameBuffer.extend, split, List.append_assoc]
    | _ => exact absurd rfl asks

theorem Kept.run (kept : Kept limit reader) (uses : List Use) : Kept limit (reader.run uses) := by
  induction uses generalizing reader with
  | nil => exact kept
  | cons u uses ih => exact ih (kept.use u)

theorem Kept.cut (kept : Kept limit reader) (drained : reader.Drained) :
    Cut limit reader.received reader.payloads reader.buffer.held := by
  refine ⟨kept.split, kept.fits, ?_⟩
  rw [← kept.bound]
  exact FrameBuffer.rest_iff_next?.mpr drained

end Reader

end Fleetwire
