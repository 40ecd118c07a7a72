import Fleetwire.Proofs.Framing.Reader

namespace Fleetwire

open FrameBuffer (Answer)

def Use.reads : Use → Bool
  | .read => true
  | .attempt => true
  | _ => false

theorem Use.asks_of_reads : ∀ {u : Use}, u.reads → u.asks
  | .read, _ => rfl
  | .attempt, _ => rfl

def Frame.Missing (limit : Nat) (bytes : Bytes) : Prop :=
  bytes.length < lengthSize ∨
    ∃ length, announced? bytes = some length ∧ length ≤ limit ∧
      (bytes.drop lengthSize).length < length

theorem Frame.Missing.within {limit length : Nat} {bytes : Bytes} (missing : Missing limit bytes)
    (announced : announced? bytes = some length) : length ≤ limit := by
  obtain short | ⟨_, same, fits, -⟩ := missing
  · simp [announced?, short] at announced
  · obtain rfl : _ = length := by simpa [announced] using same.symm
    exact fits

def FrameBuffer.Answer.ofEnd (held : Bytes) : Answer :=
  if held = [] then .ok none else .error (.truncatedFrame held.length)

namespace Reader

def receiving (reader : Reader) (chunk : Bytes) (later : List Arrival) : Reader :=
  { reader with
    buffer := { reader.buffer with held := reader.buffer.held ++ chunk }
    stream := later
    received := reader.received ++ chunk }

def answering (reader : Reader) (answer : Answer) (held : Bytes) : Reader :=
  { reader with
    buffer := { reader.buffer with held }
    answers := reader.answers ++ [answer] }

/-- What each use does, by the bytes held and by what the stream brings next. The stream is touched
only where bytes are missing, and its end is told only there. -/
structure Lawful (reader : Reader) : Prop where
  extend (chunk : Bytes) : reader.use (.extend chunk) = reader.receiving chunk reader.stream
  complete {u : Use} {payload frame rest : Bytes} (asks : u.asks)
    (encoded : Frame.encode payload = .ok frame) (fits : payload.length ≤ reader.buffer.limit)
    (held : reader.buffer.held = frame ++ rest) :
    reader.use u = reader.answering (.ok (some payload)) rest
  oversize {u : Use} {length : Nat} (asks : u.asks)
    (announced : Frame.announced? reader.buffer.held = some length)
    (excess : reader.buffer.limit < length) :
    reader.use u =
      reader.answering (.error (.frameTooLarge length reader.buffer.limit)) reader.buffer.held
  polled (missing : Frame.Missing reader.buffer.limit reader.buffer.held) :
    reader.use .poll = reader.answering (.ok none) reader.buffer.held
  arrived {u : Use} {chunk : Bytes} {later : List Arrival} (reads : u.reads)
    (missing : Frame.Missing reader.buffer.limit reader.buffer.held)
    (next : reader.stream = .bytes chunk :: later) (nonempty : chunk ≠ []) :
    reader.use u = (reader.receiving chunk later).use u
  failed {u : Use} {reason : String} {later : List Arrival} (reads : u.reads)
    (missing : Frame.Missing reader.buffer.limit reader.buffer.held)
    (next : reader.stream = .fault reason :: later) :
    reader.use u =
      { reader with stream := later }.answering (.error (.io reason)) reader.buffer.held
  waited {later : List Arrival} (missing : Frame.Missing reader.buffer.limit reader.buffer.held)
    (next : reader.stream = .notReady :: later) :
    reader.use .read = { reader with stream := later }.use .read
  gaveUp {later : List Arrival} (missing : Frame.Missing reader.buffer.limit reader.buffer.held)
    (next : reader.stream = .notReady :: later) :
    reader.use .attempt = { reader with stream := later }
  ended {u : Use} {later : List Arrival} (reads : u.reads)
    (missing : Frame.Missing reader.buffer.limit reader.buffer.held)
    (stop : reader.stream = [] ∧ later = [] ∨ reader.stream = .bytes [] :: later) :
    reader.use u =
      { reader with stream := later }.answering (.ofEnd reader.buffer.held) reader.buffer.held

variable {reader : Reader} {answer : Answer} {arrival : Arrival} {later : List Arrival}

theorem receiving_nil (reader : Reader) (later : List Arrival) :
    reader.receiving [] later = { reader with stream := later } := by
  simp [receiving]

theorem answered_untouched {buffer : FrameBuffer} (limit : buffer.limit = reader.buffer.limit) :
    reader.answered (some answer) buffer reader.stream = reader.answering answer buffer.held := by
  simp [answered, answering, ← limit]

theorem answered_behind (next : reader.stream = arrival :: later) {answer : Option Answer}
    {buffer : FrameBuffer} {rest used : List Arrival} (split : later = used ++ rest) :
    reader.answered answer buffer rest =
      (reader.receiving arrival.contents later).answered answer buffer rest := by
  have whole : reader.stream = (arrival :: used) ++ rest := next.trans (congrArg _ split)
  have received : (reader.answered answer buffer rest).received =
      ((reader.receiving arrival.contents later).answered answer buffer rest).received := by
    rw [received_answered whole, received_answered split, receiving, List.flatMap_cons,
      List.append_assoc]
  simp only [answered] at received ⊢
  rw [received, receiving]

end Reader

namespace FrameBuffer

variable {buffer : FrameBuffer} {stream rest : List Arrival} {payload frame : Bytes}

theorem next?_none_iff : buffer.next? = .ok none ↔ Frame.Missing buffer.limit buffer.held := by
  rw [Frame.Missing, ← Frame.decode?_none]
  unfold next?
  split <;> simp [*]

theorem next?_of_encode (encoded : Frame.encode payload = .ok frame)
    (fits : payload.length ≤ buffer.limit) {more : Bytes} (held : buffer.held = frame ++ more) :
    buffer.next? = .ok (some (payload, { buffer with held := more })) := by
  simp only [next?, held, Frame.decode?_encode encoded fits more]

theorem read_of_error {error : StreamError} (h : buffer.next? = .error error) (stream : List Arrival) :
    buffer.read stream = (.error error, buffer, stream) := by
  cases stream <;> simp [read, h]

theorem attempt_of_error {error : StreamError} (h : buffer.next? = .error error)
    (stream : List Arrival) : buffer.attempt stream = (some (.error error), buffer, stream) := by
  cases stream <;> simp [attempt, h]

theorem read_of_payload {after : FrameBuffer} (h : buffer.next? = .ok (some (payload, after)))
    (stream : List Arrival) : buffer.read stream = (.ok (some payload), after, stream) := by
  cases stream <;> simp [read, h]

theorem attempt_of_payload {after : FrameBuffer} (h : buffer.next? = .ok (some (payload, after)))
    (stream : List Arrival) :
    buffer.attempt stream = (some (.ok (some payload)), after, stream) := by
  cases stream <;> simp [attempt, h]

theorem atEnd_eq (buffer : FrameBuffer) : buffer.atEnd = Answer.ofEnd buffer.held := by
  simp [atEnd, Answer.ofEnd, List.isEmpty_iff]

end FrameBuffer

namespace Reader

variable {reader : Reader} {u : Use} {answer : Answer} {later : List Arrival} {payload : Bytes}

theorem use_of_payload (asks : u.asks) {after : FrameBuffer}
    (found : reader.buffer.next? = .ok (some (payload, after))) :
    reader.use u = reader.answering (.ok (some payload)) after.held := by
  obtain ⟨limit, -⟩ := FrameBuffer.next?_payload found
  rw [← answered_untouched limit]
  cases u with
  | extend => cases asks
  | poll => simp only [use, found]
  | read => simp only [use, FrameBuffer.read_of_payload found]
  | attempt => simp only [use, FrameBuffer.attempt_of_payload found]

theorem use_of_error (asks : u.asks) {error : StreamError}
    (found : reader.buffer.next? = .error error) :
    reader.use u = reader.answering (.error error) reader.buffer.held := by
  rw [← answered_untouched rfl]
  cases u with
  | extend => cases asks
  | poll => simp only [use, found]
  | read => simp only [use, FrameBuffer.read_of_error found]
  | attempt => simp only [use, FrameBuffer.attempt_of_error found]

theorem use_of_chunk (reads : u.reads) (missing : reader.buffer.next? = .ok none) {chunk : Bytes}
    (next : reader.stream = .bytes chunk :: later) (nonempty : chunk ≠ []) :
    reader.use u = (reader.receiving chunk later).use u := by
  cases u with
  | extend => cases reads
  | poll => cases reads
  | read =>
    have read : reader.buffer.read reader.stream = (reader.buffer.extend chunk).read later := by
      simp [next, FrameBuffer.read, missing]
    obtain ⟨used, -, split, -⟩ := FrameBuffer.takes_read (reader.buffer.extend chunk) later
    simp only [use, read]
    exact answered_behind next split
  | attempt =>
    have attempt : reader.buffer.attempt reader.stream =
        (reader.buffer.extend chunk).attempt later := by
      simp [next, FrameBuffer.attempt, missing]
    obtain ⟨used, -, split, -⟩ := FrameBuffer.takes_attempt (reader.buffer.extend chunk) later
    simp only [use, attempt]
    exact answered_behind next split

theorem use_of_answer (reads : u.reads)
    (next : reader.stream = later ∨ ∃ arrival, reader.stream = arrival :: later ∧ arrival.contents = [])
    (read : reader.buffer.read reader.stream = (answer, reader.buffer, later))
    (attempt : reader.buffer.attempt reader.stream = (some answer, reader.buffer, later)) :
    reader.use u = { reader with stream := later }.answering answer reader.buffer.held := by
  have answered : reader.answered (some answer) reader.buffer later =
      { reader with stream := later }.answering answer reader.buffer.held := by
    obtain rfl | ⟨arrival, next, nothing⟩ := next
    · exact answered_untouched rfl
    · rw [answered_behind next (List.nil_append _).symm, nothing, receiving_nil]
      exact answered_untouched rfl
  cases u with
  | extend => cases reads
  | poll => cases reads
  | read => simpa only [use, read] using answered
  | attempt => simpa only [use, attempt] using answered

theorem lawful (reader : Reader) : reader.Lawful where
  extend _ := rfl
  complete asks encoded fits held := use_of_payload asks (FrameBuffer.next?_of_encode encoded fits held)
  oversize asks announced excess :=
    use_of_error asks (FrameBuffer.next?_error_iff.mpr ⟨_, announced, excess, rfl⟩)
  polled missing := by
    rw [← answered_untouched rfl]
    simp only [use, FrameBuffer.next?_none_iff.mpr missing]
  arrived reads missing := use_of_chunk reads (FrameBuffer.next?_none_iff.mpr missing)
  failed {u reason later} reads missing next := by
    have missing := FrameBuffer.next?_none_iff.mpr missing
    apply use_of_answer reads (.inr ⟨_, next, rfl⟩) <;>
      simp [next, FrameBuffer.read, FrameBuffer.attempt, missing]
  waited {later} missing next := by
    have missing := FrameBuffer.next?_none_iff.mpr missing
    have read : reader.buffer.read reader.stream = reader.buffer.read later := by
      simp [next, FrameBuffer.read, missing]
    obtain ⟨used, -, split, -⟩ := FrameBuffer.takes_read reader.buffer later
    simp only [use, read]
    rw [answered_behind next split, Arrival.contents, receiving_nil]
  gaveUp {later} missing next := by
    have missing := FrameBuffer.next?_none_iff.mpr missing
    have attempt : reader.buffer.attempt reader.stream = (none, reader.buffer, later) := by
      simp [next, FrameBuffer.attempt, missing]
    simp only [use, attempt]
    rw [answered_behind next (List.nil_append _).symm, Arrival.contents, receiving_nil]
    simp [answered]
  ended {u later} reads missing stop := by
    have missing := FrameBuffer.next?_none_iff.mpr missing
    rw [← FrameBuffer.atEnd_eq]
    obtain ⟨next, rfl⟩ | next := stop
    · apply use_of_answer reads (.inl next) <;>
        simp [next, FrameBuffer.read, FrameBuffer.attempt, missing]
    · apply use_of_answer reads (.inr ⟨_, next, rfl⟩) <;>
        simp [next, FrameBuffer.read, FrameBuffer.attempt, missing]

theorem held_cases (reader : Reader) :
    (∃ payload frame rest, Frame.encode payload = .ok frame ∧
      payload.length ≤ reader.buffer.limit ∧ reader.buffer.held = frame ++ rest) ∨
    (∃ length, Frame.announced? reader.buffer.held = some length ∧ reader.buffer.limit < length) ∨
    Frame.Missing reader.buffer.limit reader.buffer.held := by
  rcases found : reader.buffer.next? with error | _ | ⟨payload, after⟩
  · obtain ⟨length, announced, excess, -⟩ := FrameBuffer.next?_error_iff.mp found
    exact .inr (.inl ⟨length, announced, excess⟩)
  · exact .inr (.inr (FrameBuffer.next?_none_iff.mp found))
  · obtain ⟨-, frame, encoded, held, fits⟩ := FrameBuffer.next?_payload found
    exact .inl ⟨payload, frame, _, encoded, fits, held⟩

end Reader

end Fleetwire
