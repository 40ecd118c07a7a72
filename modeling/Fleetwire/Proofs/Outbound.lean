import Fleetwire.Proofs.Flow.Simulation

namespace Fleetwire

/-- The bytes are the frames of the first `count` envelopes, followed at most by a part of the next one's
frame. -/
def FramesOf (envelopes : List Bytes) (count : Nat) (bytes : Bytes) : Prop :=
  ∃ frames part, Written (envelopes.take count) frames ∧ bytes = frames ++ part ∧
    (part = [] ∨ ∃ envelope frame, envelopes[count]? = some envelope ∧ Frame.encode envelope = .ok frame ∧
      part <+: frame ∧ part ≠ frame)

theorem maxFrameSize_of_validate {settings : Settings} (valid : settings.validate = .ok ()) :
    settings.maxFrameSize ≤ Frame.maxLength := by
  unfold Settings.validate at valid
  split at valid
  · cases valid
  · split at valid
    · cases valid
    next fits => exact Nat.not_lt.1 fits

theorem Lane.Writes.framesOf {x : Lane} {count : Nat} {part : Bytes} (writes : x.Writes count part) :
    FramesOf x.accepted count x.went := by
  obtain ⟨⟨frames, written, split⟩, rest⟩ := writes
  refine ⟨frames, part, written, split, ?_⟩
  rcases rest with ⟨none, -, -⟩ | ⟨envelope, found, encoded, more, -⟩
  · exact .inl none
  · refine .inr ⟨envelope, _, found, encoded, List.prefix_append .., fun whole => more ?_⟩
    exact List.append_right_eq_self.1 whole.symm

theorem rest_of_part {limit : Nat} {envelope frame part : Bytes} (encoded : Frame.encode envelope = .ok frame)
    (fits : envelope.length ≤ limit) (begins : part <+: frame) (partial' : part ≠ frame) :
    Rest limit part := by
  obtain ⟨more, rfl⟩ := begins
  rw [rest_iff_decode?]
  rintro ⟨payload, rest⟩ decoded
  obtain ⟨frame', encoded', rfl, fits'⟩ := Frame.decode?_payload decoded
  have whole := Frame.decode?_encode encoded' fits' (rest ++ more)
  have same := Frame.decode?_encode encoded fits []
  rw [List.append_nil, List.append_assoc, whole] at same
  obtain ⟨-, nothing⟩ : payload = envelope ∧ rest ++ more = [] := by simpa using same
  obtain ⟨rfl, rfl⟩ := List.append_eq_nil_iff.1 nothing
  exact partial' (by simp)

variable {limit count : Nat} {envelopes : List Bytes} {bytes : Bytes}

theorem FramesOf.cut (frames : FramesOf envelopes count bytes)
    (fits : ∀ envelope ∈ envelopes, envelope.length ≤ limit) :
    ∃ rest, Cut limit bytes (envelopes.take count) rest := by
  obtain ⟨whole, part, written, split, next⟩ := frames
  refine ⟨part, ⟨whole, written, split⟩, fun envelope member => fits envelope (List.mem_of_mem_take member), ?_⟩
  rcases next with rfl | ⟨envelope, frame, found, encoded, begins, incomplete⟩
  · exact .short (by decide)
  · exact rest_of_part encoded (fits envelope (List.mem_of_getElem? found)) begins incomplete

theorem FramesOf.peer (frames : FramesOf envelopes count bytes)
    (fits : ∀ envelope ∈ envelopes, envelope.length ≤ limit) {peer : Reader} (kept : peer.Kept limit)
    (read : peer.received <+: bytes) :
    peer.payloads <+: envelopes.take count ∧
      (peer.received = bytes → peer.Drained → peer.payloads = envelopes.take count) := by
  obtain ⟨rest, cut⟩ := frames.cut fits
  constructor
  · obtain ⟨more, rfl⟩ := read
    obtain ⟨first, got, received⟩ := kept.split
    rw [received, List.append_assoc] at cut
    obtain ⟨others, all, -⟩ := cut.behind got kept.fits
    rw [all]
    exact List.prefix_append ..
  · intro all drained
    have own := kept.cut drained
    rw [all] at own
    exact (own.unique cut).1

namespace System

variable {s : System} {past : List System} {c : ConnectionId} {x : Connection}

theorem Streaming.closed (run : Streaming (s :: past)) {former : System} (earlier : former ∈ s :: past)
    {x₀ : Connection} (was : former.connections[c]? = some x₀) (closed : x₀.outbox.isOpen = false) :
    ∃ lane, (s.flow c).lane = some lane ∧ lane.isOpen = false ∧ lane.went = x₀.socket.outgoing.sent := by
  induction past generalizing s with
  | nil =>
    rw [List.mem_singleton.1 earlier] at was
    exact ⟨_, lane_of_connection was, closed, rfl⟩
  | cons before past ih =>
    rcases List.mem_cons.1 earlier with rfl | earlier
    · exact ⟨_, lane_of_connection was, closed, rfl⟩
    · obtain ⟨lane, here, shut, same⟩ := ih run.earlier earlier
      obtain ⟨posted, move, -⟩ := run.flows.move c
      obtain ⟨lane', there, shut', same'⟩ := move.closed (run.earlier.sound c) here shut
      exact ⟨lane', there, shut', same'.trans same⟩

/-- In every state of a run: the queue of a connection has accepted the envelopes of the sends that have
returned with success, each once and in this order, and an action of a task that does not bring a send to
such an end enqueues nothing; the queue holds no more than it has room for; with valid settings the bytes
written are frames of the first envelopes and at most a part of the next frame, from which the peer gets
these envelopes; and without a writer nothing is written any more. -/
theorem outbound_stream (run : Streaming (s :: past)) (here : s.connections[c]? = some x) :
    x.outbox.accepted = (sends c (s :: past)).map Message.encode ∧
    (∀ before older x₀ (t : TaskId) task task', past = before :: older →
      before.connections[c]? = some x₀ → before.tasks[t]? = some task → s.tasks[t]? = some task' →
      task' ≠ task →
        x.outbox.accepted = x₀.outbox.accepted ++ ((Task.sent? c task task').map Message.encode).toList) ∧
    x.outbox.waiting.length ≤ max 1 x.settings.outboundQueueCapacity ∧
    (x.settings.validate = .ok () → ∃ count,
      FramesOf x.outbox.accepted count x.socket.outgoing.sent ∧
      ∀ stream uses peer, peer = (Reader.ofStream x.settings.maxFrameSize stream).run uses →
        peer.received <+: x.socket.outgoing.sent →
          peer.payloads <+: x.outbox.accepted ∧
          (peer.received = x.socket.outgoing.sent → peer.Drained →
            peer.payloads = x.outbox.accepted.take count)) ∧
    ∀ former ∈ s :: past, ∀ x₀, former.connections[c]? = some x₀ → x₀.outbox.isOpen = false →
      x.socket.outgoing.sent = x₀.socket.outgoing.sent := by
  have flow := run.sound c
  have sound := flow.lane _ (lane_of_connection here)
  refine ⟨sound.accepted, ?_, ?_, fun valid => ?_, ?_⟩
  · rintro before older x₀ t task task' rfl was acted acts other
    have earlier := (run.earlier.sound c).lane _ (lane_of_connection was)
    obtain ⟨u, actor⟩ := run.flows.actor
    obtain rfl : u = t := by
      by_contra different
      exact other (Option.some.inj (acts.symm.trans (actor t (Ne.symm different) task acted)))
    have sent := sentBetween_of_actor (c := c) actor acted acts
    calc x.outbox.accepted = (sends c (before :: older) ++ sentBetween c before s).map Message.encode :=
          sound.accepted
      _ = (sends c (before :: older)).map Message.encode ++
          (Task.sent? c task task').toList.map Message.encode := by rw [List.map_append, sent]
      _ = x₀.outbox.accepted ++ ((Task.sent? c task task').map Message.encode).toList := by
          rw [← earlier.accepted]
          cases Task.sent? c task task' <;> rfl
  · have room := sound.room
    rw [sound.capacity, Nat.max_comm] at room
    rw [Outbox.waiting, List.length_drop]
    exact room
  · obtain ⟨count, part, writes⟩ := sound.writes (maxFrameSize_of_validate valid)
    have frames : FramesOf x.outbox.accepted count x.socket.outgoing.sent := writes.framesOf
    refine ⟨count, frames, fun stream uses peer reads read => ?_⟩
    have kept : peer.Kept x.settings.maxFrameSize := reads ▸ (Reader.kept_ofStream _ stream).run uses
    obtain ⟨some, all⟩ := frames.peer sound.fits kept read
    exact ⟨some.trans (List.take_prefix ..), all⟩
  · intro former earlier x₀ was closed
    obtain ⟨lane, there, -, same⟩ := run.closed earlier was closed
    obtain rfl := Option.some.inj ((lane_of_connection here).symm.trans there)
    exact same

def notice (n : Nat) : Message := .request (.fresh n) .heartbeat Message.emptyPayload

def overtakenSend : List Choice :=
  admission 0 (.v4 10 0 0 1 4000) .evict "host" ++
    [.react (.operate 0 (.sending (notice 7) .check)), .react (.operate 0 (.sending (notice 8) .check))] ++
    .replicate 2 (.act 2 0) ++ .replicate 3 (.act 3 0) ++ [.react (.abort 2), .act 1 0]

def narrow (room : Nat) (socket : Socket) : Socket :=
  { socket with outgoing := { socket.outgoing with capacity := socket.outgoing.waiting.length + room } }

theorem sameBytes_narrow (room : Nat) (socket : Socket) : socket.SameBytes (narrow room socket) :=
  ⟨rfl, rfl, rfl⟩

def jam (socket : Socket) : Socket := { socket with writeLimit := some 0 }

theorem sameBytes_jam (socket : Socket) : socket.SameBytes (jam socket) := ⟨rfl, rfl, rfl⟩

def cutFrame : System × List System :=
  resume (resume (replay {} [] overtakenSend) 0 (narrow 3) [.act 1 0]) 0 jam [.act 1 0]

theorem streaming_cutFrame : Streaming (cutFrame.1 :: cutFrame.2) := by
  have start : Streaming [{}] := .start initial_empty fun _ member => nomatch member
  have sent := streaming_replay start overtakenSend (by decide +kernel)
  have cut := streaming_resume sent 0 (sameBytes_narrow 3) [.act 1 0] rfl
  exact streaming_resume cut 0 sameBytes_jam [.act 1 0] rfl

theorem outbound_stream_of_cut_frame :
    let s := cutFrame.1
    let past := cutFrame.2
    ∃ x, s.connections[0]? = some x ∧ x.outbox.isOpen = false ∧ x.socket.outgoing.sent.length = 68 ∧
      sends 0 (s :: past) = [.request (.fresh 0) .agentInfo Message.emptyPayload, notice 8] ∧
      x.outbox.accepted = (sends 0 (s :: past)).map Message.encode ∧ x.outbox.waiting.length ≤ 50 ∧
      ∃ count, FramesOf x.outbox.accepted count x.socket.outgoing.sent := by
  have state : (cutFrame.1.connections[0]?).any fun x => x.outbox.isOpen = false &&
      x.socket.outgoing.sent.length = 68 && x.settings.outboundQueueCapacity = 50 &&
      x.settings.validate = .ok () := by decide +kernel
  obtain ⟨x, here, facts⟩ := (Option.any_eq_true _ _).1 state
  simp only [Bool.and_eq_true, decide_eq_true_eq] at facts
  obtain ⟨⟨⟨closed, length⟩, capacity⟩, valid⟩ := facts
  obtain ⟨accepted, -, room, framed, -⟩ := outbound_stream streaming_cutFrame here
  obtain ⟨count, frames, -⟩ := framed valid
  rw [capacity] at room
  exact ⟨x, here, closed, length, by decide +kernel, accepted, room, count, frames⟩

end System

end Fleetwire
