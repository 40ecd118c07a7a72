import Mathlib.Data.List.Nodup
import Fleetwire.Proofs.Catalog
import Fleetwire.Proofs.Flow.Open
import Fleetwire.Proofs.Outbound

namespace Fleetwire

open MessagePack

namespace Command

variable {command : Command} {id : MessageId} {kind : MessageKind}

def ofKind? (kind : MessageKind) : Option Command := all.find? fun command => command.kind = kind

def ask (command : Command) (id : MessageId) (value : command.request.Value) : Message :=
  .request id command.kind (command.request.encode value)

theorem kinds_nodup : (all.map Command.kind).Nodup := by decide +kernel

theorem ofKind?_eq_some : ofKind? kind = some command ↔ command ∈ all ∧ command.kind = kind := by
  constructor
  · intro found
    exact ⟨List.mem_of_find?_eq_some found, by simpa using List.find?_some found⟩
  · rintro ⟨member, rfl⟩
    obtain ⟨other, found⟩ : ∃ other, ofKind? command.kind = some other := by
      rw [← Option.isSome_iff_exists, ofKind?, List.find?_isSome]
      exact ⟨command, member, decide_eq_true rfl⟩
    have listed : other ∈ all := List.mem_of_find?_eq_some found
    have same : other.kind = command.kind := by simpa using List.find?_some found
    rw [found, List.inj_on_of_nodup_map kinds_nodup listed member same]

theorem ofCode_kind (member : command ∈ all) : MessageKind.ofCode command.kind.code = command.kind := by
  have every : ∀ command ∈ all, MessageKind.ofCode command.kind.code = command.kind := by decide +kernel
  exact every command member

end Command

namespace Message

variable {m : Message}

theorem lt_of_le_maxLength {n : Nat} (small : n ≤ Frame.maxLength) : n < lengthLimit :=
  Nat.lt_succ_of_le small

theorem fits_of_length (small : m.encode.length ≤ Frame.maxLength) :
    m.payload.length < lengthLimit ∧ TextFits m.error := by
  have fits : (Shape.record layout).Fits m.fields := Shape.fits_of_length (lt_of_le_maxLength small)
  obtain ⟨-, -, -, payload, error, -⟩ := fits
  exact ⟨payload, error⟩

theorem ofPayload?_encode (small : m.encode.length ≤ Frame.maxLength)
    (named : MessageKind.ofCode m.kind.code = m.kind) :
    ofPayload? m.encode = some m := by
  obtain ⟨payload, error⟩ := fits_of_length small
  have decoded := decode_encode_append payload error []
  rw [List.append_nil, named] at decoded
  rw [ofPayload?, decoded]
  rfl

theorem bind_encode {shape : Shape} {value : shape.Value} (proper : shape.Proper)
    (small : m.encode.length ≤ Frame.maxLength) (payload : m.payload = shape.encode value) :
    m.bind shape = .ok value := by
  have short := (fits_of_length small).1
  rw [payload] at short
  rw [bind, payload, Shape.decode_encode proper short]

theorem filterMap_ofPayload?_encode {messages : List Message}
    (small : ∀ m ∈ messages, m.encode.length ≤ Frame.maxLength)
    (named : ∀ m ∈ messages, MessageKind.ofCode m.kind.code = m.kind) :
    (messages.map encode).filterMap ofPayload? = messages := by
  rw [List.filterMap_map]
  induction messages with
  | nil => rfl
  | cons m messages ih =>
    have first : (ofPayload? ∘ encode) m = some m :=
      ofPayload?_encode (small m List.mem_cons_self) (named m List.mem_cons_self)
    rw [List.filterMap_cons, first]
    exact congrArg (m :: ·) (ih (fun m member => small m (List.mem_cons_of_mem _ member))
      fun m member => named m (List.mem_cons_of_mem _ member))

end Message

theorem Written.length_le {payloads : List Bytes} {bytes : Bytes} (written : Written payloads bytes) :
    ∀ payload ∈ payloads, payload.length ≤ Frame.maxLength := by
  induction written with
  | nil => nofun
  | cons encoded _ ih =>
    rw [List.forall_mem_cons]
    refine ⟨?_, ih⟩
    unfold Frame.encode at encoded
    split at encoded
    · cases encoded
    next small => exact Nat.not_lt.1 small

abbrev Answers := (command : Command) → MessageId → command.request.Value → command.response.Value

def Answers.reply? (answers : Answers) (message : Message) : Option Message := do
  let command ← Command.ofKind? message.kind
  let value ← (message.bind command.request).toOption
  return message.reply (command.response.encode (answers command message.id value))

def Reader.messages (reader : Reader) : List Message := reader.payloads.filterMap Message.ofPayload?

namespace Answers

variable {answers : Answers} {command : Command} {message response : Message}

theorem reply?_ask {id : MessageId} {value : command.request.Value} (member : command ∈ Command.all)
    (small : (command.ask id value).encode.length ≤ Frame.maxLength) :
    answers.reply? (command.ask id value) =
      some ((command.ask id value).reply (command.response.encode (answers command id value))) := by
  have known : Command.ofKind? (command.ask id value).kind = some command := Command.ofKind?_eq_some.2 ⟨member, rfl⟩
  have bound : (command.ask id value).bind command.request = .ok value :=
    Message.bind_encode (Command.proper member).1 small rfl
  simp only [reply?, known, Option.bind_eq_bind, Option.bind_some, bound]
  rfl

theorem reply?_same (replies : answers.reply? message = some response) :
    response.id = message.id ∧ MessageKind.ofCode response.kind.code = response.kind := by
  obtain ⟨command, known, replies⟩ := Option.bind_eq_some_iff.1 replies
  obtain ⟨value, -, replies⟩ := Option.bind_eq_some_iff.1 replies
  obtain ⟨member, kind⟩ := Command.ofKind?_eq_some.1 known
  cases replies
  refine ⟨rfl, ?_⟩
  show MessageKind.ofCode message.kind.code = message.kind
  rw [← kind, Command.ofCode_kind member]

end Answers

/-- The peer of the connection has answered the messages `asked`, of those that it has read so far, and the responses
to them are under way. -/
structure Answering (answers : Answers) (x : Connection) (reader : Reader) (asked : List Message) : Prop where
  reads : ∃ stream uses, reader = (Reader.ofStream x.settings.maxFrameSize stream).run uses
  received : reader.received <+: x.socket.outgoing.sent.take x.socket.outgoing.readCount
  heard : asked.Subperm reader.messages
  fits : ∀ response ∈ asked.filterMap answers.reply?, response.encode.length ≤ x.settings.maxFrameSize
  writes : ∃ frames, Written ((asked.filterMap answers.reply?).map Message.encode) frames ∧
    x.socket.incoming.sent <+: frames

/-- The peer has read all that was written to it, and has written the responses to all of it. -/
structure Answered (answers : Answers) (x : Connection) (reader : Reader) (asked : List Message) : Prop
    extends Answering answers x reader asked where
  all : reader.received = x.socket.outgoing.sent ∧ reader.Drained
  every : asked.Perm reader.messages
  written : Written ((asked.filterMap answers.reply?).map Message.encode) x.socket.incoming.sent

namespace Answering

variable {answers : Answers} {x : Connection} {reader : Reader} {asked : List Message}

theorem kept (answering : Answering answers x reader asked) : reader.Kept x.settings.maxFrameSize := by
  obtain ⟨stream, uses, rfl⟩ := answering.reads
  exact (Reader.kept_ofStream _ stream).run uses

theorem named : ∀ response ∈ asked.filterMap answers.reply?, MessageKind.ofCode response.kind.code = response.kind := by
  intro response member
  obtain ⟨message, -, replies⟩ := List.mem_filterMap.1 member
  exact (Answers.reply?_same replies).2

theorem small (answering : Answering answers x reader asked) :
    ∀ response ∈ asked.filterMap answers.reply?, response.encode.length ≤ Frame.maxLength := by
  obtain ⟨frames, written, -⟩ := answering.writes
  exact fun response member => written.length_le _ (List.mem_map_of_mem member)

theorem ids_nodup (answering : Answering answers x reader asked) (distinct : (reader.messages.map Message.id).Nodup) :
    ((asked.filterMap answers.reply?).map Message.id).Nodup := by
  have sublist : ∀ asked : List Message,
      ((asked.filterMap answers.reply?).map Message.id).Sublist (asked.map Message.id) := by
    intro asked
    induction asked with
    | nil => exact .slnil
    | cons message asked ih =>
      rw [List.filterMap_cons]
      cases replies : answers.reply? message with
      | none => exact ih.cons _
      | some response =>
        rw [List.map_cons, List.map_cons, (Answers.reply?_same replies).1]
        exact ih.cons_cons _
  obtain ⟨gotten, perm, among⟩ := answering.heard
  exact (sublist asked).nodup ((perm.map Message.id).nodup_iff.1 ((among.map Message.id).nodup distinct))

theorem mem_messages (answering : Answering answers x reader asked) {message : Message} (member : message ∈ asked) :
    message ∈ reader.messages := by
  obtain ⟨gotten, perm, among⟩ := answering.heard
  exact among.subset (perm.mem_iff.2 member)

theorem routed (answering : Answering answers x reader asked) {sent : List Message} (sound : x.lane.Sound sent) :
    x.routed <+: asked.filterMap answers.reply? := by
  obtain ⟨payloads, ⟨first, got, split⟩, fits, messages⟩ := sound.receives
  obtain ⟨frames, written, more, whole⟩ := answering.writes
  -- The frames of all the responses begin with those that were taken apart.
  have came : x.socket.incoming.sent.take x.socket.incoming.readCount = first ++ x.inbox.held := split
  have stream : frames = first ++ (x.inbox.held ++ (x.socket.incoming.waiting ++ more)) := by
    rw [← whole, ← List.append_assoc, ← came, ← List.append_assoc, Pipe.waiting, List.take_append_drop]
  have cut : Cut x.settings.maxFrameSize frames ((asked.filterMap answers.reply?).map Message.encode) [] := by
    refine ⟨⟨frames, written, (List.append_nil _).symm⟩, ?_, .short (by decide)⟩
    rw [List.forall_mem_map]
    exact answering.fits
  rw [stream] at cut
  obtain ⟨others, all, -⟩ := cut.behind got fits
  have routes : x.routed = payloads.filterMap Message.ofPayload? := messages
  have responses := Message.filterMap_ofPayload?_encode answering.small named
  rw [all, List.filterMap_append, ← routes] at responses
  exact ⟨_, responses⟩

end Answering

theorem Answered.routed {answers : Answers} {x : Connection} {reader : Reader} {asked : List Message}
    (answered : Answered answers x reader asked) {sent : List Message} (sound : x.lane.Sound sent)
    (nothing : x.socket.incoming.waiting = []) (found : x.inbox.next? = .ok none) :
    x.routed = asked.filterMap answers.reply? := by
  obtain ⟨payloads, ⟨first, got, split⟩, fits, messages⟩ := sound.receives
  have came : x.socket.incoming.sent.take x.socket.incoming.readCount = first ++ x.inbox.held := split
  have stream : x.socket.incoming.sent = first ++ x.inbox.held := by
    rw [← came, List.take_of_length_le (List.drop_eq_nil_iff.1 nothing)]
  have rest : Rest x.settings.maxFrameSize x.inbox.held := by
    have bound : x.inbox.limit = x.settings.maxFrameSize := sound.bound
    rw [← bound, FrameBuffer.rest_iff_next?]
    intro payload
    rw [found]
    simp
  have cut : Cut x.settings.maxFrameSize x.socket.incoming.sent payloads x.inbox.held :=
    ⟨⟨first, got, stream⟩, fits, rest⟩
  have whole : Cut x.settings.maxFrameSize x.socket.incoming.sent
      ((asked.filterMap answers.reply?).map Message.encode) [] := by
    refine ⟨⟨_, answered.written, (List.append_nil _).symm⟩, ?_, .short (by decide)⟩
    rw [List.forall_mem_map]
    exact answered.fits
  have routes : x.routed = payloads.filterMap Message.ofPayload? := messages
  rw [routes, (cut.unique whole).1, Message.filterMap_ofPayload?_encode answered.small Answering.named]

namespace System

variable {s : System} {past : List System} {c : ConnectionId} {x : Connection} {reader : Reader}

/-- Whoever reads what was written has read the first of the messages that were sent; and all of them, if he has read
all and nothing is still to be written. -/
theorem Streaming.messages (run : Streaming (s :: past)) (here : s.connections[c]? = some x) (isOpen : x.outbox.isOpen)
    (named : ∀ m ∈ sends c (s :: past), MessageKind.ofCode m.kind.code = m.kind)
    (kept : reader.Kept x.settings.maxFrameSize) (read : reader.received <+: x.socket.outgoing.sent) :
    reader.messages <+: sends c (s :: past) ∧ reader.payloads = reader.messages.map Message.encode ∧
      (∀ m ∈ reader.messages, m.encode.length ≤ Frame.maxLength) ∧
      (reader.received = x.socket.outgoing.sent → reader.Drained → x.writing = [] → x.outbox.waiting = [] →
        reader.messages = sends c (s :: past)) := by
  have sound := (run.sound c).lane _ (lane_of_connection here)
  obtain ⟨count, part, writes⟩ := (run.kept c).writes _ (lane_of_connection here) isOpen
  have accepted : x.outbox.accepted = (sends c (s :: past)).map Message.encode := sound.accepted
  have frames : FramesOf x.outbox.accepted count x.socket.outgoing.sent := writes.framesOf
  obtain ⟨some, all⟩ := frames.peer sound.fits kept read
  have taken : x.outbox.accepted.take count = ((sends c (s :: past)).take count).map Message.encode := by
    rw [accepted, List.map_take]
  rw [taken] at some all
  obtain ⟨⟨whole, written, -⟩, rest⟩ := writes
  have small : ∀ m ∈ (sends c (s :: past)).take count, m.encode.length ≤ Frame.maxLength := by
    intro m member
    refine written.length_le _ ?_
    show m.encode ∈ x.outbox.accepted.take count
    rw [taken]
    exact List.mem_map_of_mem member
  have decoded {messages : List Message} (among : messages <+: (sends c (s :: past)).take count) :
      (messages.map Message.encode).filterMap Message.ofPayload? = messages :=
    Message.filterMap_ofPayload?_encode (fun m member => small m (among.subset member))
      fun m member => named m (List.mem_of_mem_take (among.subset member))
  obtain ⟨gotten, among, payloads⟩ := List.prefix_map_iff.1 some
  have messages : reader.messages = gotten := by rw [Reader.messages, payloads, decoded among]
  rw [messages]
  refine ⟨among.trans (List.take_prefix ..), payloads, fun m member => small m (among.subset member), ?_⟩
  intro same drained idle empty
  have complete : gotten = (sends c (s :: past)).take count := by
    rw [← messages, Reader.messages, all same drained, decoded List.prefix_rfl]
  rw [complete]
  refine List.take_of_length_le ?_
  have length : (sends c (s :: past)).length = x.outbox.accepted.length := by rw [accepted, List.length_map]
  have done : x.outbox.accepted.length ≤ x.outbox.takenCount := List.drop_eq_nil_iff.1 empty
  rcases rest with ⟨-, -, same⟩ | ⟨_, -, -, more, -⟩
  · rw [length, same]
    exact done
  · exact absurd idle more

end System

end Fleetwire
