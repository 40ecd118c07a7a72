import Mathlib.Data.List.Perm.Subperm
import Fleetwire.Proofs.Dialogue.Rest
import Fleetwire.Proofs.Replay

namespace Fleetwire

open MessagePack

namespace System

variable {s s' : System} {past : List System} {c : ConnectionId} {t u : TaskId} {x : Connection} {call : Call}
  {answers : Answers} {command : Command} {value : command.request.Value} {request request' : Message}

theorem Dialogue.named (h : Dialogue answers c s past) {former : System} (member : former ∈ s :: past) :
    (former.traffic c).Named :=
  ((h.run.course c).named h.distinct _ (List.mem_map_of_mem member)).1

theorem Asks.requested {state : System} (asks : state.Asks c t command value request) (member : state ∈ s :: past) :
    Traffic.Requested ((s :: past).map (traffic c)) t request := by
  obtain ⟨call, calls, -, -, named⟩ := asks
  exact ⟨_, List.mem_map_of_mem member, call, call?_eq_some.1 calls, named⟩

theorem Dialogue.asks (h : Dialogue answers c s past) {state : System} (member : state ∈ s :: past)
    (asks : state.Asks c t command value request) : request.kind = command.kind ∧
      request.payload = command.request.encode value := by
  obtain ⟨call, calls, kind, payload, named⟩ := asks
  obtain ⟨k, -, numbered⟩ := (h.named member).request t call request (call?_eq_some.1 calls) named
  exact ⟨(congrArg Message.kind numbered).trans kind, (congrArg Message.payload numbered).trans payload⟩

theorem Dialogue.asked (h : Dialogue answers c s past) (member : request ∈ sends c (s :: past)) :
    ∃ state ∈ s :: past, ∃ t, ∃ command ∈ Command.all, ∃ value, state.Asks c t command value request := by
  obtain ⟨command, listed, value, same⟩ := h.sound.1.typed request member
  obtain ⟨t, l, among, call, calls, named⟩ := h.sound.1.requested request member
  obtain ⟨state, earlier, rfl⟩ := List.mem_map.1 among
  obtain ⟨k, -, numbered⟩ := (h.named earlier).request t call request calls named
  refine ⟨state, earlier, t, command, listed, value, call, call?_eq_some.2 calls, ?_, ?_, named⟩
  · exact (congrArg Message.kind numbered).symm.trans (congrArg Message.kind same)
  · exact (congrArg Message.payload numbered).symm.trans (congrArg Message.payload same)

theorem Dialogue.reads (h : Dialogue answers c s past) (here : s.connections[c]? = some x) {reader : Reader}
    (kept : reader.Kept x.settings.maxFrameSize) (read : reader.received <+: x.socket.outgoing.sent) :
    reader.payloads = reader.messages.map Message.encode ∧ (reader.messages.map Message.id).Nodup ∧
      ∀ m ∈ reader.messages,
        (∃ state ∈ s :: past, ∃ t, ∃ command ∈ Command.all, ∃ value, state.Asks c t command value m) ∧
        ∀ state ∈ s :: past, ∀ t, ∀ command ∈ Command.all, ∀ value, state.Asks c t command value m →
          m.kind = command.kind ∧ m.bind command.request = .ok value := by
  have isOpen := (h.conversing s List.mem_cons_self x here).isOpen.2.2
  obtain ⟨sent, payloads, small, -⟩ := h.run.messages here isOpen (named_of_typed h.sound.1.typed) kept read
  refine ⟨payloads, (sent.map Message.id).sublist.nodup h.sound.1.distinct, fun m member => ⟨?_, ?_⟩⟩
  · exact h.asked (sent.subset member)
  · intro state among t command listed value asks
    obtain ⟨kind, payload⟩ := h.asks among asks
    exact ⟨kind, Message.bind_encode (Command.proper listed).1 (small m member) payload⟩

/-- On a connection that stays open, where nothing but operations of the catalog is asked for and the peer answers in
time, in an order and in pieces of its own: the peer reads requests with ids of their own and binds the values that
were asked for; each call that was ever begun goes on, or has returned the value that the peer has chosen for its
request; no task that is engaged on the connection can go on for ever, as each of its actions does a part of the work and
those of others do not add to it; and once the peer has answered all and none of these tasks can go on, all calls have
returned, the peer has read the requests of all, and none is pending. -/
theorem typed_calls_end_to_end (h : Dialogue answers c s past) (here : s.connections[c]? = some x) :
    (∀ stream uses, let reader := (Reader.ofStream x.settings.maxFrameSize stream).run uses
      reader.received <+: x.socket.outgoing.sent →
        reader.payloads = reader.messages.map Message.encode ∧ (reader.messages.map Message.id).Nodup ∧
          ∀ m ∈ reader.messages,
            (∃ state ∈ s :: past, ∃ t, ∃ command ∈ Command.all, ∃ value, state.Asks c t command value m) ∧
            ∀ state ∈ s :: past, ∀ t, ∀ command ∈ Command.all, ∀ value, state.Asks c t command value m →
              m.kind = command.kind ∧ m.bind command.request = .ok value) ∧
    (∀ state ∈ s :: past, ∀ state' ∈ s :: past, ∀ t u command value command' value' request request',
      state.Asks c t command value request → state'.Asks c u command' value' request' →
        request.id = request'.id → t = u ∧ request = request') ∧
    (∀ former ∈ s :: past, ∀ t, ∀ command ∈ Command.all, ∀ value, former.Calls c t command value →
      s.Calls c t command value ∨ ∃ state ∈ s :: past, ∃ request, state.Asks c t command value request ∧
        s.Returns answers c t command value request) ∧
    (∀ t, ∀ s' ∈ s.next t, Dialogue answers c s' (s :: past) →
      (s.Engages c t → s'.work c < s.work c) ∧ (¬ s.Engages c t → s'.work c = s.work c)) ∧
    (∀ reader asked, Answered answers x reader asked → 0 < x.socket.outgoing.capacity → s.RestsAt c →
      (∀ former ∈ s :: past, ∀ t, ∀ command ∈ Command.all, ∀ value, former.Calls c t command value →
        ∃ state ∈ s :: past, ∃ request ∈ reader.messages, state.Asks c t command value request ∧
          s.Returns answers c t command value request) ∧
      x.router.pendingCount = 0) := by
  refine ⟨?_, ?_, ?_, fun t s' acts h' => h'.next_work here acts, ?_⟩
  · intro stream uses reader read
    exact h.reads here ((Reader.kept_ofStream _ stream).run uses) read
  · intro state member state' member' t u command value command' value' request request' asks asks' same
    exact (h.run.course c).requested_unique h.distinct (asks.requested member) (asks'.requested member') same
  · intro former earlier t command listed value calls
    refine (h.fate listed earlier calls).imp_right ?_
    rintro ⟨state, member, request, asks, -, returns⟩
    exact ⟨state, member, request, asks, returns⟩
  · intro reader asked answered capacity rest
    obtain ⟨silent, complete⟩ := h.silent rest here answered capacity
    refine ⟨fun former earlier t command listed value calls => ?_, h.pendingCount_eq_zero here silent⟩
    rcases h.fate listed earlier calls with ⟨call, found, -⟩ | ⟨state, member, request, asks, sent, returns⟩
    · have calls : s.call? c t = some call := by simp [call?, found, Task.call?, Task.part, Operating.part]
      cases (silent t).symm.trans calls
    · exact ⟨state, member, request, complete ▸ sent, asks, returns⟩

end System

namespace MessagePack

def FieldType.telling (text : String) (id : MessageId) : (t : FieldType) → t.Value
  | .text => text
  | .int t => ⟨0, by cases t <;> decide⟩
  | .float => (⟨0⟩ : Binary64)
  | .bytes => ([] : Bytes)
  | .id => id
  | .status => Status.success
  | .texts => ([text] : List String)

def FieldValues.telling (text : String) (id : MessageId) : (fields : List Field) → FieldValues fields
  | [] => ()
  | field :: fields => (field.type.telling text id, FieldValues.telling text id fields)

def Shape.telling (text : String) (id : MessageId) : (shape : Shape) → shape.Value
  | .unit => ()
  | .plain t => t.telling text id
  | .table => Table.empty
  | .record r => FieldValues.telling text id r.fields
  | .records _ => ([] : List _)

end MessagePack

def host : Answers := fun command id _ =>
  command.response.telling (if id = .fresh 0 then "host" else if id = .fresh 1 then "alive" else "60") id

namespace System

def questions : List Message :=
  [Command.getAgentInfo.ask (.fresh 0) (), Command.viewSysctl.ask (.fresh 2) "vm.swappiness",
    Command.heartbeat.ask (.fresh 1) "hello"]

def framesOf (messages : List Message) : Bytes :=
  messages.flatMap fun m => (Frame.encode m.encode).toOption.getD []

theorem written_framesOf {messages : List Message} (small : ∀ m ∈ messages, m.encode.length ≤ Frame.maxLength) :
    Written (messages.map Message.encode) (framesOf messages) := by
  induction messages with
  | nil => exact .nil
  | cons m messages ih =>
    obtain ⟨first, others⟩ := List.forall_mem_cons.1 small
    obtain ⟨frame, encoded⟩ : ∃ frame, Frame.encode m.encode = .ok frame := by
      unfold Frame.encode
      rw [if_neg (Nat.not_lt.2 first)]
      exact ⟨_, rfl⟩
    have frames : framesOf (m :: messages) = frame ++ framesOf messages := by
      simp [framesOf, encoded, Except.toOption]
    rw [frames]
    exact .cons encoded (ih others)

def peer (x : Connection) : Reader :=
  (Reader.ofStream x.settings.maxFrameSize []).run
    (.extend (x.socket.outgoing.sent.take x.socket.outgoing.readCount) :: .replicate 3 .poll)

def heard (x : Connection) : List Message := questions.filter fun m => m ∈ (peer x).messages

def replies (x : Connection) : Bool :=
  let responses := (heard x).filterMap host.reply?
  (peer x).received = x.socket.outgoing.sent.take x.socket.outgoing.readCount &&
    responses.all (fun response => response.encode.length ≤ min x.settings.maxFrameSize Frame.maxLength) &&
    x.socket.incoming.sent.isPrefixOf (framesOf responses)

theorem answering_of_replies {x : Connection} (h : replies x) : Answering host x (peer x) (heard x) := by
  simp only [replies, Bool.and_eq_true, List.all_eq_true, decide_eq_true_eq, List.isPrefixOf_iff_prefix] at h
  obtain ⟨⟨received, fits⟩, writes⟩ := h
  have nodup : questions.Nodup := by decide +kernel
  refine ⟨⟨[], _, rfl⟩, received ▸ List.prefix_rfl, ?_,
    fun response member => Nat.le_trans (fits response member) (Nat.min_le_left ..), ?_⟩
  · exact List.subperm_of_subset (nodup.filter _) fun m member => by simpa using (List.mem_filter.1 member).2
  · exact ⟨_, written_framesOf fun response member => Nat.le_trans (fits response member) (Nat.min_le_right ..), writes⟩

def inquiry? : Operating → Option Call
  | .calling (some (.plain .text)) call => some call
  | _ => none

theorem inquiry?_eq_some {operation : Operating} {call : Call} (h : inquiry? operation = some call) :
    operation = .calling (some (.plain .text)) call := by
  unfold inquiry? at h
  split at h
  · cases h
    rfl
  · cases h

def puts (kind : MessageKind) (text : String) (call : Call) : Bool :=
  call.kind = kind && call.payload = Shape.encode (.plain .text) text

def isTyped (limit : Nat) : Operating → Bool
  | .finished _ => true
  | operation => (inquiry? operation).any fun call =>
    (puts .heartbeat "hello" call || puts .sysctlView "vm.swappiness" call) &&
      call.phase.request?.all fun request => request.encode.length ≤ limit

theorem heartbeat_listed : .heartbeat ∈ Command.all := List.mem_of_getElem? (i := 0) rfl

theorem viewSysctl_listed : .viewSysctl ∈ Command.all := List.mem_of_getElem? (i := 9) rfl

theorem typed_of_isTyped {limit : Nat} {operation : Operating} (h : isTyped limit operation) :
    operation.Typed limit := by
  unfold isTyped at h
  split at h
  · exact .finished
  · simp only [puts, Option.any_eq_true, Bool.and_eq_true, Bool.or_eq_true, decide_eq_true_eq, Option.all_eq_true] at h
    obtain ⟨call, inquires, ⟨kind, payload⟩ | ⟨kind, payload⟩, fits⟩ := h <;> rw [inquiry?_eq_some inquires]
    · exact .calling heartbeat_listed kind payload fits
    · exact .calling viewSysctl_listed kind payload fits

def operation? : Task → Option Operating
  | .operate 0 operation => some operation
  | _ => none

def converses (s : System) : Bool :=
  (s.connections[0]?).all fun x =>
    s.tasks.all (fun task => (operation? task).all (isTyped x.settings.maxFrameSize)) &&
      (!x.closed && !x.halted && x.outbox.isOpen) &&
      s.tasks.all (fun task => (task.call? 0).all fun call => call.phase.deadline?.all (s.now < ·)) && replies x

theorem conversing_of_converses {s : System} {x : Connection} (h : converses s) (here : s.connections[0]? = some x) :
    s.Conversing host 0 x := by
  simp only [converses, here, Option.all_some, Bool.and_eq_true, Bool.not_eq_true', List.all_eq_true,
    Option.all_eq_true, decide_eq_true_eq] at h
  obtain ⟨⟨⟨typed, ⟨closed, halted⟩, isOpen⟩, early⟩, responds⟩ := h
  refine ⟨fun t operation found => ?_, ⟨closed, halted, isOpen⟩, fun t call deadline calls due late => ?_,
    ⟨_, _, answering_of_replies responds⟩⟩
  · exact typed_of_isTyped (typed _ (List.mem_of_getElem? found) _ rfl)
  · obtain ⟨task, found, calls⟩ := Option.bind_eq_some_iff.1 calls
    exact absurd (early task (List.mem_of_getElem? found) call calls deadline due) (Nat.not_lt.2 late)

def asking (command : Command) (value : command.request.Value) : Choice :=
  .react (.operate 0 (.calling (some command.response)
    ⟨command.kind, command.request.encode value, .ofSeconds 30, .register⟩))

/-- The host tells its name. Then two questions are put, and it answers the second one first, in two pieces. -/
def exchange : List Choice :=
  let introduction := framesOf ((questions.take 1).filterMap host.reply?)
  let responses := framesOf ((questions.drop 1).filterMap host.reply?)
  [.react (.takeOver (.v4 10 0 0 1 4000) {} (.ofCapacity 1024 none none) true), .act 1 0] ++
    .replicate 4 (.act 0 0) ++ .replicate 2 (.act 1 0) ++
    [.react (.peerReads 0 1024), .react (.peerWrites 0 introduction)] ++
    .replicate 2 (.act 1 0) ++ .replicate 10 (.act 0 0) ++
    [asking Command.heartbeat "hello", asking Command.viewSysctl "vm.swappiness"] ++
    .replicate 4 (.act 2 0) ++ .replicate 4 (.act 3 0) ++ .replicate 4 (.act 1 0) ++
    [.react (.peerReads 0 100), .react (.peerReads 0 1024), .react (.peerWrites 0 (responses.take 40)), .act 1 0,
      .react (.peerWrites 0 (responses.drop 40))] ++
    .replicate 3 (.act 1 0) ++ [.act 2 0, .act 3 0]

theorem dialogue_exchange : Dialogue host 0 (replay {} [] exchange).1 (replay {} [] exchange).2 := by
  have start : Streaming [{}] := .start initial_empty fun _ member => nomatch member
  have states : ∀ former ∈ (replay {} [] exchange).1 :: (replay {} [] exchange).2, converses former := by
    decide +kernel
  exact ⟨streaming_replay start exchange (by decide +kernel), Traffic.distinct_of_le (by decide +kernel),
    fun former member x here => conversing_of_converses (states former member) here⟩

def isAnswered (x : Connection) : Bool :=
  replies x && (peer x).received = x.socket.outgoing.sent && (peer x).buffer.next? = .ok none &&
    (heard x).isPerm (peer x).messages && x.socket.incoming.sent = framesOf ((heard x).filterMap host.reply?)

theorem answered_of_isAnswered {x : Connection} (h : isAnswered x) : Answered host x (peer x) (heard x) := by
  simp only [isAnswered, Bool.and_eq_true, decide_eq_true_eq, List.isPerm_iff] at h
  obtain ⟨⟨⟨⟨responds, received⟩, drained⟩, every⟩, written⟩ := h
  have answering := answering_of_replies responds
  refine ⟨answering, ⟨received, fun found next => ?_⟩, every, ?_⟩
  · cases drained.symm.trans next
  · rw [written]
    exact written_framesOf answering.small

def inquires (s : System) (t : TaskId) (kind : MessageKind) (text : String) : Bool :=
  (((s.tasks[t]?).bind operation?).bind inquiry?).any (puts kind text)

theorem calling_of_inquires {s : System} {t : TaskId} {kind : MessageKind} {text : String}
    (h : s.inquires t kind text) : ∃ call, s.tasks[t]? = some (.operate 0 (.calling (some (.plain .text)) call)) ∧
      call.kind = kind ∧ call.payload = Shape.encode (.plain .text) text := by
  simp only [inquires, puts, Option.any_eq_true, Bool.and_eq_true, decide_eq_true_eq, Option.bind_eq_some_iff] at h
  obtain ⟨call, ⟨operation, ⟨task, found, operates⟩, inquiry⟩, kind, payload⟩ := h
  cases inquiry?_eq_some inquiry
  unfold operation? at operates
  split at operates
  · cases operates
    exact ⟨call, found, kind, payload⟩
  · cases operates

/-- Both of those who asked have got the answers to their own questions. -/
theorem typed_calls_end_to_end_in_exchange :
    let s := (replay {} [] exchange).1
    let past := (replay {} [] exchange).2
    Dialogue host 0 s past ∧ ∃ x, s.connections[0]? = some x ∧ Answered host x (peer x) (heard x) ∧ s.RestsAt 0 ∧
      (∃ state ∈ s :: past, ∃ request ∈ (peer x).messages, state.Asks 0 2 .heartbeat "hello" request ∧
        s.Returns host 0 2 .heartbeat "hello" request) ∧
      (∃ state ∈ s :: past, ∃ request ∈ (peer x).messages, state.Asks 0 3 .viewSysctl "vm.swappiness" request ∧
        s.Returns host 0 3 .viewSysctl "vm.swappiness" request) ∧
      x.router.pendingCount = 0 := by
  have dialogue := dialogue_exchange
  have final : ((replay {} [] exchange).1.connections[0]?).any fun x =>
      isAnswered x && 0 < x.socket.outgoing.capacity := by decide +kernel
  obtain ⟨x, here, facts⟩ := (Option.any_eq_true _ _).1 final
  simp only [Bool.and_eq_true, decide_eq_true_eq] at facts
  obtain ⟨answered, capacity⟩ := facts
  have answered := answered_of_isAnswered answered
  have rest : (replay {} [] exchange).1.RestsAt 0 := by
    have idle : ∀ t < (replay {} [] exchange).1.tasks.length, ((replay {} [] exchange).1.next t).isEmpty := by
      decide +kernel
    rintro t ⟨task, found, -⟩
    exact List.isEmpty_iff.1 (idle t (List.getElem?_eq_some_iff.1 found).1)
  have begun : ((replay {} [] exchange).1 :: (replay {} [] exchange).2).any (fun s => s.inquires 2 .heartbeat "hello") ∧
      ((replay {} [] exchange).1 :: (replay {} [] exchange).2).any
        (fun s => s.inquires 3 .sysctlView "vm.swappiness") := by
    decide +kernel
  obtain ⟨⟨first, among, asks⟩, second, among', asks'⟩ := begun.imp List.any_eq_true.1 List.any_eq_true.1
  obtain ⟨-, -, -, -, returns⟩ := typed_calls_end_to_end dialogue here
  obtain ⟨returns, pending⟩ := returns _ _ answered capacity rest
  exact ⟨dialogue, x, here, answered, rest,
    returns first among 2 .heartbeat heartbeat_listed "hello" (calling_of_inquires asks),
    returns second among' 3 .viewSysctl viewSysctl_listed "vm.swappiness" (calling_of_inquires asks'),
    pending⟩

end System

end Fleetwire
