import Fleetwire.Proofs.Dialogue
import Fleetwire.Proofs.Flow.Lines
import Fleetwire.Proofs.Pending
import Fleetwire.Proofs.Traffic.Requests

namespace Fleetwire

inductive Operating.Typed (limit : Nat) : Operating → Prop where
  | calling {command : Command} {value : command.request.Value} {call : Call} (member : command ∈ Command.all)
    (kind : call.kind = command.kind) (payload : call.payload = command.request.encode value)
    (fits : ∀ request, call.phase.request? = some request → request.encode.length ≤ limit) :
    Typed limit (.calling (some command.response) call)
  | finished {result : Except LinkError Reply} : Typed limit (.finished result)

theorem Calling.of_sent? {phase later : Calling} {request : Message} (sent : phase.sent? later = some request) :
    (∃ slot deadline sending, phase = .send request slot deadline sending) ∧
      ∃ second slot deadline, later = .wait second slot deadline := by
  cases phase with
  | send first slot deadline sending =>
    cases later with
    | wait second slot' deadline' =>
      cases sent
      exact ⟨⟨slot, deadline, sending, rfl⟩, second, slot', deadline', rfl⟩
    | register | send | forget => cases sent
  | register | wait | forget => cases sent

theorem Task.of_sent? {c : ConnectionId} {task task' : Task} {request : Message} (akin : task.Akin task')
    (sent : task.sent? c task' = some request) :
    (∃ call call', task.call? c = some call ∧ task'.call? c = some call' ∧
      call.phase.sent? call'.phase = some request) ∨
      (∃ id phase, task = .handle c id phase) ∨ ∃ message phase, task = .operate c (.sending message phase) := by
  cases akin with
  | @accept own phase phase' asks =>
    simp only [sent?] at sent
    split at sent
    next same =>
      cases phase with
      | handshake call =>
        cases phase' with
        | handshake call' =>
          exact .inl ⟨call, call', by simp [call?, part, Accepting.part, same],
            by simp [call?, part, Accepting.part, same], sent⟩
        | _ => cases sent
      | _ => cases sent
    · cases sent
  | @operate own phase phase' =>
    simp only [sent?] at sent
    split at sent
    next same =>
      subst same
      cases phase with
      | calling shape call =>
        cases phase' with
        | calling shape' call' =>
          exact .inl ⟨call, call', by simp [call?, part, Operating.part], by simp [call?, part, Operating.part], sent⟩
        | _ => cases sent
      | sending message phase => exact .inr (.inr ⟨message, phase, rfl⟩)
      | _ => cases sent
    · cases sent
  | @handle own id phase phase' =>
    simp only [sent?] at sent
    split at sent
    next same => exact .inr (.inl ⟨id, phase, same ▸ rfl⟩)
    · cases sent
  | supervise | listen => cases sent

namespace System

/-- The connection stays open, its user makes nothing but typed calls, and its peer answers them, each before the time
of the call is over. -/
structure Conversing (s : System) (answers : Answers) (c : ConnectionId) (x : Connection) : Prop where
  typed : ∀ (t : TaskId) operation, s.tasks[t]? = some (.operate c operation) →
    operation.Typed x.settings.maxFrameSize
  isOpen : x.closed = false ∧ x.halted = false ∧ x.outbox.isOpen
  inTime : ∀ t call deadline, s.call? c t = some call → call.phase.deadline? = some deadline → deadline ≤ s.now →
    ∃ slot response, call.phase.slot? = some slot ∧ x.router.slots[slot]? = some (.filled response)
  answering : ∃ reader asked, Answering answers x reader asked

structure InDialogue (s : System) (past : List System) (c : ConnectionId) : Prop where
  asks : ∀ (t : TaskId) call, s.tasks[t]? = some (.accept c (.handshake call)) → Introductory call
  jobless : ∀ (t : TaskId) id phase, s.tasks[t]? ≠ some (.handle c id phase)
  typed : ∀ m ∈ sends c (s :: past), ∃ command ∈ Command.all, ∃ value, m = command.ask m.id value
  requested : ∀ m ∈ sends c (s :: past), ∃ t, Traffic.Requested ((s :: past).map (traffic c)) t m
  distinct : ((sends c (s :: past)).map Message.id).Nodup
  unsent : ∀ t call request, s.call? c t = some call → call.phase.sending? = some request →
    ∀ m ∈ sends c (s :: past), m.id ≠ request.id
  waiting : ∀ t call request slot deadline, s.call? c t = some call → call.phase = .wait request slot deadline →
    request ∈ sends c (s :: past)
  owned : ∀ m ∈ sends c (s :: past), (∀ response ∈ (s.traffic c).routed, response.id ≠ m.id) →
    ∃ t call slot deadline, s.call? c t = some call ∧ call.phase = .wait m slot deadline
  awaited : ∀ response ∈ (s.traffic c).routed, delivered c response.id (s :: past) ≠ []
  unforgotten : ∀ (t : TaskId) shape call request error, s.tasks[t]? = some (.operate c (.calling shape call)) →
    call.phase ≠ .forget request error

variable {s s' : System} {past : List System} {c : ConnectionId} {t : TaskId} {x : Connection} {call : Call}
  {answers : Answers}

theorem Happening.moves (founded : s.Founded) (h : s.Happening s') : s.Moves s' := by
  cases h with
  | step h => exact (h.mono fun _ _ plain => plain.1).moves founded
  | mood c change kept => exact .of_same founded (.update fun _ => rfl)

theorem Streaming.happening (run : Streaming (s' :: s :: past)) : s.Happening s' := by
  cases run with
  | next _ h => exact h

theorem Streaming.course (run : Streaming (s :: past)) (c : ConnectionId) :
    Traffic.Course ((s :: past).map (traffic c)) := by
  induction past generalizing s with
  | nil =>
    cases run with
    | start initial _ =>
      have run : Run Genuine [s] := .start initial
      exact run.course c
  | cons before past ih =>
    exact .move (ih run.earlier) ((run.happening.moves run.earlier.basis.1).traffic c)

theorem routed_of_connection (here : s.connections[c]? = some x) : (s.traffic c).routed = x.routed := by
  simp [traffic, here, Traffic.routed, Connection.exchange]

theorem task_of_call? (calls : s.call? c t = some call) :
    s.tasks[t]? = some (.accept c (.handshake call)) ∨
      (∃ id left, s.tasks[t]? = some (.handle c id (.acting left (.relaying call)))) ∨
      ∃ shape, s.tasks[t]? = some (.operate c (.calling shape call)) := by
  obtain ⟨task, found, makes⟩ := Option.bind_eq_some_iff.1 calls
  rcases Task.call?_cases makes with rfl | ⟨id, left, rfl⟩ | ⟨shape, rfl⟩
  · exact .inl found
  · exact .inr (.inl ⟨id, left, found⟩)
  · exact .inr (.inr ⟨shape, found⟩)

theorem Happening.akin {task task' : Task} (founded : s.Founded) (h : s.Happening s') (found : s.tasks[t]? = some task)
    (now : s'.tasks[t]? = some task') : task.Akin task' := by
  rcases h.former founded now with ⟨former, there, akin⟩ | ⟨absent, -⟩
  · cases found.symm.trans there
    exact akin
  · cases found.symm.trans absent

theorem named_of_typed
    (typed : ∀ m ∈ sends c (s :: past), ∃ command ∈ Command.all, ∃ value, m = command.ask m.id value) :
    ∀ m ∈ sends c (s :: past), MessageKind.ofCode m.kind.code = m.kind := by
  intro m member
  obtain ⟨command, listed, value, same⟩ := typed m member
  have kind : m.kind = command.kind := congrArg Message.kind same
  rw [kind, Command.ofCode_kind listed]

theorem Conversing.heard (conversing : s.Conversing answers c x) (run : Streaming (s :: past))
    (here : s.connections[c]? = some x)
    (typed : ∀ m ∈ sends c (s :: past), ∃ command ∈ Command.all, ∃ value, m = command.ask m.id value)
    (distinct : ((sends c (s :: past)).map Message.id).Nodup) :
    (∀ response ∈ x.routed, ∃ m ∈ sends c (s :: past), m.encode.length ≤ Frame.maxLength ∧
      response.encode.length ≤ Frame.maxLength ∧ answers.reply? m = some response) ∧
    (x.routed.map Message.id).Nodup := by
  obtain ⟨reader, asked, answering⟩ := conversing.answering
  have named := named_of_typed typed
  have read : reader.received <+: x.socket.outgoing.sent := answering.received.trans (List.take_prefix ..)
  obtain ⟨sent, -, small, -⟩ := run.messages here conversing.isOpen.2.2 named answering.kept read
  have routed := answering.routed ((run.sound c).lane _ (lane_of_connection here))
  refine ⟨fun response member => ?_, ?_⟩
  · have replied := routed.subset member
    obtain ⟨m, asks, replies⟩ := List.mem_filterMap.1 replied
    have gotten := answering.mem_messages asks
    exact ⟨m, sent.subset gotten, small m gotten, answering.small response replied, replies⟩
  · have ids := answering.ids_nodup ((sent.map Message.id).sublist.nodup distinct)
    exact (routed.map Message.id).sublist.nodup ids

end System

namespace Calling

inductive Thrives (now n : Nat) (e : Exchange) (call : Call) :
    Calling → Progress Calling (Except LinkError Bytes) → Prop where
  | register {slot : SlotId} {deadline : Nat} : Thrives now n e call .register
    (.going (.send (.request (.fresh n) call.kind call.payload) slot deadline .check))
  | goOn {request : Message} {slot : SlotId} {deadline : Nat} {phase phase' : Sending} :
    Thrives now n e call (.send request slot deadline phase) (.going (.send request slot deadline phase'))
  | sent {request : Message} {slot : SlotId} {deadline : Nat} {phase : Sending} :
    Thrives now n e call (.send request slot deadline phase) (.going (.wait request slot deadline))
  | tooLong {request : Message} {slot : SlotId} {deadline : Nat} {phase : Sending} {error : LinkError}
    (long : e.limit < request.encode.length) :
    Thrives now n e call (.send request slot deadline phase) (.going (.forget request error))
  | answer {request : Message} {slot : SlotId} {deadline : Nat} {response : Message}
    (filled : e.router.slots[slot]? = some (.filled response)) :
    Thrives now n e call (.wait request slot deadline) (.ended (Call.outcome response))
  | forget {request : Message} {error : LinkError} :
    Thrives now n e call (.forget request error) (.ended (.error error))

end Calling

namespace System

variable {s s' : System} {past : List System} {c : ConnectionId} {t : TaskId} {x : Connection} {call : Call}
  {answers : Answers} {request : Message}

structure Advances (answers : Answers) (c : ConnectionId) (s' s : System) (past : List System) : Prop where
  run : Streaming (s' :: s :: past)
  distinct : Traffic.Distinct s'.nextId
  before : ∀ x, s.connections[c]? = some x → s.Conversing answers c x
  after : ∀ x, s'.connections[c]? = some x → s'.Conversing answers c x
  dialogue : s.InDialogue past c
  unforeseen : ∀ former ∈ s :: past, (former.traffic c).Unforeseen

namespace Advances

theorem founded (h : Advances answers c s' s past) : s.Founded := h.run.earlier.basis.1

theorem move (h : Advances answers c s' s past) : (s.traffic c).Move (s'.traffic c) :=
  (h.run.happening.moves h.founded).traffic c

theorem smaller (h : Advances answers c s' s past) : Traffic.Distinct s.nextId := fun i j less less' =>
  h.distinct i j (Nat.lt_of_lt_of_le less h.move.nextId_le) (Nat.lt_of_lt_of_le less' h.move.nextId_le)

theorem named (h : Advances answers c s' s past) : (s.traffic c).Named :=
  ((h.run.earlier.course c).named h.smaller _ List.mem_cons_self).1

theorem named' (h : Advances answers c s' s past) : (s'.traffic c).Named :=
  ((h.run.course c).named h.distinct _ List.mem_cons_self).1

theorem tracked (h : Advances answers c s' s past) (calls : s.call? c t = some call) :
    Traffic.Tracked ((s :: past).map (traffic c)) (s.traffic c) t call := by
  refine (h.run.earlier.course c).tracked h.smaller (fun former member => ?_) t call (call?_eq_some.1 calls)
  obtain ⟨state, among, rfl⟩ := List.mem_map.1 member
  exact h.unforeseen state (List.mem_cons_of_mem _ among)

theorem thrives (h : Advances answers c s' s past) {e e' : Exchange} {n : Nat} (calls : s.call? c t = some call)
    (here : (s.traffic c).exchange = some e) {progress : Progress Calling (Except LinkError Bytes)}
    (act : Calling.Act s.now s.nextId e call call.phase progress n e') :
    Calling.Thrives s.now s.nextId e call call.phase progress := by
  obtain ⟨x, found, rfl⟩ := Option.map_eq_some_iff.1 here
  obtain ⟨closed, halted, isOpen⟩ := (h.before x found).isOpen
  have tracked := h.tracked calls
  have inTime := (h.before x found).inTime t call
  have unforeseen := h.unforeseen s List.mem_cons_self
  obtain ⟨kind, payload, timeout, phase⟩ := call
  cases act with
  | register => exact .register
  | goOn => exact .goOn
  | sent => exact .sent
  | answer filled => exact .answer filled
  | forget => exact .forget
  | fail why =>
    cases why with
    | ending ending =>
      rcases ending with ends | ends | ends
      · cases closed.symm.trans ends
      · cases halted.symm.trans ends
      · cases ends.symm.trans isOpen
    | tooLong long => exact .tooLong long
  -- A call whose time is over has its response by then: it does not send any more, nor does it give up.
  | @expire request slot deadline phase due =>
    obtain ⟨slot', response, held, filled⟩ := inTime deadline calls rfl due
    cases held
    exact absurd filled (tracked.unfilled unforeseen (call?_eq_some.1 calls) here response)
  | @expireWaiting request slot deadline due waits =>
    obtain ⟨slot', response, held, filled⟩ := inTime deadline calls rfl due
    cases held
    cases filled.symm.trans waits
  | @lose request slot deadline unfilled settled =>
    obtain ⟨e, there, tracks⟩ := tracked.inSlot request slot rfl rfl
    cases here.symm.trans there
    generalize Traffic.delivered _ _ = came at tracks
    cases tracks with
    | waiting isOpen => exact absurd isOpen.waits settled
    | closed _ _ ends => cases closed.symm.trans ends
    | filled filled => exact absurd filled (unfilled _)

theorem origin (h : Advances answers c s' s past) (calls : s'.call? c t = some call) :
    s.call? c t = some call ∨ call.phase = .register ∨ ∃ x phase, s.connections[c]? = some x ∧
      s.call? c t = some { call with phase } ∧
        Calling.Thrives s.now s.nextId x.exchange { call with phase } phase (.going call.phase) := by
  rcases h.move.origin (call?_eq_some.1 calls) with before | new | ⟨e, e', n, phase, here, -, -, before, act⟩
  · exact .inl (call?_eq_some.2 before)
  · exact .inr (.inl new)
  · obtain ⟨x, found, rfl⟩ := Option.map_eq_some_iff.1 here
    have made := call?_eq_some.2 before
    exact .inr (.inr ⟨x, phase, found, made, h.thrives made here act⟩)

theorem sent_call (h : Advances answers c s' s past) (sent : request ∈ sentBetween c s s') :
    ∃ t call call' slot deadline phase slot' deadline', s.call? c t = some call ∧
      call.phase = .send request slot deadline phase ∧ s'.call? c t = some call' ∧
        call'.phase = .wait request slot' deadline' := by
  obtain ⟨⟨task, task'⟩, member, sent⟩ := List.mem_filterMap.1 sent
  obtain ⟨t, found⟩ := List.mem_iff_getElem?.1 member
  obtain ⟨before, after⟩ := List.getElem?_zip_eq_some.1 found
  rcases Task.of_sent? (h.run.happening.akin h.founded before after) sent with
    ⟨call, call', asks, asks', sent⟩ | ⟨id, phase, rfl⟩ | ⟨message, phase, rfl⟩
  · have calls : s.call? c t = some call := by simp [call?, before, asks]
    have calls' : s'.call? c t = some call' := by simp [call?, after, asks']
    obtain ⟨⟨slot, deadline, phase, sends⟩, second, slot', deadline', waits⟩ := Calling.of_sent? sent
    obtain ⟨kind, payload, timeout, later⟩ := call'
    cases waits
    refine ⟨t, call, _, slot, deadline, phase, slot', deadline', calls, sends, calls', ?_⟩
    -- The call that waits is the one that sent the request.
    rcases h.origin calls' with same | new | ⟨x, former, -, same, thrives⟩
    · cases calls.symm.trans same
      cases sends
    · cases new
    · cases calls.symm.trans same
      cases sends
      cases thrives
      rfl
  · exact absurd before (h.dialogue.jobless t id phase)
  · have inside := h.founded.tasks _ (List.mem_of_getElem? before) c (List.mem_singleton_self c)
    cases (h.before _ (List.getElem?_eq_getElem inside)).typed t _ before

theorem mem_sentBetween (h : Advances answers c s' s past) {call' : Call} {slot slot' : SlotId}
    {deadline deadline' : Nat} {phase : Sending} (calls : s.call? c t = some call)
    (sends : call.phase = .send request slot deadline phase) (calls' : s'.call? c t = some call')
    (waits : call'.phase = .wait request slot' deadline') : request ∈ sentBetween c s s' := by
  have phases : call.phase.sent? call'.phase = some request := by rw [sends, waits]; rfl
  have pair {task task' : Task} (before : s.tasks[t]? = some task) (after : s'.tasks[t]? = some task')
      (sent : Task.sent? c task task' = some request) : request ∈ sentBetween c s s' := by
    refine List.mem_filterMap.2 ⟨(task, task'), ?_, sent⟩
    exact List.mem_of_getElem? (List.getElem?_zip_eq_some.2 ⟨before, after⟩)
  rcases task_of_call? calls with before | ⟨id, left, before⟩ | ⟨shape, before⟩
  · rcases task_of_call? calls' with after | ⟨id, left, after⟩ | ⟨shape, after⟩
    · exact pair before after (by simpa only [Task.sent?, Accepting.sent?, if_pos] using phases)
    · cases h.run.happening.akin h.founded before after
    · cases h.run.happening.akin h.founded before after
  · exact absurd before (h.dialogue.jobless t id _)
  · rcases task_of_call? calls' with after | ⟨id, left, after⟩ | ⟨shape', after⟩
    · cases h.run.happening.akin h.founded before after
    · cases h.run.happening.akin h.founded before after
    · exact pair before after (by simpa only [Task.sent?, Operating.sent?, if_pos] using phases)

theorem ask_of_call (h : Advances answers c s' s past) (calls : s.call? c t = some call)
    (requested : call.phase.request? = some request) :
    ∃ command ∈ Command.all, ∃ value, request = command.ask request.id value := by
  obtain ⟨k, -, rfl⟩ := h.named.request t call request (call?_eq_some.1 calls) requested
  rcases task_of_call? calls with found | ⟨id, left, found⟩ | ⟨shape, found⟩
  · obtain ⟨kind, payload⟩ := h.dialogue.asks t call found
    refine ⟨Command.getAgentInfo, by simp [Command.all], (), ?_⟩
    rw [kind, payload]
    rfl
  · exact absurd found (h.dialogue.jobless t id _)
  · have inside := h.founded.tasks _ (List.mem_of_getElem? found) c (List.mem_singleton_self c)
    cases (h.before _ (List.getElem?_eq_getElem inside)).typed t _ found with
    | @calling command value _ member kind payload =>
      refine ⟨command, member, value, ?_⟩
      rw [kind, payload]
      rfl

theorem asks (h : Advances answers c s' s past) (found : s'.tasks[t]? = some (.accept c (.handshake call))) :
    Introductory call := by
  rcases h.run.happening.former h.founded found with ⟨former, there, akin⟩ | ⟨-, newcomer⟩
  · cases akin with
    | accept asks =>
      obtain ⟨before, rfl, kind, payload⟩ := asks call rfl
      have same := h.dialogue.asks t before there
      exact ⟨kind.trans same.kind, payload.trans same.payload⟩
  · cases newcomer with
    | accept _ asks => exact asks

theorem typed (h : Advances answers c s' s past) :
    ∀ m ∈ sends c (s' :: s :: past), ∃ command ∈ Command.all, ∃ value, m = command.ask m.id value := by
  intro m member
  rcases List.mem_append.1 member with old | new
  · exact h.dialogue.typed m old
  · obtain ⟨t, call, _, slot, deadline, phase, _, _, calls, sends, _⟩ := h.sent_call new
    exact h.ask_of_call calls (by rw [sends]; rfl)

theorem requested (h : Advances answers c s' s past) :
    ∀ m ∈ sends c (s' :: s :: past), ∃ t, Traffic.Requested ((s' :: s :: past).map (traffic c)) t m := by
  have later {t : TaskId} {m : Message} (requested : Traffic.Requested ((s :: past).map (traffic c)) t m) :
      Traffic.Requested ((s' :: s :: past).map (traffic c)) t m := by
    obtain ⟨l, member, asks⟩ := requested
    exact ⟨l, List.mem_cons_of_mem _ member, asks⟩
  intro m member
  rcases List.mem_append.1 member with old | new
  · obtain ⟨t, requested⟩ := h.dialogue.requested m old
    exact ⟨t, later requested⟩
  · obtain ⟨t, call, _, slot, deadline, phase, _, _, calls, sends, _⟩ := h.sent_call new
    exact ⟨t, later ⟨_, List.mem_cons_self, call, call?_eq_some.1 calls, by rw [sends]; rfl⟩⟩

theorem unsent (h : Advances answers c s' s past) (calls : s'.call? c t = some call)
    (sending : call.phase.sending? = some request) :
    ∀ m ∈ sends c (s' :: s :: past), m.id ≠ request.id := by
  intro m member same
  obtain ⟨kind, payload, timeout, later⟩ := call
  cases later with
  | send first slot deadline phase =>
    cases sending
    rcases List.mem_append.1 member with old | new
    · rcases h.origin calls with before | new | ⟨x, former, -, before, thrives⟩
      · exact h.dialogue.unsent t _ request before rfl m old same
      · cases new
      · dsimp only at thrives
        generalize going : Progress.going _ = progress at thrives
        cases thrives with
        | register =>
          -- The id is none of those that were given out before.
          have fresh : request.id = .fresh s.nextId ∧ s.nextId < s'.nextId := by
            refine (h.move.requested (call?_eq_some.1 calls) rfl).resolve_left ?_
            rintro ⟨other, there, named⟩
            cases (call?_eq_some.1 before).symm.trans there
            cases named
          obtain ⟨u, requested⟩ := h.dialogue.requested m old
          obtain ⟨k, less, numbered⟩ := (h.run.earlier.course c).requested_numbered h.smaller requested
          rw [numbered, fresh.1] at same
          exact Nat.ne_of_lt less (h.distinct k s.nextId (Nat.lt_trans less fresh.2) fresh.2 same)
        | goOn =>
          cases going
          exact h.dialogue.unsent t _ request before rfl m old same
        | sent | tooLong | answer | forget => cases going
    · obtain ⟨u, _, call, slot', deadline', phase', _, _, _, _, calls', waits⟩ := h.sent_call new
      obtain rfl := h.named'.ids u t call _ m request (call?_eq_some.1 calls') (call?_eq_some.1 calls)
        (by rw [waits]; rfl) rfl same
      cases calls.symm.trans calls'
      cases waits
  | register | wait | forget => cases sending

theorem distinct_ids (h : Advances answers c s' s past) : ((sends c (s' :: s :: past)).map Message.id).Nodup := by
  obtain ⟨posted, -, sent⟩ := h.run.flows.move c
  have all : sends c (s' :: s :: past) = sends c (s :: past) ++ posted.toList := by rw [← sent]; rfl
  rw [all]
  cases posted with
  | none =>
    rw [Option.toList_none, List.append_nil]
    exact h.dialogue.distinct
  | some m =>
    have new : m ∈ sentBetween c s s' := by rw [sent]; exact List.mem_singleton_self m
    obtain ⟨t, call, _, slot, deadline, phase, _, _, calls, sends, _⟩ := h.sent_call new
    have apart := h.dialogue.unsent t call m calls (by rw [sends]; rfl)
    rw [Option.toList_some, List.map_append, List.nodup_append]
    refine ⟨h.dialogue.distinct, List.nodup_singleton _, fun id member other new same => ?_⟩
    obtain ⟨former, earlier, rfl⟩ := List.mem_map.1 member
    rw [List.map_singleton, List.mem_singleton] at new
    exact apart former earlier (same.trans new)

theorem waiting (h : Advances answers c s' s past) {slot : SlotId} {deadline : Nat}
    (calls : s'.call? c t = some call) (waits : call.phase = .wait request slot deadline) :
    request ∈ sends c (s' :: s :: past) := by
  obtain ⟨kind, payload, timeout, later⟩ := call
  cases waits
  rcases h.origin calls with before | new | ⟨x, former, -, before, thrives⟩
  · exact List.mem_append_left _ (h.dialogue.waiting t _ request slot deadline before rfl)
  · cases new
  · dsimp only at thrives
    generalize going : Progress.going _ = progress at thrives
    cases thrives with
    | sent =>
      cases going
      exact List.mem_append_right _ (h.mem_sentBetween before rfl calls rfl)
    | register | goOn | tooLong | answer | forget => cases going

theorem routed_subset (h : Advances answers c s' s past) : (s.traffic c).routed ⊆ (s'.traffic c).routed := by
  rcases h.move.routes with same | ⟨message, routed, -⟩
  · exact same ▸ List.Subset.refl _
  · exact routed ▸ List.subset_append_left ..

theorem owned (h : Advances answers c s' s past) (member : request ∈ sends c (s' :: s :: past))
    (unanswered : ∀ response ∈ (s'.traffic c).routed, response.id ≠ request.id) :
    ∃ t call slot deadline, s'.call? c t = some call ∧ call.phase = .wait request slot deadline := by
  rcases List.mem_append.1 member with old | new
  · obtain ⟨t, call, slot, deadline, calls, waits⟩ :=
      h.dialogue.owned request old fun response came => unanswered response (h.routed_subset came)
    rcases h.move.becomes (call?_eq_some.1 calls) with same | dropped | ⟨e, e', progress, here, -, ⟨n, act⟩, -⟩
    · exact ⟨t, call, slot, deadline, call?_eq_some.2 same, waits⟩
    · have broken := aborted_of_dropped dropped
      have inside := h.run.basis.1.tasks _ (List.mem_of_getElem? broken) c (List.mem_singleton_self c)
      cases (h.after _ (List.getElem?_eq_getElem inside)).typed t _ broken
    · have thrives := h.thrives calls here act
      have tracked := h.tracked calls
      obtain ⟨kind, payload, timeout, phase⟩ := call
      cases waits
      cases thrives with
      | answer filled =>
        -- The response that it takes has been routed.
        obtain ⟨e, there, tracks⟩ := tracked.inSlot request slot rfl rfl
        cases here.symm.trans there
        generalize Traffic.delivered _ _ = came at tracks
        cases tracks with
        | waiting isOpen => cases filled.symm.trans isOpen.waits
        | closed isClosed => cases filled.symm.trans isClosed
        | filled _ _ own routed =>
          refine absurd own (unanswered _ (h.routed_subset ?_))
          simp only [Traffic.routed, here]
          exact routed
  · obtain ⟨t, _, call, _, _, _, slot, deadline, _, _, calls, waits⟩ := h.sent_call new
    exact ⟨t, call, slot, deadline, calls, waits⟩

theorem awaits (h : Advances answers c s' s past) {message : Message}
    (routed : (s'.traffic c).routed = (s.traffic c).routed ++ [message])
    (same : ∀ t, (s'.traffic c).part t = (s.traffic c).part t) : (s.traffic c).awaits message.id := by
  obtain ⟨x', here', routes⟩ : ∃ x', s'.connections[c]? = some x' ∧ (s'.traffic c).routed = x'.routed := by
    cases found : s'.connections[c]? with
    | none =>
      have nothing : (s'.traffic c).routed = [] := by simp [traffic, found, Traffic.routed]
      rw [nothing] at routed
      exact absurd routed.symm (List.append_ne_nil_of_right_ne_nil _ (List.cons_ne_nil _ _))
    | some x' => exact ⟨x', rfl, routed_of_connection found⟩
  obtain ⟨heard, distinct⟩ := (h.after x' here').heard h.run here' h.typed h.distinct_ids
  rw [← routes, routed] at heard distinct
  obtain ⟨m, member, -, -, replies⟩ := heard message (List.mem_append_right _ (List.mem_singleton_self message))
  have own : message.id = m.id := (Answers.reply?_same replies).1
  -- Who routes a message sends none.
  have old : m ∈ sends c (s :: past) := by
    refine (List.mem_append.1 member).resolve_right fun new => ?_
    obtain ⟨t, call, call', slot, deadline, phase, slot', deadline', calls, sends, calls', waits⟩ := h.sent_call new
    cases (call?_eq_some.1 calls).symm.trans ((same t).symm.trans (call?_eq_some.1 calls'))
    cases sends.symm.trans waits
  have unanswered : ∀ response ∈ (s.traffic c).routed, response.id ≠ m.id := by
    intro response came equal
    rw [List.map_append, List.nodup_append] at distinct
    exact distinct.2.2 _ (List.mem_map_of_mem came) _ (List.mem_singleton_self message.id) (equal.trans own.symm)
  obtain ⟨t, call, slot, deadline, calls, waits⟩ := h.dialogue.owned m old unanswered
  have tracked := h.tracked calls
  obtain ⟨e, here, tracks⟩ := tracked.inSlot m slot (by rw [waits]; rfl) (by rw [waits]; rfl)
  rw [own]
  generalize Traffic.delivered _ _ = came at tracks
  cases tracks with
  | waiting isOpen => simp [Traffic.awaits, here, Router.awaits, isOpen.awaited, isOpen.waits]
  | closed _ _ closed =>
    obtain ⟨x, found, rfl⟩ := Option.map_eq_some_iff.1 here
    cases (h.before x found).isOpen.1.symm.trans closed
  | filled _ _ own routed =>
    refine absurd own (unanswered _ ?_)
    simp only [Traffic.routed, here]
    exact routed

theorem awaited (h : Advances answers c s' s past) :
    ∀ response ∈ (s'.traffic c).routed, delivered c response.id (s' :: s :: past) ≠ [] := by
  intro response member
  rcases h.move.routes with same | ⟨message, routed, parts⟩
  · rw [same] at member
    have before := h.dialogue.awaited response member
    have kept : delivered c response.id (s' :: s :: past) = delivered c response.id (s :: past) :=
      Traffic.delivered_of_routed same
    rw [kept]
    exact before
  · have came : delivered c response.id (s' :: s :: past) = delivered c response.id (s :: past) ++
        [message].filter fun m => m.id = response.id ∧ (s.traffic c).awaits response.id :=
      Traffic.delivered_of_append routed
    rw [came]
    rw [routed] at member
    rcases List.mem_append.1 member with old | new
    · exact List.append_ne_nil_of_left_ne_nil (h.dialogue.awaited response old) _
    · rw [List.mem_singleton.1 new]
      refine List.append_ne_nil_of_right_ne_nil _ ?_
      simp [h.awaits routed parts]

theorem jobless (h : Advances answers c s' s past) (t : TaskId) (id : JobId) (phase : Handling) :
    s'.tasks[t]? ≠ some (.handle c id phase) := by
  intro found
  rcases h.run.happening.former h.founded found with ⟨former, there, akin⟩ | ⟨-, newcomer⟩
  · cases akin
    exact h.dialogue.jobless t id _ there
  · cases newcomer with
    | job routes =>
      -- A job begins with a message that no call waits for, but there is none.
      obtain ⟨x, x', message, here, here', routed, unawaited⟩ := routes
      have came : (s'.traffic c).routed = (s.traffic c).routed ++ [message] := by
        rw [routed_of_connection here, routed_of_connection here', routed]
      rcases h.move.routes with same | ⟨other, routed', parts⟩
      · rw [same] at came
        exact absurd (List.self_eq_append_right.1 came) (List.cons_ne_nil _ _)
      · obtain rfl : message = other := by
          rw [routed'] at came
          simpa using (List.append_cancel_left came).symm
        have awaits := h.awaits came parts
        simp [Traffic.awaits, traffic, here, Router.awaits, Connection.exchange, unawaited] at awaits

theorem unforgotten (h : Advances answers c s' s past) {shape : Option MessagePack.Shape} {error : LinkError}
    (found : s'.tasks[t]? = some (.operate c (.calling shape call))) : call.phase ≠ .forget request error := by
  intro forgets
  have calls : s'.call? c t = some call := by
    simp [call?, found, Task.call?, Task.part, Operating.part]
  have operation {call : Call} (calls : s.call? c t = some call) :
      ∃ shape, s.tasks[t]? = some (.operate c (.calling shape call)) := by
    rcases task_of_call? calls with there | ⟨id, left, there⟩ | there
    · cases h.run.happening.akin h.founded there found
    · exact absurd there (h.dialogue.jobless t id _)
    · exact there
  obtain ⟨kind, payload, timeout, later⟩ := call
  cases forgets
  rcases h.origin calls with before | new | ⟨x, former, here, before, thrives⟩
  · obtain ⟨shape, there⟩ := operation before
    exact h.dialogue.unforgotten t shape _ request error there rfl
  · cases new
  · dsimp only at thrives
    generalize going : Progress.going _ = progress at thrives
    cases thrives with
    | tooLong long =>
      cases going
      obtain ⟨shape, there⟩ := operation before
      -- A typed call fails only if its request is too long, which it is not.
      cases (h.before x here).typed t _ there with
      | calling member kind payload fits => exact Nat.not_lt.2 (fits _ rfl) long
    | register | goOn | sent | answer | forget => cases going

theorem inDialogue (h : Advances answers c s' s past) : s'.InDialogue (s :: past) c where
  asks _ _ := h.asks
  jobless := h.jobless
  typed := h.typed
  requested := h.requested
  distinct := h.distinct_ids
  unsent _ _ _ := h.unsent
  waiting _ _ _ _ _ := h.waiting
  owned _ := h.owned
  awaited := h.awaited
  unforgotten _ _ _ _ _ := h.unforgotten

end Advances

theorem InDialogue.unforeseen (dialogue : s.InDialogue past c) (run : Streaming (s :: past))
    (conversing : ∀ x, s.connections[c]? = some x → s.Conversing answers c x) : (s.traffic c).Unforeseen := by
  intro t call request calls sending response routed same
  cases here : s.connections[c]? with
  | none => simp [traffic, here, Traffic.routed] at routed
  | some x =>
    rw [routed_of_connection here] at routed
    obtain ⟨m, member, -, -, replies⟩ :=
      ((conversing x here).heard run here dialogue.typed dialogue.distinct).1 response routed
    exact dialogue.unsent t call request (call?_eq_some.2 calls) sending m member
      ((Answers.reply?_same replies).1.symm.trans same)

theorem Initial.inDialogue (initial : s.Initial) (c : ConnectionId) : s.InDialogue [] c := by
  have idle : ∀ t, s.call? c t = none := by
    intro t
    unfold call?
    cases found : s.tasks[t]? with
    | none => rfl
    | some task =>
      rw [initial.tasks task (List.mem_of_getElem? found)]
      rfl
  have task {t : TaskId} {task : Task} (found : s.tasks[t]? = some task) : task = .listen .accepting :=
    initial.tasks task (List.mem_of_getElem? found)
  have nothing : (s.traffic c).routed = [] := by simp [traffic, initial.connections, Traffic.routed]
  have unsent : sends c [s] = [] := rfl
  exact {
    asks t call found := by cases task found
    jobless t id phase found := by cases task found
    typed := by simp [unsent]
    requested := by simp [unsent]
    distinct := by simp [unsent]
    unsent := by simp [unsent]
    waiting t call _ _ _ calls := by cases (idle t).symm.trans calls
    owned := by simp [unsent]
    awaited := by simp [nothing]
    unforgotten t shape call _ _ found := by cases task found }

/-- On the connection nothing happens but that operations of the catalog are asked for and answered. -/
structure Dialogue (answers : Answers) (c : ConnectionId) (s : System) (past : List System) : Prop where
  run : Streaming (s :: past)
  distinct : Traffic.Distinct s.nextId
  conversing : ∀ former ∈ s :: past, ∀ x, former.connections[c]? = some x → former.Conversing answers c x

theorem Dialogue.earlier (h : Dialogue answers c s' (s :: past)) : Dialogue answers c s past where
  run := h.run.earlier
  distinct i j less less' := by
    have growth := ((h.run.happening.moves h.run.earlier.basis.1).traffic c).nextId_le
    exact h.distinct i j (Nat.lt_of_lt_of_le less growth) (Nat.lt_of_lt_of_le less' growth)
  conversing former member := h.conversing former (List.mem_cons_of_mem _ member)

theorem Dialogue.sound (h : Dialogue answers c s past) :
    s.InDialogue past c ∧ ∀ former ∈ s :: past, (former.traffic c).Unforeseen := by
  induction past generalizing s with
  | nil =>
    have dialogue : s.InDialogue [] c := by
      cases h.run with
      | start initial untouched => exact initial.inDialogue c
    refine ⟨dialogue, fun former member => ?_⟩
    rw [List.mem_singleton.1 member]
    exact dialogue.unforeseen h.run (h.conversing s List.mem_cons_self)
  | cons before past ih =>
    obtain ⟨dialogue, unforeseen⟩ := ih h.earlier
    have dialogue' := Advances.inDialogue ⟨h.run, h.distinct, h.earlier.conversing before List.mem_cons_self,
      h.conversing s List.mem_cons_self, dialogue, unforeseen⟩
    exact ⟨dialogue', List.forall_mem_cons.2
      ⟨dialogue'.unforeseen h.run (h.conversing s List.mem_cons_self), unforeseen⟩⟩

theorem Dialogue.advances (h : Dialogue answers c s' (s :: past)) : Advances answers c s' s past :=
  ⟨h.run, h.distinct, h.earlier.conversing s List.mem_cons_self, h.conversing s' List.mem_cons_self,
    h.earlier.sound.1, h.earlier.sound.2⟩

end System

end Fleetwire
