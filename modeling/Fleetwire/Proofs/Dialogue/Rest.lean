import Fleetwire.Proofs.Dialogue.Progress
import Fleetwire.Proofs.Dialogue.Results
import Fleetwire.Proofs.Inbound

namespace Fleetwire

namespace Socket

variable {socket : Socket} {count : Nat}

theorem within_eq_zero {limit : Option Nat} {used wanted : Nat} (nothing : within limit used wanted = some 0) :
    wanted = 0 := by
  unfold within at nothing
  split at nothing
  · exact Option.some.inj nothing
  · split at nothing
    · cases nothing
    · have least := Option.some.inj nothing
      omega

theorem waiting_of_notReady (notReady : socket.arrival = .notReady) : socket.incoming.waiting = [] := by
  unfold arrival at notReady
  dsimp only at notReady
  split at notReady
  · cases notReady
  next nothing => exact List.eq_nil_of_length_eq_zero (within_eq_zero nothing)
  · cases notReady

theorem room_of_accepts {wanted : Nat} (some : wanted ≠ 0) (nothing : socket.accepts wanted = .ok 0) :
    socket.outgoing.room = 0 := by
  unfold accepts at nothing
  split at nothing
  · cases nothing
  next count within =>
    split at nothing
    · cases nothing
    · have least : min count socket.outgoing.room = 0 := Except.ok.inj nothing
      rcases Nat.min_eq_zero_iff.1 least with rfl | empty
      · exact absurd (within_eq_zero within) some
      · exact empty

end Socket

namespace Supervising

variable {s : System} {c : ConnectionId} {x : Connection}

theorem read_of_inbound (idle : inbound s c x = []) :
    x.inbox.next? = .ok none ∧ x.socket.incoming.waiting = [] := by
  unfold inbound at idle
  split at idle
  · cases idle
  · cases idle
  next found =>
    split at idle
    next notReady => exact ⟨found, Socket.waiting_of_notReady notReady⟩
    all_goals cases idle

theorem written_of_outbound (idle : outbound s c x = []) (room : x.socket.outgoing.room ≠ 0) :
    x.writing = [] ∧ x.outbox.waiting = [] := by
  unfold outbound at idle
  split at idle
  next done =>
    split at idle
    next nothing => exact ⟨List.isEmpty_iff.1 done, Outbox.take?_eq_none.1 nothing⟩
    · split at idle <;> cases idle
  next busy =>
    have some : x.writing.length ≠ 0 := fun none => busy (List.isEmpty_iff.2 (List.eq_nil_of_length_eq_zero none))
    split at idle
    · cases idle
    next nothing => exact absurd (Socket.room_of_accepts some nothing) room
    · cases idle

end Supervising

namespace System

variable {s s' : System} {past : List System} {c : ConnectionId} {t u : TaskId} {x : Connection} {call : Call}
  {answers : Answers} {reader : Reader} {asked : List Message}

def RestsAt (s : System) (c : ConnectionId) : Prop := ∀ t, s.Engages c t → s.next t = []

theorem task_of_station {p : Station} (stands : (s.flow c).station u = p) (taken : p ≠ .none) :
    ∃ task, s.tasks[u]? = some task ∧ task.station c = p := by
  rw [station_of_getElem?] at stands
  cases found : s.tasks[u]? with
  | none =>
    rw [found] at stands
    exact absurd stands.symm taken
  | some task =>
    rw [found] at stands
    exact ⟨task, rfl, stands⟩

theorem RestsAt.serve (rest : s.RestsAt c) (run : Streaming (s :: past)) (here : s.connections[c]? = some x)
    (isOpen : x.outbox.isOpen) : Supervising.serve s c x = [] := by
  obtain ⟨u, serving⟩ := (run.kept c).serves _ (lane_of_connection here) isOpen
  obtain ⟨task, found, serving⟩ := task_of_station serving (by simp)
  have idle := rest u ⟨task, found, .inr serving⟩
  rcases Task.of_serving serving with rfl | rfl <;>
    simp only [System.next, found, List.map_eq_nil_iff, Supervising.next, here] at idle
  · cases idle
  · exact idle

theorem RestsAt.caller (rest : s.RestsAt c) (dialogue : s.InDialogue past c) (here : s.connections[c]? = some x)
    (calls : s.call? c t = some call) : call.next s c t = [] := by
  obtain ⟨task, found, makes⟩ := Option.bind_eq_some_iff.1 calls
  have idle := rest t ⟨task, found, .inl (makes ▸ Option.some_ne_none call)⟩
  rcases Task.call?_cases makes with rfl | ⟨id, left, rfl⟩ | ⟨shape, rfl⟩
  · simp only [System.next, found, List.map_eq_nil_iff, Accepting.next, here] at idle
    exact idle
  · exact absurd found (dialogue.jobless t id _)
  · simp only [System.next, found, List.map_eq_nil_iff, Operating.next] at idle
    exact idle

theorem station_of_call (calls : s.call? c t = some call) : (s.flow c).station t = call.phase.station := by
  rcases task_of_call? calls with found | ⟨id, left, found⟩ | ⟨shape, found⟩ <;>
    rw [station_of_task found] <;> exact if_pos rfl

theorem call_of_station (dialogue : s.InDialogue past c) (conversing : s.Conversing answers c x) {message : Message}
    {phase : Sending} (sends : (s.flow c).station u = .sending message phase) :
    ∃ call slot deadline, s.call? c u = some call ∧ call.phase = .send message slot deadline phase := by
  obtain ⟨task, found, sends⟩ := task_of_station sends (by simp)
  rcases Task.of_sending sends with ⟨call, slot, deadline, calls, same⟩ | ⟨id, doing, rfl⟩ | rfl
  · exact ⟨call, slot, deadline, by simp [call?, found, calls], same⟩
  · exact absurd found (dialogue.jobless u id doing)
  · cases conversing.typed u _ found

theorem next_ne_nil_of_first {request : Message} {slot : SlotId} {deadline : Nat} {envelope : Bytes}
    (here : s.connections[c]? = some x) (sends : call.phase = .send request slot deadline (.wait envelope))
    (isOpen : x.outbox.isOpen) (first : x.outbox.senders.members.head? = some t)
    (room : x.outbox.waiting.length < x.outbox.capacity) : call.next s c t ≠ [] := by
  obtain ⟨kind, payload, timeout, phase⟩ := call
  cases sends
  have admitted : x.outbox.hasRoomFor t := by
    obtain ⟨others, members⟩ := List.head?_eq_some_iff.1 first
    obtain ⟨places, more⟩ : ∃ places, x.outbox.capacity - x.outbox.waiting.length = places + 1 :=
      ⟨_, (Nat.succ_pred_eq_of_pos (Nat.sub_pos_of_lt room)).symm⟩
    rw [Outbox.hasRoomFor, Line.admits, members, more]
    simp
  simp [Call.next, here, Sending.next, isOpen, admitted]

theorem next_ne_nil_of_unlined {request : Message} {slot : SlotId} {deadline : Nat} {phase : Sending}
    (here : s.connections[c]? = some x) (sends : call.phase = .send request slot deadline phase)
    (unlined : ∀ envelope, phase ≠ .wait envelope) : call.next s c t ≠ [] := by
  obtain ⟨kind, payload, timeout, _⟩ := call
  cases sends
  have acts : phase.next s c t request ≠ [] := by
    cases phase with
    | check =>
      simp only [Sending.next, here]
      split
      · exact List.cons_ne_nil _ _
      · split <;> exact List.cons_ne_nil _ _
    | queue envelope => exact List.cons_ne_nil _ _
    | wait envelope => exact absurd rfl (unlined envelope)
  simp only [Call.next, here]
  exact fun nothing => acts (List.map_eq_nil_iff.1 nothing)

theorem RestsAt.nobody_lined (rest : s.RestsAt c) (dialogue : s.InDialogue past c) (run : Streaming (s :: past))
    (conversing : s.Conversing answers c x) (here : s.connections[c]? = some x)
    (room : x.outbox.waiting.length < x.outbox.capacity) : ∀ u, ¬ ((s.flow c).station u).InLine := by
  intro u waits
  have member : u ∈ s.line c := (run.linedUp c u).2 waits
  -- Were there anyone, the first of them could go on.
  obtain ⟨first, heads⟩ : ∃ first, (s.line c).head? = some first := by
    cases line : s.line c with
    | nil =>
      rw [line] at member
      cases member
    | cons first others => exact ⟨first, rfl⟩
  have stands : ((s.flow c).station first).InLine := (run.linedUp c first).1 (List.mem_of_mem_head? heads)
  cases station : (s.flow c).station first with
  | sending message phase =>
    rw [station] at stands
    cases phase with
    | wait envelope =>
      obtain ⟨call, slot, deadline, calls, sends⟩ := call_of_station dialogue conversing station
      rw [line_of_connection here] at heads
      exact next_ne_nil_of_first here sends conversing.isOpen.2.2 heads room (rest.caller dialogue here calls)
    | check | queue => exact stands
  | none | serving | retired =>
    rw [station] at stands
    exact stands

/-- Once all is answered, the messages read are those sent, and all the responses were routed. -/
theorem RestsAt.answered (rest : s.RestsAt c) (dialogue : s.InDialogue past c) (run : Streaming (s :: past))
    (conversing : s.Conversing answers c x) (here : s.connections[c]? = some x)
    (answered : Answered answers x reader asked) (capacity : 0 < x.socket.outgoing.capacity) :
    x.outbox.waiting = [] ∧ reader.messages = sends c (s :: past) ∧
      ∀ m ∈ sends c (s :: past), ∃ response ∈ x.routed, response.id = m.id := by
  have isOpen := conversing.isOpen.2.2
  have idle := rest.serve run here isOpen
  simp only [Supervising.serve, List.append_eq_nil_iff] at idle
  obtain ⟨⟨⟨inbound, outbound⟩, -⟩, -⟩ := idle
  -- The peer has read all, so what is still to be written could be written.
  have room : x.socket.outgoing.room ≠ 0 := by
    have read := answered.received.length_le
    rw [answered.all.1, List.length_take] at read
    have nothing : x.socket.outgoing.waiting = [] := List.drop_eq_nil_iff.2 (by omega)
    rw [Pipe.room, nothing, List.length_nil]
    omega
  obtain ⟨done, empty⟩ := Supervising.written_of_outbound outbound room
  obtain ⟨found, nothing⟩ := Supervising.read_of_inbound inbound
  have named : ∀ m ∈ sends c (s :: past), MessageKind.ofCode m.kind.code = m.kind :=
    named_of_typed dialogue.typed
  obtain ⟨-, -, small, every⟩ := run.messages here isOpen named answered.kept
    (answered.received.trans (List.take_prefix ..))
  have complete : reader.messages = sends c (s :: past) := every answered.all.1 answered.all.2 done empty
  refine ⟨empty, complete, fun m member => ?_⟩
  have routed := answered.routed ((run.sound c).lane _ (lane_of_connection here)) nothing found
  obtain ⟨command, listed, value, same⟩ := dialogue.typed m member
  rw [← complete] at member
  have fits := small m member
  rw [same] at fits
  obtain ⟨response, replies⟩ : ∃ response, answers.reply? m = some response := by
    rw [same]
    exact ⟨_, Answers.reply?_ask listed fits⟩
  refine ⟨response, ?_, (Answers.reply?_same replies).1⟩
  rw [routed]
  exact List.mem_filterMap.2 ⟨m, answered.every.mem_iff.2 member, replies⟩

theorem Dialogue.silent (h : Dialogue answers c s past) (rest : s.RestsAt c) (here : s.connections[c]? = some x)
    (answered : Answered answers x reader asked) (capacity : 0 < x.socket.outgoing.capacity) :
    (∀ t, s.call? c t = none) ∧ reader.messages = sends c (s :: past) := by
  have dialogue := h.sound.1
  have conversing := h.conversing s List.mem_cons_self x here
  obtain ⟨empty, complete, responses⟩ := rest.answered dialogue h.run conversing here answered capacity
  have room : x.outbox.waiting.length < x.outbox.capacity := by
    have capacity : x.outbox.capacity = max x.settings.outboundQueueCapacity 1 :=
      ((h.run.sound c).lane _ (lane_of_connection here)).capacity
    rw [empty, capacity, List.length_nil]
    omega
  refine ⟨fun t => ?_, complete⟩
  cases calls : s.call? c t with
  | none => rfl
  | some call =>
    have idle := rest.caller dialogue here calls
    cases phase : call.phase with
    | register => simp [Call.next, here, phase] at idle
    | send request slot deadline sending =>
      refine absurd idle (next_ne_nil_of_unlined here phase fun envelope waits => ?_)
      refine rest.nobody_lined dialogue h.run conversing here room t ?_
      rw [station_of_call calls, phase, waits]
      trivial
    | wait request slot deadline =>
      obtain ⟨response, routed, same⟩ :=
        responses request (dialogue.waiting t call request slot deadline calls phase)
      -- The response came while the call waited for it, so it is in its slot and could be taken.
      have came : delivered c request.id (s :: past) ≠ [] := by
        have came := dialogue.awaited response (by
          rw [routed_of_connection here]
          exact routed)
        rwa [same] at came
      have tracked := (h.run.course c).tracked h.distinct (fun former member => ?_) t call (call?_eq_some.1 calls)
      · obtain ⟨e, there, tracks⟩ := tracked.inSlot request slot (by rw [phase]; rfl) (by rw [phase]; rfl)
        cases (exchange_of_connection here).symm.trans there
        change x.exchange.Tracks request.id slot (delivered c request.id (s :: past)) at tracks
        generalize delivered c request.id (s :: past) = messages at tracks came
        cases tracks with
        | waiting | closed => exact absurd rfl came
        | @filled message filled =>
          have filled : x.router.slots[slot]? = some (.filled message) := filled
          simp [Call.next, here, phase, filled] at idle
      · obtain ⟨state, among, rfl⟩ := List.mem_map.1 member
        exact h.sound.2 state (List.mem_cons_of_mem _ among)
    | forget request error =>
      simp only [Call.next, here, phase] at idle
      split at idle <;> cases idle

theorem Dialogue.pendingCount_eq_zero (h : Dialogue answers c s past) (here : s.connections[c]? = some x)
    (silent : ∀ t, s.call? c t = none) : x.router.pendingCount = 0 := by
  cases entries : x.router.pending.entries with
  | nil => exact congrArg List.length entries
  | cons entry rest =>
    have pending : x.router.pending.get? entry.1 = some entry.2 :=
      Assoc.get?_of_mem (by rw [entries]; exact List.mem_cons_self)
    cases (h.run.course c).owned (exchange_of_connection here) pending with
    | @calling t call calls => cases (silent t).symm.trans (call?_eq_some.2 calls)
    | @dropped t former call dropped =>
      cases (h.conversing s List.mem_cons_self x here).typed t _ (aborted_of_dropped dropped)

end System

end Fleetwire
