import Fleetwire.Proofs.Outbound
import Fleetwire.Proofs.Oversize.Calls

namespace Fleetwire

namespace FrameBuffer

variable {buffer after : FrameBuffer} {stream rest : List Arrival} {size limit : Nat}

theorem atEnd_ne_tooLarge (buffer : FrameBuffer) : buffer.atEnd ≠ .error (.frameTooLarge size limit) := by
  unfold atEnd
  split <;> nofun

theorem next?_of_read (h : buffer.read stream = (.error (.frameTooLarge size limit), after, rest)) :
    after.next? = .error (.frameTooLarge size limit) := by
  fun_induction read buffer stream with
  | case1 buffer error found | case4 buffer arrival rest error found =>
    cases h
    exact found
  | case3 buffer | case6 buffer => exact absurd (congrArg Prod.fst h) buffer.atEnd_ne_tooLarge
  | case7 _ _ _ _ _ ih | case9 _ _ _ ih => exact ih h
  | case2 | case5 | case8 => cases h

theorem next?_of_attempt (h : buffer.attempt stream = (some (.error (.frameTooLarge size limit)), after, rest)) :
    after.next? = .error (.frameTooLarge size limit) := by
  have read := read_eq_attempt buffer stream
  rw [h] at read
  exact next?_of_read read

end FrameBuffer

namespace Reader

open FrameBuffer (Answer)

variable {reader : Reader} {envelopes : List Bytes} {whole : Bytes} {size limit : Nat}

theorem received_use (reader : Reader) (u : Use) : reader.received <+: (reader.use u).received := by
  cases u with
  | poll =>
    unfold use
    dsimp only
    split <;> exact List.prefix_append ..
  | extend | read | attempt => exact List.prefix_append ..

theorem mem_answers {answer : Option Answer} {buffer : FrameBuffer} {rest : List Arrival} {told : Answer}
    (member : told ∈ (reader.answered answer buffer rest).answers) : told ∈ reader.answers ∨ answer = some told := by
  rcases List.mem_append.1 member with before | now
  · exact .inl before
  · exact .inr (Option.mem_toList.1 now)

theorem tooLarge_of_use {u : Use} (told : .error (.frameTooLarge size limit) ∈ (reader.use u).answers) :
    .error (.frameTooLarge size limit) ∈ reader.answers ∨
      (reader.use u).buffer.next? = .error (.frameTooLarge size limit) := by
  cases u with
  | extend => exact .inl told
  | poll =>
    unfold use at told ⊢
    dsimp only at told ⊢
    split at told
    next found =>
      refine (mem_answers told).imp_right fun same => ?_
      cases same
      exact found
    · exact (mem_answers told).imp_right nofun
    · exact (mem_answers told).imp_right nofun
  | read =>
    refine (mem_answers told).imp_right fun same => ?_
    exact FrameBuffer.next?_of_read (Prod.ext (Option.some.inj same) rfl)
  | attempt =>
    refine (mem_answers told).imp_right fun same => ?_
    exact FrameBuffer.next?_of_attempt (Prod.ext same rfl)

theorem Kept.next?_ne_error (kept : reader.Kept limit) (written : Written envelopes whole)
    (fits : ∀ envelope ∈ envelopes, envelope.length ≤ limit) (read : reader.received <+: whole) (error : StreamError) :
    reader.buffer.next? ≠ .error error := by
  intro refused
  obtain ⟨length, announced, excess, -⟩ := FrameBuffer.next?_error_iff.1 refused
  rw [kept.bound] at excess
  obtain ⟨more, rfl⟩ := read
  obtain ⟨first, got, received⟩ := kept.split
  have cut : Cut limit (first ++ (reader.buffer.held ++ more)) envelopes [] := by
    refine ⟨⟨_, written, ?_⟩, fits, .short (by decide)⟩
    rw [received, List.append_nil, List.append_assoc]
  obtain ⟨others, -, ⟨frames, following, held⟩, small, -⟩ := cut.behind got kept.fits
  have next := Frame.announced?_append announced more
  rw [held, List.append_nil] at next
  cases following with
  | nil => cases next
  | cons encoded following =>
    rw [Frame.announced?_encode encoded] at next
    cases next
    exact absurd (small _ (List.mem_cons_self ..)) (Nat.not_le.2 excess)

theorem tooLarge_not_mem_run (written : Written envelopes whole)
    (fits : ∀ envelope ∈ envelopes, envelope.length ≤ limit) (stream : List Arrival) (uses : List Use)
    (read : ((ofStream limit stream).run uses).received <+: whole)
    (size most : Nat) :
    .error (.frameTooLarge size most) ∉ ((ofStream limit stream).run uses).answers := by
  induction uses using List.reverseRecOn with
  | nil => exact List.not_mem_nil
  | append_singleton uses u ih =>
    have last : (ofStream limit stream).run (uses ++ [u]) = ((ofStream limit stream).run uses).use u := by
      simp only [run, List.foldl_append, List.foldl_cons, List.foldl_nil]
    have kept := ((kept_ofStream limit stream).run uses).use u
    rw [last] at read ⊢
    intro told
    rcases tooLarge_of_use told with before | now
    · exact ih ((received_use _ u).trans read) before
    · exact kept.next?_ne_error written fits read _ now

end Reader

theorem FramesOf.whole {envelopes : List Bytes} {count : Nat} {bytes : Bytes}
    (frames : FramesOf envelopes count bytes) :
    ∃ complete whole, Written (envelopes.take complete) whole ∧ bytes <+: whole := by
  obtain ⟨whole, part, written, rfl, next⟩ := frames
  rcases next with rfl | ⟨envelope, frame, found, encoded, begins, -⟩
  · exact ⟨count, whole, written, (List.append_nil whole).symm ▸ List.prefix_rfl⟩
  · refine ⟨count + 1, whole ++ frame, ?_, List.prefix_append_right_inj whole |>.2 begins⟩
    rw [List.take_add_one, found, Option.toList_some]
    exact written.concat encoded

namespace System

variable {s s' : System} {past : List System} {c : ConnectionId} {t : TaskId} {x : Connection}

theorem Happening.supervise_origin (founded : s.Founded) (h : s.Happening s') {later : Supervising}
    (now : s'.tasks[t]? = some (.supervise c later)) :
    s.tasks[t]? = some (.supervise c later) ∨ later = .spawned ∨
      ∃ phase s₁, s.tasks[t]? = some (.supervise c phase) ∧ (later, s₁) ∈ phase.next s c t := by
  rcases h.former founded now with ⟨former, found, akin⟩ | ⟨-, newcomer⟩
  · cases akin with
    | @supervise _ phase =>
      cases h with
      | mood => exact .inl now
      | step step =>
        rcases step.task_becomes founded found with kept | ⟨_, _, other, _⟩ | ⟨task', s₁, acted, _, now'⟩
        · cases kept.symm.trans now
          exact .inl found
        · cases other
        · obtain ⟨out, acts, same⟩ := List.mem_map.1 acted
          cases same
          cases now.symm.trans now'
          exact .inr (.inr ⟨phase, _, found, acts⟩)
  · cases newcomer with
    | supervise => exact .inr (.inl rfl)

theorem unsent_of_next {sent : List Message} (sound : x.lane.Sound sent) (here : s.connections[c]? = some x)
    (countable : x.settings.maxFrameSize ≤ Frame.maxLength) {phase : Supervising} {error : StreamError} {s₁ : System}
    (acted : (.leaving (.unsent error), s₁) ∈ phase.next s c t) : ∃ reason, error = .io reason := by
  obtain ⟨x', here', action⟩ := Supervising.action_of_next acted
  cases here.symm.trans here'
  generalize result : (Supervising.leaving (.unsent error), s₁) = out at action
  cases action with
  | reject idle taken unwritable =>
    obtain ⟨found, -⟩ := Outbox.take?_eq_some.1 taken
    exact absurd unwritable (Lane.encodeWithin_ok (sound.fits _ (List.mem_of_getElem? found)) countable _)
  | leave departs =>
    cases result
    cases departs with
    | unwritten => exact ⟨_, rfl⟩
  | unregister =>
    unfold Supervising.unregister at result
    dsimp only at result
    split at result <;> cases result
  | _ => cases result

theorem Streaming.unsent (run : Streaming (s :: past)) (here : s.connections[c]? = some x)
    (countable : x.settings.maxFrameSize ≤ Frame.maxLength) {error : StreamError}
    (found : s.tasks[t]? = some (.supervise c (.leaving (.unsent error)))) : ∃ reason, error = .io reason := by
  induction past generalizing s x with
  | nil => cases run.unconnected.symm.trans here
  | cons before past ih =>
    have founded := run.earlier.basis.1
    have bounded {x₀ : Connection} (was : before.connections[c]? = some x₀) :
        x₀.settings.maxFrameSize ≤ Frame.maxLength := by
      obtain ⟨x', here', limit, -⟩ := run.happening.connection founded was
      cases here.symm.trans here'
      exact limit ▸ countable
    rcases run.happening.supervise_origin founded found with same | new | ⟨phase, s₁, _, acted⟩
    · have inside := founded.tasks _ (List.mem_of_getElem? same) c (List.mem_singleton_self c)
      have was := List.getElem?_eq_getElem inside
      exact ih run.earlier was (bounded was) same
    · cases new
    · obtain ⟨x₀, was, _⟩ := Supervising.action_of_next acted
      exact unsent_of_next ((run.earlier.sound c).lane _ (lane_of_connection was)) was (bounded was) acted

def withoutJob (s : System) (c : ConnectionId) (id : JobId) (line : LogLine) : System :=
  let s := s.update c fun x => { x with router := { x.router with
    jobs := x.router.jobs.erase id, workerLine := x.router.workerLine.leave id } }
  { s with logs := s.logs ++ [line] }

/-- Nobody can send an envelope longer than the connection `x` may send: whoever wants to is told so, and nobody else
notices. -/
structure TurnsAway (s : System) (c : ConnectionId) (x : Connection) : Prop where
  stations : ∀ (t : TaskId) (message : Message) (phase : Sending), (s.flow c).station t = .sending message phase →
    x.settings.maxFrameSize < message.encode.length → phase = .check
  sends : ∀ (t : TaskId) (message : Message), x.settings.maxFrameSize < message.encode.length →
    Sending.check.next s c t message = [(.ended (.error (.tooLarge message.encode.length x.settings.maxFrameSize)), s)]
  operations : ∀ (t : TaskId) (message : Message), x.settings.maxFrameSize < message.encode.length →
    Operating.next s c t (.sending message .check) =
      [(.finished (.error (.tooLarge message.encode.length x.settings.maxFrameSize)), s)]
  notices : ∀ (t : TaskId) (kind : MessageKind) (payload : Bytes), Operating.next s c t (.notifying kind payload) =
    [(.sending (.request (.fresh s.nextId) kind payload) .check, { s with nextId := s.nextId + 1 })]
  replies : ∀ (t : TaskId) (id : JobId) (job : Job) (left : List Action) (answer : Message),
    x.router.jobs.get? id = some job → x.settings.maxFrameSize < answer.encode.length →
    Handling.next s c t id (.acting left (.sending answer .check)) = [(.finished,
      s.withoutJob c id (Router.handlerFailed job.message.kind
        [(LinkError.tooLarge answer.encode.length x.settings.maxFrameSize).message]))]
  calls : ∀ (t : TaskId) (call : Call), s.call? c t = some call → x.settings.maxFrameSize < call.size →
    call.Overlong x.settings.maxFrameSize call.phase ∧ ∃ progress s', s.Rebuffs c t x call progress s'
  fresh : Traffic.Distinct (s.nextId + 1) → s.pending? c (.fresh s.nextId) = none

theorem fail_eq_withoutJob (here : s.connections[c]? = some x) {id : JobId} {job : Job}
    (known : x.router.jobs.get? id = some job) (error : String) :
    Handling.fail s c x id error = (.finished, s.withoutJob c id (Router.handlerFailed job.message.kind [error])) := by
  have ends : x.router.finish id (.failed [error]) = ([Router.handlerFailed job.message.kind [error]],
      { x.router with jobs := x.router.jobs.erase id, workerLine := x.router.workerLine.leave id }) := by
    simp only [Router.finish, known]
  have changed : s.update c (fun y => { y with router := (x.router.finish id (.failed [error])).2 }) =
      s.update c fun y => { y with router := { y.router with
        jobs := y.router.jobs.erase id, workerLine := y.router.workerLine.leave id } } :=
    update_congr here (by rw [ends])
  rw [Handling.fail, Handling.finish]
  dsimp only
  rw [changed, ends]
  rfl

theorem reply_of_overlong (here : s.connections[c]? = some x) (isOpen : x.closed = false) (t : TaskId) {id : JobId}
    {job : Job} (known : x.router.jobs.get? id = some job) (left : List Action) {answer : Message}
    (long : x.settings.maxFrameSize < answer.encode.length) :
    Handling.next s c t id (.acting left (.sending answer .check)) = [(.finished,
      s.withoutJob c id (Router.handlerFailed job.message.kind
        [(LinkError.tooLarge answer.encode.length x.settings.maxFrameSize).message]))] := by
  simp only [Handling.next, here, known, Handling.carryOn, sending_of_overlong here isOpen t long, List.map_cons,
    List.map_nil, fail_eq_withoutJob here known]

theorem Streaming.turnsAway (run : Streaming (s :: past)) (here : s.connections[c]? = some x)
    (isOpen : x.closed = false) : s.TurnsAway c x where
  stations t message phase sends long := by
    have fits := (run.sound c).fits _ t message phase (lane_of_connection here) sends
    cases phase with
    | check => rfl
    | queue | wait =>
      obtain ⟨rfl, small⟩ := fits
      exact absurd long (Nat.not_lt.2 small)
  sends t message long := sending_of_overlong here isOpen t long
  operations t message long := by
    simp only [Operating.next, sending_of_overlong here isOpen t long, List.map_cons, List.map_nil]
    rfl
  notices t kind payload := rfl
  replies t id job left answer known long := reply_of_overlong here isOpen t known left long
  calls t call calls long := by
    rcases run.overlong here calls long with overlong | ⟨closed, _⟩
    · exact ⟨overlong, rebuffs run.linedUp here calls long overlong fun _ _ => isOpen⟩
    · rw [isOpen] at closed
      cases closed
  fresh := pending?_fresh (run.course c)

/-- A message that is too long for its connection does harm to nobody but its sender. All envelopes in the queue are
within the limit, so that with valid settings each of them has a frame, the writer stops for no other reason than that
the socket failed, and a peer with the same limit never hears of a frame that is too large. On a connection that is not
closed, to send such a message comes to an error with its size and to nothing else. -/
theorem oversize_stays_with_sender (run : Streaming (s :: past)) (here : s.connections[c]? = some x)
    (valid : x.settings.validate = .ok ()) :
    (∀ envelope ∈ x.outbox.accepted, envelope.length ≤ x.settings.maxFrameSize ∧
      ∃ frame, Frame.encodeWithin x.settings.maxFrameSize envelope = .ok frame) ∧
    (∀ (t : TaskId) error, s.tasks[t]? = some (.supervise c (.leaving (.unsent error))) →
      ∃ reason, error = .io reason) ∧
    (∀ stream uses peer, peer = (Reader.ofStream x.settings.maxFrameSize stream).run uses →
      peer.received <+: x.socket.outgoing.sent → ∀ size limit, .error (.frameTooLarge size limit) ∉ peer.answers) ∧
    (x.closed = false → s.TurnsAway c x) := by
  have sound := (run.sound c).lane _ (lane_of_connection here)
  have countable := maxFrameSize_of_validate valid
  refine ⟨fun envelope member => ?_, fun t error => run.unsent here countable, fun stream uses peer reads read => ?_,
    run.turnsAway here⟩
  · have fits : envelope.length ≤ x.settings.maxFrameSize := sound.fits envelope member
    refine ⟨fits, ?_⟩
    cases encoded : Frame.encodeWithin x.settings.maxFrameSize envelope with
    | error error => exact absurd encoded (Lane.encodeWithin_ok fits countable error)
    | ok frame => exact ⟨frame, rfl⟩
  · obtain ⟨count, part, writes⟩ := sound.writes countable
    obtain ⟨complete, whole, written, begins⟩ := writes.framesOf.whole
    subst reads
    have fits : ∀ envelope ∈ x.lane.accepted.take complete, envelope.length ≤ x.settings.maxFrameSize :=
      fun envelope member => sound.fits envelope (List.mem_of_mem_take member)
    exact Reader.tooLarge_not_mem_run written fits stream uses (read.trans begins)

def longQuestion : Call where
  kind := .heartbeat
  payload := .replicate 200 0
  timeout := .ofSeconds 0

/-- An agent to which no more than 128 bytes may be sent at a time is asked who it is, and then something longer. -/
def crowding : List Choice :=
  [.react (.takeOver (.v4 10 0 0 1 4000) { maxFrameSize := 128 } (.ofCapacity 1024 none none) true), .act 1 0] ++
    .replicate 4 (.act 0 0) ++ .replicate 2 (.act 1 0) ++
    [.react (.operate 0 (.calling none longQuestion)), .act 2 0]

theorem oversize_stays_with_sender_of_long_question :
    let s := (replay {} [] crowding).1
    ∃ x call, s.connections[0]? = some x ∧ x.settings.validate = .ok () ∧ x.closed = false ∧
      s.call? 0 2 = some call ∧ x.settings.maxFrameSize < call.size ∧
      x.router.pendingCount = 2 ∧ x.outbox.accepted ≠ [] ∧
      (∀ envelope ∈ x.outbox.accepted, envelope.length ≤ 128) ∧
      call.Overlong 128 call.phase ∧ (∃ progress s', s.Rebuffs 0 2 x call progress s') ∧
      Sending.check.next s 0 3 (.request (.fresh 2) .heartbeat (.replicate 200 0)) =
        [(.ended (.error (.tooLarge 260 128)), s)] := by
  have start : Streaming [{}] := .start initial_empty fun _ member => nomatch member
  have run := streaming_replay start crowding (by decide +kernel)
  have state : ((replay {} [] crowding).1.connections[0]?).any fun x => x.settings.validate = .ok () &&
      x.closed = false && x.settings.maxFrameSize = 128 && x.router.pendingCount = 2 &&
      !x.outbox.accepted.isEmpty := by decide +kernel
  have called : ((replay {} [] crowding).1.call? 0 2).any fun call => 128 < call.size := by decide +kernel
  have length : (Message.request (.fresh 2) .heartbeat (.replicate 200 0)).encode.length = 260 := by decide +kernel
  dsimp only
  -- The run is not looked into any more.
  generalize (replay {} [] crowding).1 = s at *
  generalize (replay {} [] crowding).2 = past at *
  obtain ⟨x, here, facts⟩ := (Option.any_eq_true _ _).1 state
  simp only [Bool.and_eq_true, decide_eq_true_eq] at facts
  obtain ⟨⟨⟨⟨valid, isOpen⟩, limit⟩, pending⟩, queued⟩ := facts
  obtain ⟨call, calls, long⟩ := (Option.any_eq_true _ _).1 called
  have long : x.settings.maxFrameSize < call.size := limit ▸ of_decide_eq_true long
  obtain ⟨fits, -, -, turnsAway⟩ := oversize_stays_with_sender run here valid
  have away := turnsAway isOpen
  obtain ⟨overlong, rebuffs⟩ := away.calls 2 call calls long
  have sends := away.sends 3 (.request (.fresh 2) .heartbeat (.replicate 200 0)) (by rw [length, limit]; decide)
  rw [limit] at overlong fits
  rw [length, limit] at sends
  exact ⟨x, call, here, valid, isOpen, calls, long, pending, by simpa using queued, fun envelope member =>
    (fits envelope member).1, overlong, rebuffs, sends⟩

end System

end Fleetwire
