import Fleetwire.Proofs.Replay
import Fleetwire.Proofs.Traffic.Simulation
import Fleetwire.Proofs.Traffic.Tracking

namespace Fleetwire

def Task.call? (c : ConnectionId) (task : Task) : Option Call :=
  match task.part c with
  | .calling call => some call
  | _ => none

theorem Task.call?_eq_some {c : ConnectionId} {task : Task} {call : Call} :
    task.call? c = some call ↔ task.part c = .calling call := by
  unfold Task.call?
  cases task.part c <;> simp

theorem Task.call?_cases {c : ConnectionId} {task : Task} {call : Call} (calls : task.call? c = some call) :
    task = .accept c (.handshake call) ∨ (∃ job left, task = .handle c job (.acting left (.relaying call))) ∨
      ∃ shape, task = .operate c (.calling shape call) := by
  have closes (phase : Closing) : phase.part ≠ .calling call := by cases phase <;> exact nofun
  rw [Task.call?_eq_some] at calls
  cases task with
  | accept own phase =>
    cases phase with
    | handshake made =>
      simp only [Task.part, Accepting.part] at calls
      split at calls
      next same =>
        cases calls
        exact .inl (same ▸ rfl)
      · cases calls
    | refuse error phase | replace old phase =>
      simp only [Task.part, Accepting.part] at calls
      split at calls
      · exact absurd calls (closes phase)
      · cases calls
    | _ => cases calls
  | supervise own phase =>
    simp only [Task.part] at calls
    split at calls
    · cases phase <;> cases calls
    · cases calls
  | handle own job phase =>
    simp only [Task.part] at calls
    split at calls
    next same =>
      cases phase with
      | acting left doing =>
        cases doing with
        | relaying made =>
          cases calls
          exact .inr (.inl ⟨job, left, same ▸ rfl⟩)
        | closing phase => exact absurd calls (closes phase)
        | _ => cases calls
      | _ => cases calls
    · cases calls
  | operate own phase =>
    simp only [Task.part] at calls
    split at calls
    next same =>
      cases phase with
      | calling shape made =>
        cases calls
        exact .inr (.inr ⟨shape, same ▸ rfl⟩)
      | closing phase => exact absurd calls (closes phase)
      | _ => cases calls
    · cases calls
  | listen phase =>
    cases phase with
    | closing agents phase =>
      cases agents with
      | nil => cases calls
      | cons agent agents =>
        simp only [Task.part, Listening.part] at calls
        split at calls
        · exact absurd calls (closes phase)
        · cases calls
    | _ => cases calls

theorem Calling.Act.rank_lt {now n n' : Nat} {e e' : Exchange} {call : Call} {phase later : Calling}
    (act : Calling.Act now n e call phase (.going later) n' e') : later.rank < phase.rank := by
  generalize goesOn : Progress.going later = progress at act
  cases act with
  | goOn _ _ nearer =>
    cases goesOn
    exact nearer
  | register | expireWaiting | lose =>
    cases goesOn
    exact Nat.lt_succ_self _
  | @sent _ _ _ phase | @fail _ _ _ phase | @expire _ _ _ phase =>
    cases goesOn
    cases phase <;> simp [Calling.rank]
  | answer | forget => cases goesOn

namespace System

def call? (s : System) (c : ConnectionId) (t : TaskId) : Option Call := (s.tasks[t]?).bind (Task.call? c)

/-- The messages that came on a connection to the call with an id while it waited. -/
def delivered (c : ConnectionId) (id : MessageId) (states : List System) : List Message :=
  Traffic.delivered id (states.map (traffic c))

/-- Nobody has answered a request on the connection that has not gone out. -/
def Unforeseen (s : System) (c : ConnectionId) : Prop :=
  ∀ task ∈ s.tasks, ∀ call ∈ task.call? c, ∀ request ∈ call.phase.sending?, ∀ x ∈ s.connections[c]?,
    ∀ message ∈ x.routed, message.id ≠ request.id

instance (s : System) (c : ConnectionId) : Decidable (s.Unforeseen c) := by
  unfold Unforeseen
  infer_instance

structure Returned (s : System) (past : List System) (c : ConnectionId) (t : TaskId) (x : Connection)
    (call : Call) (request : Message) (result : Except LinkError Bytes) : Prop where
  own : request = .request request.id call.kind call.payload
  ok : ∀ payload, result = .ok payload ↔ ∃ response,
    (delivered c request.id (s :: past)).head? = some response ∧ response.status = .success ∧
      response.payload = payload
  remote : (∃ kind text, result = .error (.remote kind text)) ↔ ∃ response,
    (delivered c request.id (s :: past)).head? = some response ∧ response.status = .failure
  text : ∀ kind text, result = .error (.remote kind text) → text ≠ ""
  timeout : ∀ after, result = .error (.timeout after) → delivered c request.id (s :: past) = [] ∧
    after = call.timeout ∧ ∃ start ∈ past, start.call? c t = some { call with phase := .register } ∧
      start.now + call.timeout.nanoseconds ≤ s.now
  disconnected : result = .error .disconnected → x.closed ∨ x.halted ∨ x.outbox.isOpen = false
  protocol : ∀ error, result = .error (.stream error) →
    error = .frameTooLarge request.encode.length x.settings.maxFrameSize ∧
      x.settings.maxFrameSize < request.encode.length
  others : ∀ error, result = .error error → (∃ kind text, error = .remote kind text) ∨
    (∃ after, error = .timeout after) ∨ error = .disconnected ∨ ∃ cause, error = .stream cause

variable {s s' : System} {past : List System} {c : ConnectionId} {t : TaskId} {call : Call} {x : Connection}
  {request response : Message}

theorem call?_eq_some : s.call? c t = some call ↔ (s.traffic c).part t = .calling call := by
  unfold call? traffic
  dsimp only
  cases s.tasks[t]? with
  | none => exact ⟨fun h => (nomatch h), fun h => (nomatch h)⟩
  | some task => exact Task.call?_eq_some

theorem Unforeseen.traffic (h : s.Unforeseen c) : (s.traffic c).Unforeseen := by
  intro t call request calls sending message routed
  have made : s.call? c t = some call := call?_eq_some.2 calls
  obtain ⟨task, found, makes⟩ := Option.bind_eq_some_iff.1 made
  unfold Traffic.routed System.traffic at routed
  dsimp only at routed
  cases here : s.connections[c]? with
  | none =>
    rw [here] at routed
    cases routed
  | some x =>
    rw [here] at routed
    exact h task (List.mem_of_getElem? found) call makes request sending x here message routed

theorem outcome_ok_iff {payload : Bytes} :
    Call.outcome response = .ok payload ↔ response.status = .success ∧ response.payload = payload := by
  unfold Call.outcome Message.result Message.isFailure
  cases response.status <;> simp

theorem outcome_remote_iff :
    (∃ kind text, Call.outcome response = .error (.remote kind text)) ↔ response.status = .failure := by
  unfold Call.outcome Message.result Message.isFailure
  cases response.status <;> simp

theorem outcome_text {kind : MessageKind} {text : String}
    (h : Call.outcome response = .error (.remote kind text)) : text ≠ "" := by
  unfold Call.outcome Message.result at h
  split at h
  · cases h
  next failed =>
    split at failed
    next fails =>
      cases failed
      cases h
      unfold Message.errorText
      split
      · decide
      next named =>
        intro empty
        exact named ⟨fails, by simp [empty]⟩
    · cases failed

theorem outcome_remote {error : LinkError} (h : Call.outcome response = .error error) :
    ∃ kind text, error = .remote kind text := by
  unfold Call.outcome at h
  split at h
  · cases h
  · cases h
    exact ⟨_, _, rfl⟩

theorem returned_of_answer (own : request = .request request.id call.kind call.payload)
    (came : delivered c request.id (s :: past) = [response]) :
    Returned s past c t x call request (Call.outcome response) where
  own
  ok payload := by simp [came, outcome_ok_iff]
  remote := by simp [came, outcome_remote_iff]
  text kind text := outcome_text
  timeout after late := by
    obtain ⟨kind, text, remote⟩ := outcome_remote late
    cases remote
  disconnected gone := by
    obtain ⟨kind, text, remote⟩ := outcome_remote gone
    cases remote
  protocol error failed := by
    obtain ⟨kind, text, remote⟩ := outcome_remote failed
    cases remote
  others error failed := .inl (outcome_remote failed)

theorem returned_of_failure {error : LinkError} (own : request = .request request.id call.kind call.payload)
    (nothing : delivered c request.id (s :: past) = []) (named : call.phase.request? ≠ none)
    (calls : (s.traffic c).part t = .calling call)
    (fails : Traffic.Fails ((s :: past).map (traffic c)) s.now t call x.exchange request error) :
    Returned s past c t x call request (.error error) := by
  have silent : ∀ {P : Message → Prop}, ¬ ∃ response,
      (delivered c request.id (s :: past)).head? = some response ∧ P response := by
    rintro P ⟨response, came, _⟩
    rw [nothing] at came
    cases came
  have late : ∀ {start : Traffic}, Traffic.Began ((s :: past).map (traffic c)) t call start →
      ∃ former ∈ past, former.call? c t = some { call with phase := .register } ∧
        former.now = start.now := by
    rintro start ⟨member, began⟩
    obtain ⟨former, among, rfl⟩ := List.mem_map.1 member
    refine ⟨former, ?_, call?_eq_some.2 began, rfl⟩
    rcases List.mem_cons.1 among with rfl | earlier
    · rw [calls] at began
      have same : call = { call with phase := .register } := Part.calling.inj began
      rw [same] at named
      exact absurd rfl named
    · exact earlier
  have failure : ∀ kind text, error ≠ .remote kind text := by
    rintro kind text rfl
    cases fails with
    | refused why => cases why
  exact {
    own
    ok payload := ⟨fun done => (nomatch done), fun came => absurd came silent⟩
    remote := by
      refine ⟨?_, fun came => absurd came silent⟩
      rintro ⟨kind, text, failed⟩
      exact absurd (Except.error.inj failed) (failure kind text)
    text kind text failed := absurd (Except.error.inj failed) (failure kind text)
    timeout after failed := by
      cases failed
      cases fails with
      | refused why => cases why
      | late began due =>
        obtain ⟨former, earlier, registers, time⟩ := late began
        exact ⟨nothing, rfl, former, earlier, registers, time ▸ due⟩
    disconnected failed := by
      cases failed
      cases fails with
      | refused why =>
        cases why with
        | ending ending => exact ending
    protocol cause failed := by
      cases failed
      cases fails with
      | refused why =>
        cases why with
        | tooLong long => exact ⟨rfl, long⟩
    others error' failed := by
      cases failed
      cases fails with
      | refused why =>
        cases why with
        | ending => exact .inr (.inr (.inl rfl))
        | tooLong => exact .inr (.inr (.inr ⟨_, rfl⟩))
      | late => exact .inr (.inl ⟨_, rfl⟩) }

theorem next_of_delivered (unforeseen : s.Unforeseen c) (calls : (s.traffic c).part t = .calling call)
    (tracked : Traffic.Tracked ((s :: past).map (traffic c)) (s.traffic c) t call)
    (requested : call.phase.request? = some request)
    (came : (delivered c request.id (s :: past)).head? = some response) :
    call.next s c t = [(.ended (Call.outcome response), s)] := by
  obtain ⟨kind, payload, timeout, phase⟩ := call
  have nothing : delivered c request.id (s :: past) ≠ [] := fun none => by
    rw [none] at came
    cases came
  cases phase with
  | register => cases requested
  | send other slot deadline phase =>
    cases requested
    obtain ⟨e, here, tracks⟩ := tracked.inSlot request slot rfl rfl
    have unfilled := tracked.unfilled unforeseen.traffic calls here
    change e.Tracks request.id slot (delivered c request.id (s :: past)) at tracks
    generalize delivered c request.id (s :: past) = messages at tracks nothing
    cases tracks with
    | waiting | closed => exact absurd rfl nothing
    | filled filled => exact absurd filled (unfilled _)
  | wait other slot deadline =>
    cases requested
    obtain ⟨e, here, tracks⟩ := tracked.inSlot request slot rfl rfl
    change e.Tracks request.id slot (delivered c request.id (s :: past)) at tracks
    generalize delivered c request.id (s :: past) = messages at tracks nothing came
    cases tracks with
    | waiting | closed => exact absurd rfl nothing
    | filled filled =>
      cases came
      obtain ⟨x, found, rfl⟩ := Option.map_eq_some_iff.1 here
      simp only [Call.next, found]
      rw [show x.router.slots[slot]? = some (.filled response) from filled]
  | forget other error =>
    cases requested
    obtain ⟨_, _, _, none, _⟩ := tracked.forgotten request error rfl
    exact absurd none nothing

theorem returned_of_next {result : Except LinkError Bytes} (found : s.connections[c]? = some x)
    (named : (s.traffic c).Named) (calls : (s.traffic c).part t = .calling call)
    (tracked : Traffic.Tracked ((s :: past).map (traffic c)) (s.traffic c) t call)
    (h : (.ended result, s') ∈ call.next s c t) :
    ∃ request, call.phase.request? = some request ∧ Returned s past c t x call request result := by
  obtain ⟨n, f, _, act, _⟩ := Call.next_comes found h
  have own : ∀ request, call.phase.request? = some request →
      request = .request request.id call.kind call.payload := by
    intro request requested
    obtain ⟨k, _, rfl⟩ := named.request t call request calls requested
    rfl
  have here := exchange_of_connection found
  generalize ended : Progress.ended result = progress at act
  generalize (f x).exchange = after at act
  obtain ⟨kind, payload, timeout, phase⟩ := call
  cases act with
  | @answer request slot deadline response filled =>
    cases ended
    obtain ⟨e, here', tracks⟩ := tracked.inSlot request slot rfl rfl
    cases here.symm.trans here'
    refine ⟨request, rfl, returned_of_answer (own request rfl) ?_⟩
    change Exchange.Tracks _ request.id slot (delivered c request.id (s :: past)) at tracks
    generalize delivered c request.id (s :: past) = messages at tracks
    cases tracks with
    | waiting isOpen => cases filled.symm.trans isOpen.waits
    | closed isClosed => cases filled.symm.trans isClosed
    | filled filled' => cases filled.symm.trans filled'; rfl
  | @forget request error =>
    cases ended
    obtain ⟨e, here', _, nothing, fails⟩ := tracked.forgotten request error rfl
    cases here.symm.trans here'
    exact ⟨request, rfl, returned_of_failure (own request rfl) nothing (Option.some_ne_none _) calls fails⟩
  | register | goOn | sent | fail | expire | expireWaiting | lose => cases ended

/-- While no request is answered before it goes out, a call returns what the first message says that came to it;
it fails otherwise only when its time is over, the connection ends or the request is too long. Once the calls of
the connection have failed, each of them ends with a few actions that wait for nothing. -/
theorem calls_return_what_came {s : System} {past : List System} {c : ConnectionId} {t : TaskId} {call : Call}
    (run : Run Genuine (s :: past)) (distinct : Traffic.Distinct s.nextId)
    (unforeseen : ∀ former ∈ s :: past, former.Unforeseen c) (calls : s.call? c t = some call) :
    (∀ request response, call.phase.request? = some request →
      (delivered c request.id (s :: past)).head? = some response →
      call.next s c t = [(.ended (Call.outcome response), s)]) ∧
    (∀ result s', (.ended result, s') ∈ call.next s c t → ∃ request x,
      call.phase.request? = some request ∧ s.connections[c]? = some x ∧
        Returned s past c t x call request result) ∧
    ((∃ former ∈ s :: past, (former.traffic c).Fallen) → call.next s c t ≠ [] ∧
      ∀ phase s', (.going phase, s') ∈ call.next s c t → phase.rank < call.phase.rank) := by
  have course := run.course c
  rw [List.map_cons] at course
  have before : ∀ former ∈ past.map (traffic c), former.Unforeseen := by
    intro former member
    obtain ⟨state, among, rfl⟩ := List.mem_map.1 member
    exact (unforeseen state (List.mem_cons_of_mem _ among)).traffic
  have has := call?_eq_some.1 calls
  have tracked := course.tracked distinct before t call has
  have named := (course.named distinct _ (List.mem_cons_self ..)).1
  refine ⟨fun request response requested came => ?_, fun result s' ended => ?_, fun fallen => ⟨?_, ?_⟩⟩
  · exact next_of_delivered (unforeseen s (List.mem_cons_self ..)) has tracked requested came
  · cases found : s.connections[c]? with
    | none =>
      simp only [Call.next, found] at ended
      cases ended
    | some x =>
      obtain ⟨request, requested, returned⟩ := returned_of_next found named has tracked ended
      exact ⟨request, x, requested, rfl, returned⟩
  · have fallen' : ∃ former ∈ s.traffic c :: past.map (traffic c), former.Fallen := by
      obtain ⟨former, member, falls⟩ := fallen
      exact ⟨former.traffic c, List.mem_map_of_mem (f := traffic c) member, falls⟩
    obtain ⟨e, here, settled⟩ := course.settled distinct before fallen'
    obtain ⟨x, found, rfl⟩ := Option.map_eq_some_iff.1 here
    exact Call.next_ne_nil found settled.halted fun slot held => settled.slots t call slot has held
  · intro phase s' goesOn
    cases found : s.connections[c]? with
    | none =>
      simp only [Call.next, found] at goesOn
      cases goesOn
    | some x =>
      obtain ⟨n, f, _, act, _⟩ := Call.next_comes found goesOn
      exact act.rank_lt

def question (n slot : Nat) : Call where
  kind := .heartbeat
  payload := Message.emptyPayload
  timeout := .ofSeconds 30
  phase := .wait (.request (.fresh n) .heartbeat Message.emptyPayload) slot (Duration.ofSeconds 30).nanoseconds

/-- An agent is asked two questions, answers the first of them and hangs up. Its supervisor fails the calls. -/
def hangup : List Choice :=
  let question : Operating := .calling none { question 0 0 with phase := .register }
  let answer := (Message.request (.fresh 1) .heartbeat Message.emptyPayload).reply [1, 2]
  admission 0 (.v4 10 0 0 1 4000) .evict "host" ++ .replicate 2 (.react (.operate 0 question)) ++
    .replicate 4 (.act 2 0) ++ .replicate 4 (.act 3 0) ++
    .react (.peerWrites 0 ((Frame.encode answer.encode).toOption.getD [])) :: .replicate 2 (.act 1 0) ++
    .react (.peerEnds 0) :: .replicate 5 (.act 1 0)

theorem calls_return_after_hangup :
    let s := (replay {} [] hangup).1
    let past := (replay {} [] hangup).2
    (delivered 0 (.fresh 1) (s :: past)).length = 1 ∧
    (question 1 1).next s 0 2 = [(.ended (.ok [1, 2]), s)] ∧
    (s.traffic 0).Fallen ∧ (question 2 2).next s 0 3 ≠ [] ∧
    (∀ phase s', (.going phase, s') ∈ (question 2 2).next s 0 3 → phase.rank < (question 2 2).phase.rank) ∧
    (∀ result s', (.ended result, s') ∈ (question 1 1).next s 0 2 → ∃ request x,
      (question 1 1).phase.request? = some request ∧ s.connections[0]? = some x ∧
        Returned s past 0 2 x (question 1 1) request result) := by
  have run : Run Genuine _ := (run_replay_empty hangup).mono fun _ _ => Ordinary.genuine
  have distinct : Traffic.Distinct (replay {} [] hangup).1.nextId :=
    Traffic.distinct_of_le (by decide +kernel)
  have unforeseen : ∀ former ∈ (replay {} [] hangup).1 :: (replay {} [] hangup).2, former.Unforeseen 0 := by
    decide +kernel
  have fallen : ((replay {} [] hangup).1.traffic 0).Fallen :=
    .inr ⟨1, by decide +kernel⟩
  have first : (replay {} [] hangup).1.call? 0 2 = some (question 1 1) := by decide +kernel
  have second : (replay {} [] hangup).1.call? 0 3 = some (question 2 2) := by decide +kernel
  obtain ⟨answered, returns, _⟩ := calls_return_what_came run distinct unforeseen first
  obtain ⟨_, _, ends⟩ := calls_return_what_came run distinct unforeseen second
  obtain ⟨able, nearer⟩ := ends ⟨_, List.mem_cons_self .., fallen⟩
  refine ⟨by decide +kernel, ?_, fallen, able, nearer, returns⟩
  exact answered (.request (.fresh 1) .heartbeat Message.emptyPayload)
    ((Message.request (.fresh 1) .heartbeat Message.emptyPayload).reply [1, 2]) rfl (by decide +kernel)

end System

end Fleetwire
