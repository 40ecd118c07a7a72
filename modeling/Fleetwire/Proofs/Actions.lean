import Fleetwire.System.Accepting
import Fleetwire.System.Handling
import Fleetwire.System.Supervising

namespace Fleetwire

namespace Sending

variable {s : System} {c : ConnectionId} {t : TaskId} {message : Message} {phase : Sending}
  {out : Progress Sending (Except LinkError Unit) × System}

inductive Action (s : System) (c : ConnectionId) (t : TaskId) (message : Message) :
    Sending → Progress Sending (Except LinkError Unit) × System → Prop where
  | closed {x : Connection} (here : s.connections[c]? = some x) (closed : x.closed) :
    Action s c t message .check (.ended (.error .disconnected), s)
  | tooLarge {x : Connection} (here : s.connections[c]? = some x)
    (large : x.settings.maxFrameSize < message.encode.length) : Action s c t message .check
      (.ended (.error (.stream (.frameTooLarge message.encode.length x.settings.maxFrameSize))), s)
  | check {x : Connection} (here : s.connections[c]? = some x) (isOpen : x.closed = false)
    (small : message.encode.length ≤ x.settings.maxFrameSize) :
    Action s c t message .check (.going (.queue message.encode), s)
  | queue {envelope : Bytes} : Action s c t message (.queue envelope)
      (.going (.wait envelope), s.update c fun x => { x with outbox := x.outbox.join t })
  | accept {x : Connection} {envelope : Bytes} (here : s.connections[c]? = some x) (isOpen : x.outbox.isOpen)
    (room : x.outbox.hasRoomFor t) : Action s c t message (.wait envelope)
      (.ended (.ok ()), s.update c fun x => { x with outbox := x.outbox.accept t envelope })
  | giveUp {x : Connection} {envelope : Bytes} (here : s.connections[c]? = some x)
    (gone : x.outbox.isOpen = false ∨ x.halted) : Action s c t message (.wait envelope)
      (.ended (.error .disconnected), s.update c fun x => { x with outbox := x.outbox.leave t })

theorem action_of_next (h : out ∈ phase.next s c t message) : Action s c t message phase out := by
  cases phase with
  | check =>
    simp only [next] at h
    split at h
    · cases h
    next x here =>
      split at h
      next closed =>
        rw [List.mem_singleton.1 h]
        exact .closed here closed
      next isOpen =>
        split at h
        next large =>
          rw [List.mem_singleton.1 h]
          exact .tooLarge here large
        next small =>
          rw [List.mem_singleton.1 h]
          exact .check here (Bool.eq_false_iff.2 isOpen) (Nat.not_lt.1 small)
  | queue envelope =>
    rw [List.mem_singleton.1 h]
    exact .queue
  | wait envelope =>
    simp only [next] at h
    split at h
    · cases h
    next x here =>
      split at h
      next gone =>
        rw [List.mem_singleton.1 h]
        exact .giveUp here (.inl (by simpa using gone))
      next isOpen =>
        rcases List.mem_append.1 h with sent | gaveUp
        · split at sent
          next room =>
            rw [List.mem_singleton.1 sent]
            exact .accept here (by simpa using isOpen) room
          · cases sent
        · split at gaveUp
          next halted =>
            rw [List.mem_singleton.1 gaveUp]
            exact .giveUp here (.inr halted)
          · cases gaveUp

end Sending

namespace Call

variable {s : System} {c : ConnectionId} {t : TaskId} {call : Call}
  {out : Progress Calling (Except LinkError Bytes) × System}

/-- All that a caller over the connection `x` can do. -/
inductive Action (s : System) (c : ConnectionId) (t : TaskId) (x : Connection) (call : Call) :
    Progress Calling (Except LinkError Bytes) × System → Prop where
  | register (current : call.phase = .register) : Action s c t x call
      (.going (.send (.request (.fresh s.nextId) call.kind call.payload) (x.router.expect (.fresh s.nextId)).1
        (s.now + call.timeout.nanoseconds) .check),
      { s.update c (fun y => { y with router := (x.router.expect (.fresh s.nextId)).2 }) with nextId := s.nextId + 1 })
  | send {request : Message} {slot : SlotId} {deadline : Nat} {phase later : Sending} {s₁ : System}
    (current : call.phase = .send request slot deadline phase)
    (sends : (.going later, s₁) ∈ phase.next s c t request) :
    Action s c t x call (.going (.send request slot deadline later), s₁)
  | sent {request : Message} {slot : SlotId} {deadline : Nat} {phase : Sending} {s₁ : System}
    (current : call.phase = .send request slot deadline phase)
    (sends : (.ended (.ok ()), s₁) ∈ phase.next s c t request) :
    Action s c t x call (.going (.wait request slot deadline), s₁)
  | unsent {request : Message} {slot : SlotId} {deadline : Nat} {phase : Sending} {error : LinkError} {s₁ : System}
    (current : call.phase = .send request slot deadline phase)
    (sends : (.ended (.error error), s₁) ∈ phase.next s c t request) :
    Action s c t x call (.going (.forget request error), giveUp s₁ c t slot)
  | expire {request : Message} {slot : SlotId} {deadline : Nat} {phase : Sending}
    (current : call.phase = .send request slot deadline phase) (due : deadline ≤ s.now) :
    Action s c t x call (.going (.forget request (.timeout call.timeout)), giveUp s c t slot)
  | expireWaiting {request : Message} {slot : SlotId} {deadline : Nat}
    (current : call.phase = .wait request slot deadline) (waiting : x.router.slots[slot]? = some .waiting)
    (due : deadline ≤ s.now) :
    Action s c t x call (.going (.forget request (.timeout call.timeout)), giveUp s c t slot)
  | answer {request response : Message} {slot : SlotId} {deadline : Nat}
    (current : call.phase = .wait request slot deadline) (filled : x.router.slots[slot]? = some (.filled response)) :
    Action s c t x call (.ended (outcome response), s)
  | lose {request : Message} {slot : SlotId} {deadline : Nat} (current : call.phase = .wait request slot deadline)
    (unfilled : ∀ response, x.router.slots[slot]? ≠ some (.filled response))
    (settled : x.router.slots[slot]? ≠ some .waiting) :
    Action s c t x call (.going (.forget request .disconnected), s)
  | forget {request : Message} {error : LinkError} (current : call.phase = .forget request error)
    (timely : ∀ after, error ≠ .timeout after) : Action s c t x call
      (.ended (.error error), s.update c fun x => { x with router := (x.router.cancel request.id).2 })
  | forgetLate {request : Message} {after : Duration} (current : call.phase = .forget request (.timeout after)) :
    Action s c t x call (.ended (.error (.timeout after)),
      let s := s.update c fun x => { x with router := (x.router.cancel request.id).2 }
      { s with logs := s.logs ++ [timedOut x request after] })

theorem action_of_next (h : out ∈ call.next s c t) : ∃ x, s.connections[c]? = some x ∧ Action s c t x call out := by
  unfold next at h
  split at h
  · cases h
  next x here =>
    refine ⟨x, here, ?_⟩
    split at h
    next current =>
      rw [List.mem_singleton.1 h]
      exact .register current
    next request slot deadline phase current =>
      split at h
      · unfold expire at h
        split at h
        next due =>
          rw [List.mem_singleton.1 h]
          exact .expire current due
        · cases h
      · obtain ⟨⟨progress, s₁⟩, sends, rfl⟩ := List.mem_map.1 h
        cases progress with
        | going later => exact .send current sends
        | ended result =>
          cases result with
          | ok => exact .sent current sends
          | error error => exact .unsent current sends
    next request slot deadline current =>
      split at h
      next response filled =>
        rw [List.mem_singleton.1 h]
        exact .answer current filled
      next waiting =>
        unfold expire at h
        split at h
        next due =>
          rw [List.mem_singleton.1 h]
          exact .expireWaiting current waiting due
        · cases h
      next unfilled settled =>
        rw [List.mem_singleton.1 h]
        exact .lose current unfilled settled
    next request error current =>
      dsimp only at h
      split at h
      · rw [List.mem_singleton.1 h]
        exact .forgetLate current
      next timely =>
        rw [List.mem_singleton.1 h]
        exact .forget current timely

end Call

namespace Closing

variable {s : System} {c : ConnectionId} {phase : Closing} {out : Progress Closing Unit × System}

inductive Action (s : System) (c : ConnectionId) : Closing → Progress Closing Unit × System → Prop where
  | halt : Action s c .halt (.going .look, s.update c fun x => { x with halted := true })
  | look {x : Connection} (here : s.connections[c]? = some x) :
    Action s c .look (.going (if x.supervised then .wait else .claim), s)
  | forgo {x : Connection} (here : s.connections[c]? = some x) (closed : x.closed) :
    Action s c .claim (.going .wait, s)
  | claim {x : Connection} (here : s.connections[c]? = some x) (isOpen : x.closed = false) :
    Action s c .claim (.going .failAll, s.update c fun x => { x with closed := true })
  | failAll : Action s c .failAll (.going .publish, s.update c fun x => { x with router := x.router.failAll.2 })
  | publish : Action s c .publish (.ended (), s.update c fun x => { x with stage := .closed })
  | wait {x : Connection} (here : s.connections[c]? = some x) (atEnd : x.stage = .closed) :
    Action s c .wait (.ended (), s)

theorem action_of_next (h : out ∈ phase.next s c) : Action s c phase out := by
  cases phase with
  | halt =>
    rw [List.mem_singleton.1 h]
    exact .halt
  | look =>
    simp only [next] at h
    split at h
    · cases h
    next x here =>
      rw [List.mem_singleton.1 h]
      exact .look here
  | claim =>
    simp only [next] at h
    split at h
    · cases h
    next x here =>
      split at h
      next closed =>
        rw [List.mem_singleton.1 h]
        exact .forgo here closed
      next isOpen =>
        rw [List.mem_singleton.1 h]
        exact .claim here (Bool.eq_false_iff.2 isOpen)
  | failAll =>
    rw [List.mem_singleton.1 h]
    exact .failAll
  | publish =>
    rw [List.mem_singleton.1 h]
    exact .publish
  | wait =>
    simp only [next] at h
    split at h
    · cases h
    next x here =>
      split at h
      next atEnd =>
        rw [List.mem_singleton.1 h]
        exact .wait here atEnd
      · cases h

end Closing

namespace Handling

variable {s : System} {c : ConnectionId} {t : TaskId} {x : Connection} {id : JobId} {job : Job} {phase : Handling}
  {out : Handling × System}

/-- How a handler breaks off with an action: the message does not tell what the action needs, or the handler fails. -/
inductive Breaks (job : Job) : Action → Ending → Prop where
  | announcement {error : StreamError} (undecodable : job.message.bind (.record Catalog.agentIdentity) = .error error) :
    Breaks job .noteAnnouncement (.failed [error.message])
  | file {error : StreamError} (undecodable : job.message.bind (.record Catalog.configFile) = .error error) :
    Breaks job .recordFile (.failed [error.message])
  | notice {error : StreamError} (undecodable : job.message.bind (.plain .text) = .error error) :
    Breaks job .reportFile (.failed [error.message])
  | fail (causes : List String) : Breaks job (.fail causes) (.failed causes)
  | panic (text : Option String) : Breaks job (.panic text) (.panicked text)

inductive Begins (x : Connection) (job : Job) : Action → Doing → Prop where
  | reply (payload : Bytes) : Begins x job (.reply payload) (.sending (job.message.reply payload) .check)
  | refuse (error : String) : Begins x job (.refuse error) (.sending (job.message.failure error) .check)
  | relay (ask : MessageKind) : Begins x job (.relay ask)
      (.relaying { kind := ask, payload := job.message.payload, timeout := x.settings.callTimeout })
  | close : Begins x job .close (.closing .halt)

/-- All that the handler of a job of the connection `x` can do. -/
inductive Performs (s : System) (c : ConnectionId) (t : TaskId) (x : Connection) (id : JobId) (job : Job) :
    Handling → Handling × System → Prop where
  | queue : Performs s c t x id job .admitted
      (.queued, s.update c fun x => { x with router := x.router.askWorker id })
  | start (turn : x.router.hasWorker id) :
    Performs s c t x id job .queued (.acting job.handler.actions .nothing, s.sight c .start job)
  | finish : Performs s c t x id job (.acting [] .nothing) (finish (s.sight c .finish job) c x id .finished)
  | breakOff {action : Action} {left : List Action} {ending : Ending} (breaks : Breaks job action ending) :
    Performs s c t x id job (.acting (action :: left) .nothing) (Handling.finish s c x id ending)
  | begin {action : Action} {left : List Action} {doing : Doing} (begins : Begins x job action doing) :
    Performs s c t x id job (.acting (action :: left) .nothing) (.acting left doing, s)
  | noteHeartbeat {left : List Action} : Performs s c t x id job (.acting (.noteHeartbeat :: left) .nothing)
      (.acting left .nothing, s.update c fun x => { x with heartbeat := some s.now })
  | noteAnnouncement {left : List Action} {fields : Catalog.agentIdentity.Value}
    (decoded : job.message.bind (.record Catalog.agentIdentity) = .ok fields) :
    Performs s c t x id job (.acting (.noteAnnouncement :: left) .nothing)
      (let announced := Announcement.ofFields fields
      (.acting left .nothing, s.log .info "Agent re-announced itself"
        [x.addrField, ("identity", announced.identity), ("version", announced.version)]))
  | recordFile {left : List Action} {fields : Catalog.configFile.Value}
    (decoded : job.message.bind (.record Catalog.configFile) = .ok fields) :
    Performs s c t x id job (.acting (.recordFile :: left) .nothing)
      (let file := ConfigFile.ofFields fields
      let identity := x.reporter file.machine
      let s := s.log .info "Config file changed on agent"
        [x.addrField, ("identity", identity), ("path", file.path)]
      (.acting left (.recording file (s.errand c (.record identity file))), s))
  | reportFile {left : List Action} {detail : String} (decoded : job.message.bind (.plain .text) = .ok detail) :
    Performs s c t x id job (.acting (.reportFile :: left) .nothing)
      (let identity := x.reporter "-"
      let s := s.log .info "File monitor notice" [x.addrField, ("identity", identity), ("detail", detail)]
      (.acting left (.reporting (s.errand c (.publish (.fileChanged identity detail)))), s))
  | pass {left : List Action} : Performs s c t x id job (.acting (.pass :: left) .nothing)
      (.acting left .passing, { s with gate := s.gate.join t })
  | passed {left : List Action} {gate : Gate TaskId} (turn : s.gate.pass? t = some gate) :
    Performs s c t x id job (.acting left .passing) (.acting left .nothing, { s with gate })
  | send {left : List Action} {answer : Message} {sending later : Sending} {s₁ : System}
    (sends : (.going later, s₁) ∈ sending.next s c t answer) :
    Performs s c t x id job (.acting left (.sending answer sending)) (.acting left (.sending answer later), s₁)
  | sent {left : List Action} {answer : Message} {sending : Sending} {s₁ : System}
    (sends : (.ended (.ok ()), s₁) ∈ sending.next s c t answer) :
    Performs s c t x id job (.acting left (.sending answer sending)) (.acting left .nothing, s₁)
  | unsent {left : List Action} {answer : Message} {sending : Sending} {error : LinkError} {s₁ : System}
    {now : Connection} (sends : (.ended (.error error), s₁) ∈ sending.next s c t answer)
    (there : s₁.connections[c]? = some now) :
    Performs s c t x id job (.acting left (.sending answer sending)) (fail s₁ c now id error.message)
  | lost {left : List Action} {answer : Message} {sending : Sending} {error : LinkError} {s₁ : System}
    (sends : (.ended (.error error), s₁) ∈ sending.next s c t answer) (gone : s₁.connections[c]? = none) :
    Performs s c t x id job (.acting left (.sending answer sending)) (.finished, s₁)
  | ask {left : List Action} {call : Call} {later : Calling} {s₁ : System}
    (called : (.going later, s₁) ∈ call.next s c t) : Performs s c t x id job (.acting left (.relaying call))
      (.acting left (.relaying { call with phase := later }), s₁)
  | answered {left : List Action} {call : Call} {response : Except LinkError Bytes} {s₁ : System}
    (called : (.ended response, s₁) ∈ call.next s c t) : Performs s c t x id job (.acting left (.relaying call))
      (.acting left (.sending (relayed job.message response) .check), s₁)
  | close {left : List Action} {closing later : Closing} {s₁ : System}
    (closed : (.going later, s₁) ∈ closing.next s c) :
    Performs s c t x id job (.acting left (.closing closing)) (.acting left (.closing later), s₁)
  | closed {left : List Action} {closing : Closing} {s₁ : System} (closed : (.ended (), s₁) ∈ closing.next s c) :
    Performs s c t x id job (.acting left (.closing closing)) (.acting left .nothing, s₁)
  | record {left : List Action} {file : ConfigFile} {errand : Errand} {s₁ : System}
    (delivered : s.deliver? errand = some (none, s₁)) :
    Performs s c t x id job (.acting left (.recording file errand)) (.acting left (.reporting
      (s₁.errand c (.publish (.configFileChanged (x.reporter file.machine) file.path)))), s₁)
  | unrecorded {left : List Action} {file : ConfigFile} {errand : Errand} {causes : List String} {s₁ : System}
    (delivered : s.deliver? errand = some (some causes, s₁)) :
    Performs s c t x id job (.acting left (.recording file errand))
      (fail s₁ c x id (LinkError.collaborator causes).message)
  | report {left : List Action} {errand : Errand} {s₁ : System} (published : s.publish? x.addrField errand = some s₁) :
    Performs s c t x id job (.acting left (.reporting errand)) (.acting left .nothing, s₁)

theorem performs_of_act {actions : List Action} (h : out ∈ act s c t x id job actions) :
    Performs s c t x id job (.acting actions .nothing) out := by
  cases actions with
  | nil =>
    rw [List.mem_singleton.1 h]
    exact .finish
  | cons action left =>
    cases action with
    | noteHeartbeat =>
      rw [List.mem_singleton.1 h]
      exact .noteHeartbeat
    | noteAnnouncement =>
      simp only [act] at h
      split at h
      next undecodable =>
        rw [List.mem_singleton.1 h]
        exact .breakOff (.announcement undecodable)
      next decoded =>
        rw [List.mem_singleton.1 h]
        exact .noteAnnouncement decoded
    | recordFile =>
      simp only [act] at h
      split at h
      next undecodable =>
        rw [List.mem_singleton.1 h]
        exact .breakOff (.file undecodable)
      next decoded =>
        rw [List.mem_singleton.1 h]
        exact .recordFile decoded
    | reportFile =>
      simp only [act] at h
      split at h
      next undecodable =>
        rw [List.mem_singleton.1 h]
        exact .breakOff (.notice undecodable)
      next decoded =>
        rw [List.mem_singleton.1 h]
        exact .reportFile decoded
    | pass =>
      rw [List.mem_singleton.1 h]
      exact .pass
    | reply payload =>
      rw [List.mem_singleton.1 h]
      exact .begin (.reply payload)
    | refuse error =>
      rw [List.mem_singleton.1 h]
      exact .begin (.refuse error)
    | relay ask =>
      rw [List.mem_singleton.1 h]
      exact .begin (.relay ask)
    | close =>
      rw [List.mem_singleton.1 h]
      exact .begin .close
    | stall => cases h
    | fail causes =>
      rw [List.mem_singleton.1 h]
      exact .breakOff (.fail causes)
    | panic text =>
      rw [List.mem_singleton.1 h]
      exact .breakOff (.panic text)

theorem performs_of_carryOn {left : List Action} {doing : Doing} (h : out ∈ carryOn s c t x id job left doing) :
    Performs s c t x id job (.acting left doing) out := by
  cases doing with
  | nothing => exact performs_of_act h
  | passing =>
    simp only [carryOn] at h
    split at h
    · cases h
    next gate turn =>
      rw [List.mem_singleton.1 h]
      exact .passed turn
  | sending answer sending =>
    obtain ⟨⟨progress, s₁⟩, sends, rfl⟩ := List.mem_map.1 h
    cases progress with
    | going later => exact .send sends
    | ended result =>
      cases result with
      | ok => exact .sent sends
      | error error =>
        dsimp only
        split
        next there => exact .unsent sends there
        next gone => exact .lost sends gone
  | relaying call =>
    obtain ⟨⟨progress, s₁⟩, called, rfl⟩ := List.mem_map.1 h
    cases progress with
    | going later => exact .ask called
    | ended response => exact .answered called
  | closing closing =>
    obtain ⟨⟨progress, s₁⟩, closed, rfl⟩ := List.mem_map.1 h
    cases progress with
    | going later => exact .close closed
    | ended => exact .closed closed
  | recording file errand =>
    simp only [carryOn] at h
    split at h
    · cases h
    next causes s₁ delivered =>
      rw [List.mem_singleton.1 h]
      exact .unrecorded delivered
    next s₁ delivered =>
      rw [List.mem_singleton.1 h]
      exact .record delivered
  | reporting errand =>
    simp only [carryOn] at h
    split at h
    · cases h
    next s₁ published =>
      rw [List.mem_singleton.1 h]
      exact .report published

theorem performs_of_next (h : out ∈ phase.next s c t id) : ∃ x job, s.connections[c]? = some x ∧
    x.router.jobs.get? id = some job ∧ Performs s c t x id job phase out := by
  unfold next at h
  split at h
  · cases h
  next x here =>
    split at h
    · cases h
    next job held =>
      refine ⟨x, job, here, held, ?_⟩
      cases phase with
      | admitted =>
        rw [List.mem_singleton.1 h]
        exact .queue
      | queued =>
        dsimp only at h
        split at h
        next turn =>
          rw [List.mem_singleton.1 h]
          exact .start turn
        · cases h
      | acting left doing => exact performs_of_carryOn h
      | finished => cases h

end Handling

namespace Accepting

variable {s : System} {c : ConnectionId} {t : TaskId} {x : Connection} {announced : Announcement} {phase : Accepting}
  {out : Accepting × System}

inductive Action (s : System) (c : ConnectionId) (t : TaskId) (x : Connection) :
    Accepting → Accepting × System → Prop where
  | ask {call : Call} {later : Calling} {s₁ : System} (called : (.going later, s₁) ∈ call.next s c t) :
    Action s c t x (.handshake call) (.handshake { call with phase := later }, s₁)
  | introduce {call : Call} {response : Except LinkError Bytes} {s₁ : System}
    (called : (.ended response, s₁) ∈ call.next s c t) : Action s c t x (.handshake call) (introduce s₁ c x response)
  | refuse {error : LinkError} {closing later : Closing} {s₁ : System}
    (closed : (.going later, s₁) ∈ closing.next s c) :
    Action s c t x (.refuse error closing) (.refuse error later, s₁)
  | refused {error : LinkError} {closing : Closing} {s₁ : System} (closed : (.ended (), s₁) ∈ closing.next s c) :
    Action s c t x (.refuse error closing) (.finished (.error error), s₁)
  | queueLifecycle : Action s c t x .queueLifecycle (.awaitLifecycle, s.queueLifecycle c t)
  | awaitLifecycle (turn : x.lifecycle.isHeldBy t) :
    Action s c t x .awaitLifecycle (if x.closed then .releaseLifecycle .gone else .queueIdentity, s)
  | queueIdentity {announced : Announcement} (known : x.announced = some announced) :
    Action s c t x .queueIdentity (.awaitIdentity, s.queueIdentity announced.identity t)
  | enter {announced : Announcement} (known : x.announced = some announced)
    (turn : s.holdsIdentity announced.identity t) : Action s c t x .awaitIdentity (enter s c x announced)
  | mark {announced : Announcement} {displaced : Option ConnectionId} {errand : Errand} {s₁ : System}
    (known : x.announced = some announced) (delivered : s.deliver? errand = some (none, s₁)) :
    Action s c t x (.marking displaced errand) (.announcing displaced
      (s₁.errand c (.publish (.connected announced.identity announced.version x.addr))), s₁)
  | complain {announced : Announcement} {displaced : Option ConnectionId} {errand : Errand} {causes : List String}
    {text : String} {s₁ : System} (known : x.announced = some announced)
    (delivered : s.deliver? errand = some (some causes, s₁)) :
    Action s c t x (.marking displaced errand) (.announcing displaced
      (s₁.errand c (.publish (.connected announced.identity announced.version x.addr))),
      s₁.log .warn text [("identity", announced.identity)])
  | announce {displaced : Option ConnectionId} {errand : Errand} {s₁ : System}
    (published : s.publish? x.addrField errand = some s₁) :
    Action s c t x (.announcing displaced errand) (.activate displaced, s₁)
  | activate {displaced : Option ConnectionId} : Action s c t x (.activate displaced)
      (.releaseIdentity (.admitted displaced), s.update c fun x => { x with stage := .active })
  | releaseIdentity {announced : Announcement} {verdict : Verdict} (known : x.announced = some announced) :
    Action s c t x (.releaseIdentity verdict) (.releaseLifecycle verdict, s.releaseIdentity announced.identity t)
  | conclude {announced : Announcement} {verdict : Verdict} (known : x.announced = some announced) :
    Action s c t x (.releaseLifecycle verdict) (conclude (s.releaseLifecycle c t) x announced verdict)
  | replace {old : ConnectionId} {closing later : Closing} {s₁ : System}
    (closed : (.going later, s₁) ∈ closing.next s old) : Action s c t x (.replace old closing) (.replace old later, s₁)
  | replaced {announced : Announcement} {old : ConnectionId} {closing : Closing} {s₁ : System}
    (known : x.announced = some announced) (closed : (.ended (), s₁) ∈ closing.next s old) :
    Action s c t x (.replace old closing) (.finished (.ok announced), s₁)

theorem action_of_register (known : x.announced = some announced) (h : out ∈ register s c t x announced phase) :
    Action s c t x phase out := by
  cases phase with
  | queueLifecycle =>
    rw [List.mem_singleton.1 h]
    exact .queueLifecycle
  | awaitLifecycle =>
    simp only [register] at h
    split at h
    next turn =>
      rw [List.mem_singleton.1 h]
      exact .awaitLifecycle turn
    · cases h
  | queueIdentity =>
    rw [List.mem_singleton.1 h]
    exact .queueIdentity known
  | awaitIdentity =>
    simp only [register] at h
    split at h
    next turn =>
      rw [List.mem_singleton.1 h]
      exact .enter known turn
    · cases h
  | marking displaced errand =>
    simp only [register] at h
    split at h
    · cases h
    next failure s₁ delivered =>
      rw [List.mem_singleton.1 h]
      cases failure with
      | none => exact .mark known delivered
      | some causes => exact .complain known delivered
  | announcing displaced errand =>
    simp only [register] at h
    split at h
    · cases h
    next s₁ published =>
      rw [List.mem_singleton.1 h]
      exact .announce published
  | activate displaced =>
    rw [List.mem_singleton.1 h]
    exact .activate
  | releaseIdentity verdict =>
    rw [List.mem_singleton.1 h]
    exact .releaseIdentity known
  | releaseLifecycle verdict =>
    rw [List.mem_singleton.1 h]
    exact .conclude known
  | replace old closing =>
    obtain ⟨⟨progress, s₁⟩, closed, rfl⟩ := List.mem_map.1 h
    cases progress with
    | going later => exact .replace closed
    | ended => exact .replaced known closed
  | handshake | refuse | finished => cases h

theorem action_of_next (h : out ∈ phase.next s c t) : ∃ x, s.connections[c]? = some x ∧ Action s c t x phase out := by
  cases here : s.connections[c]? with
  | none =>
    simp only [Accepting.next, here] at h
    cases h
  | some x =>
    refine ⟨x, rfl, ?_⟩
    cases phase with
    | handshake call =>
      simp only [Accepting.next, here] at h
      obtain ⟨⟨progress, s₁⟩, called, rfl⟩ := List.mem_map.1 h
      cases progress with
      | going later => exact .ask called
      | ended response => exact .introduce called
    | refuse error closing =>
      simp only [Accepting.next, here] at h
      obtain ⟨⟨progress, s₁⟩, closed, rfl⟩ := List.mem_map.1 h
      cases progress with
      | going later => exact .refuse closed
      | ended => exact .refused closed
    | _ =>
      simp only [Accepting.next, here] at h
      cases known : x.announced with
      | none =>
        rw [known] at h
        cases h
      | some announced =>
        rw [known] at h
        exact action_of_register known h

end Accepting

namespace Supervising

variable {s : System} {c : ConnectionId} {t : TaskId} {x : Connection} {phase : Supervising}
  {out : Supervising × System}

/-- Why a supervisor may stop serving the connection `x`. -/
inductive Departs (x : Connection) : Departure → Prop where
  | malformed {error : StreamError} (found : x.inbox.next? = .error error) : Departs x (.received (.error error))
  | unread {reason : String} (found : x.inbox.next? = .ok none) (arrival : x.socket.arrival = .fault reason) :
    Departs x (.received (.error (.io reason)))
  | atEnd (found : x.inbox.next? = .ok none) (arrival : x.socket.arrival = .bytes []) :
    Departs x (.received (x.inbox.atEnd.map fun _ => ()))
  | unwritten {reason : String} (busy : x.writing ≠ []) (accepts : x.socket.accepts x.writing.length = .error reason) :
    Departs x (.unsent (.io reason))
  | fault (faulted : x.router.faulted) : Departs x .fault
  | halted (halted : x.halted) : Departs x .halted

inductive Action (s : System) (c : ConnectionId) (t : TaskId) (x : Connection) :
    Supervising → Supervising × System → Prop where
  | start : Action s c t x .spawned (.serving, s.update c fun x => { x with supervised := true })
  | receive {payload : Bytes} {inbox : FrameBuffer} (found : x.inbox.next? = .ok (some (payload, inbox))) :
    Action s c t x .serving (.serving, receive s c x payload inbox)
  | fetch {chunk : Bytes} (found : x.inbox.next? = .ok none) (arrival : x.socket.arrival = .bytes chunk)
    (more : chunk ≠ []) : Action s c t x .serving (.serving, s.update c fun x =>
      { x with inbox := x.inbox.extend chunk, socket := x.socket.skip chunk.length })
  | load {envelope frame : Bytes} {outbox : Outbox} (idle : x.writing = [])
    (taken : x.outbox.take? = some (envelope, outbox))
    (encoded : Frame.encodeWithin x.settings.maxFrameSize envelope = .ok frame) :
    Action s c t x .serving (.serving, s.update c fun x => { x with outbox, writing := frame })
  | reject {envelope : Bytes} {outbox : Outbox} {error : StreamError} (idle : x.writing = [])
    (taken : x.outbox.take? = some (envelope, outbox))
    (unwritable : Frame.encodeWithin x.settings.maxFrameSize envelope = .error error) :
    Action s c t x .serving (leave (s.update c fun x => { x with outbox }) c (.unsent error))
  | write {count : Nat} (busy : x.writing ≠ []) (accepts : x.socket.accepts x.writing.length = .ok count)
    (some : count ≠ 0) : Action s c t x .serving (.serving, s.update c fun x => { x with
      socket := x.socket.write (x.writing.take count)
      writing := x.writing.drop count })
  | leave {departure : Departure} (departs : Departs x departure) : Action s c t x .serving (leave s c departure)
  | remark {departure : Departure} :
    Action s c t x (.leaving departure) (.claim, { s with logs := s.logs ++ (remark x departure).toList })
  | forgo (closed : x.closed) : Action s c t x .claim (.finished, s)
  | claim (isOpen : x.closed = false) : Action s c t x .claim (.halt, s.update c fun x => { x with closed := true })
  | halt : Action s c t x .halt (.failAll, s.update c fun x => { x with halted := true })
  | failAll : Action s c t x .failAll
      (.queueLifecycle x.router.failAll.1, s.update c fun y => { y with router := x.router.failAll.2 })
  | queueLifecycle {failed : Nat} :
    Action s c t x (.queueLifecycle failed) (.awaitLifecycle failed, s.queueLifecycle c t)
  | skip {failed : Nat} (turn : x.lifecycle.isHeldBy t) (unknown : x.identity? = none) :
    Action s c t x (.awaitLifecycle failed) (.releaseLifecycle failed false, s)
  | queueIdentity {failed : Nat} {identity : String} (turn : x.lifecycle.isHeldBy t)
    (known : x.identity? = some identity) :
    Action s c t x (.awaitLifecycle failed) (.awaitIdentity failed identity, s.queueIdentity identity t)
  | unregister {failed : Nat} {identity : String} (turn : s.holdsIdentity identity t) :
    Action s c t x (.awaitIdentity failed identity) (unregister s c failed identity)
  | mark {failed : Nat} {identity : String} {errand : Errand} {s₁ : System}
    (delivered : s.deliver? errand = some (none, s₁)) :
    Action s c t x (.marking failed identity errand)
      (.announcing failed identity (s₁.errand c (.publish (.disconnected identity x.addr))), s₁)
  | complain {failed : Nat} {identity text : String} {errand : Errand} {causes : List String} {s₁ : System}
    (delivered : s.deliver? errand = some (some causes, s₁)) :
    Action s c t x (.marking failed identity errand)
      (.announcing failed identity (s₁.errand c (.publish (.disconnected identity x.addr))),
        s₁.log .warn text [("identity", identity)])
  | announce {failed : Nat} {identity : String} {errand : Errand} {s₁ : System}
    (published : s.publish? x.addrField errand = some s₁) :
    Action s c t x (.announcing failed identity errand) (.releaseIdentity failed identity true, s₁)
  | releaseIdentity {failed : Nat} {identity : String} {authoritative : Bool} :
    Action s c t x (.releaseIdentity failed identity authoritative)
      (.releaseLifecycle failed authoritative, s.releaseIdentity identity t)
  | releaseLifecycle {failed : Nat} {authoritative : Bool} :
    Action s c t x (.releaseLifecycle failed authoritative) (.farewell failed authoritative, s.releaseLifecycle c t)
  | farewell {failed : Nat} {authoritative : Bool} :
    Action s c t x (.farewell failed authoritative) (.publish, s.log .info "Agent disconnected"
      [x.addrField, x.identityField, ("failed_calls", toString failed), ("authoritative", toString authoritative)])
  | publish : Action s c t x .publish (.finished, s.update c fun x => { x with stage := .closed })

theorem action_of_inbound (h : out ∈ inbound s c x) : Action s c t x .serving out := by
  unfold inbound at h
  split at h
  next error found =>
    rw [List.mem_singleton.1 h]
    exact .leave (.malformed found)
  next payload inbox found =>
    rw [List.mem_singleton.1 h]
    exact .receive found
  next found =>
    split at h
    · cases h
    next reason arrival =>
      rw [List.mem_singleton.1 h]
      exact .leave (.unread found arrival)
    next arrival =>
      rw [List.mem_singleton.1 h]
      exact .leave (.atEnd found arrival)
    next chunk more arrival =>
      rw [List.mem_singleton.1 h]
      exact .fetch found arrival more

theorem action_of_outbound (h : out ∈ outbound s c x) : Action s c t x .serving out := by
  unfold outbound at h
  split at h
  next idle =>
    split at h
    · cases h
    next envelope outbox taken =>
      split at h
      next error unwritable =>
        rw [List.mem_singleton.1 h]
        exact .reject (List.isEmpty_iff.1 idle) taken unwritable
      next frame encoded =>
        rw [List.mem_singleton.1 h]
        exact .load (List.isEmpty_iff.1 idle) taken encoded
  next busy =>
    have busy : x.writing ≠ [] := fun idle => busy (List.isEmpty_iff.2 idle)
    split at h
    next reason accepts =>
      rw [List.mem_singleton.1 h]
      exact .leave (.unwritten busy accepts)
    · cases h
    next count some accepts =>
      rw [List.mem_singleton.1 h]
      exact .write busy accepts some

theorem action_of_serve (h : out ∈ serve s c x) : Action s c t x .serving out := by
  simp only [serve, List.append_assoc, List.mem_append] at h
  rcases h with received | sent | faulted | halted
  · exact action_of_inbound received
  · exact action_of_outbound sent
  · split at faulted
    next holds =>
      rw [List.mem_singleton.1 faulted]
      exact .leave (.fault holds)
    · cases faulted
  · split at halted
    next holds =>
      rw [List.mem_singleton.1 halted]
      exact .leave (.halted holds)
    · cases halted

theorem action_of_next (h : out ∈ phase.next s c t) : ∃ x, s.connections[c]? = some x ∧ Action s c t x phase out := by
  cases here : s.connections[c]? with
  | none =>
    simp only [Supervising.next, here] at h
    cases h
  | some x =>
    refine ⟨x, rfl, ?_⟩
    simp only [Supervising.next, here] at h
    cases phase with
    | serving => exact action_of_serve h
    | claim =>
      dsimp only at h
      split at h
      next closed =>
        rw [List.mem_singleton.1 h]
        exact .forgo closed
      next isOpen =>
        rw [List.mem_singleton.1 h]
        exact .claim (Bool.eq_false_iff.2 isOpen)
    | awaitLifecycle failed =>
      dsimp only at h
      split at h
      next turn =>
        split at h
        next unknown =>
          rw [List.mem_singleton.1 h]
          exact .skip turn unknown
        next identity known =>
          rw [List.mem_singleton.1 h]
          exact .queueIdentity turn known
      · cases h
    | awaitIdentity failed identity =>
      dsimp only at h
      split at h
      next turn =>
        rw [List.mem_singleton.1 h]
        exact .unregister turn
      · cases h
    | marking failed identity errand =>
      dsimp only at h
      split at h
      · cases h
      next failure s₁ delivered =>
        rw [List.mem_singleton.1 h]
        cases failure with
        | none => exact .mark delivered
        | some causes => exact .complain delivered
    | announcing failed identity errand =>
      dsimp only at h
      split at h
      · cases h
      next s₁ published =>
        rw [List.mem_singleton.1 h]
        exact .announce published
    | spawned =>
      rw [List.mem_singleton.1 h]
      exact .start
    | leaving departure =>
      rw [List.mem_singleton.1 h]
      exact .remark
    | halt =>
      rw [List.mem_singleton.1 h]
      exact .halt
    | failAll =>
      rw [List.mem_singleton.1 h]
      exact .failAll
    | queueLifecycle failed =>
      rw [List.mem_singleton.1 h]
      exact .queueLifecycle
    | releaseIdentity failed identity authoritative =>
      rw [List.mem_singleton.1 h]
      exact .releaseIdentity
    | releaseLifecycle failed authoritative =>
      rw [List.mem_singleton.1 h]
      exact .releaseLifecycle
    | farewell failed authoritative =>
      rw [List.mem_singleton.1 h]
      exact .farewell
    | publish =>
      rw [List.mem_singleton.1 h]
      exact .publish
    | finished => cases h

end Supervising

end Fleetwire
