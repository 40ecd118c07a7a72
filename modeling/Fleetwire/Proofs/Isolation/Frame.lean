import Fleetwire.Proofs.Actions
import Fleetwire.Proofs.Lifecycle.Quiet

namespace Fleetwire

def Task.owner? : Task → Option ConnectionId
  | accept c _ | supervise c _ | handle c _ _ | operate c _ => some c
  | listen _ => none

namespace System

structure Spares (s : System) (c : ConnectionId) (s' : System) : Prop where
  others : ∀ b, b ≠ c → s'.connections[b]? = s.connections[b]?
  tasks : ∀ (t : TaskId) (task : Task), task.owner? ≠ some c → (s'.tasks[t]? = some task ↔ s.tasks[t]? = some task)
  halted : s'.halted = s.halted
  stopping : s'.stopping = s.stopping
  now : s'.now = s.now

structure Aside (s : System) (c : ConnectionId) (s' : System) : Prop extends Spares s c s' where
  directory : s'.directory = s.directory

/-- Nothing but the connection `c`, its tasks, and the entry and the lock of its identity has changed. That entry is
set to the connection, or taken from it. -/
structure Apart (s : System) (c : ConnectionId) (own : Option String) (s' : System) : Prop extends Spares s c s' where
  entry : ∀ identity, own ≠ some identity → s'.directory.get? identity = s.directory.get? identity
  lock : ∀ identity, own ≠ some identity → s'.directory.transition identity = s.directory.transition identity
  claim : ∀ identity, s'.directory.get? identity = s.directory.get? identity ∨
    s'.directory.get? identity = some c ∨
    s.directory.get? identity = some c ∧ s'.directory.get? identity = none

variable {s s' s'' s₁ : System} {c : ConnectionId} {t : TaskId} {own : Option String} {identity : String}

theorem Spares.of_same (connections : s'.connections = s.connections) (tasks : s'.tasks = s.tasks)
    (halted : s'.halted = s.halted) (stopping : s'.stopping = s.stopping) (now : s'.now = s.now) : s.Spares c s' :=
  ⟨fun _ _ => by rw [connections], fun _ _ _ => by rw [tasks], halted, stopping, now⟩

theorem Spares.refl (s : System) (c : ConnectionId) : s.Spares c s := .of_same rfl rfl rfl rfl rfl

theorem Spares.trans (h : s.Spares c s') (h' : s'.Spares c s'') : s.Spares c s'' where
  others b different := (h'.others b different).trans (h.others b different)
  tasks t task foreign := (h'.tasks t task foreign).trans (h.tasks t task foreign)
  halted := h'.halted.trans h.halted
  stopping := h'.stopping.trans h.stopping
  now := h'.now.trans h.now

theorem Spares.update (s : System) (c : ConnectionId) (f : Connection → Connection) : s.Spares c (s.update c f) where
  others b different := by
    have other : c ≠ b := Ne.symm different
    simp [System.update, other]
  tasks _ _ _ := Iff.rfl
  halted := rfl
  stopping := rfl
  now := rfl

theorem Spares.spawn (s : System) {task : Task} (owned : task.owner? = some c) : s.Spares c (s.spawn task) where
  others _ _ := rfl
  tasks t other foreign := by
    simp only [System.spawn, getElem?_concat]
    split
    next last =>
      rw [last, List.getElem?_eq_none (Nat.le_refl _)]
      refine iff_of_false (fun same => ?_) (Option.some_ne_none other).symm
      exact foreign (by rw [← Option.some.inj same, owned])
    · exact Iff.rfl
  halted := rfl
  stopping := rfl
  now := rfl

theorem Spares.setTask (h : s.Spares c s₁) {task task' : Task} (found : s.tasks[t]? = some task)
    (owned : task.owner? = some c) (owned' : task'.owner? = some c) : s.Spares c (s₁.setTask t task') where
  others := h.others
  tasks u other foreign := by
    rw [← h.tasks u other foreign]
    by_cases same : t = u
    · subst same
      have before : s₁.tasks[t]? ≠ some other := fun there => by
        rw [h.tasks t other foreign, found] at there
        exact foreign (by rw [← Option.some.inj there, owned])
      refine iff_of_false (fun now => ?_) before
      simp only [System.setTask, List.getElem?_set] at now
      split at now
      · split at now
        · exact foreign (by rw [← Option.some.inj now, owned'])
        · cases now
      · exact before now
    · rw [System.setTask, List.getElem?_set_ne same]
  halted := h.halted
  stopping := h.stopping
  now := h.now

theorem Aside.of_same (connections : s'.connections = s.connections) (tasks : s'.tasks = s.tasks)
    (halted : s'.halted = s.halted) (stopping : s'.stopping = s.stopping) (now : s'.now = s.now)
    (directory : s'.directory = s.directory) : s.Aside c s' :=
  ⟨.of_same connections tasks halted stopping now, directory⟩

theorem Aside.refl (s : System) (c : ConnectionId) : s.Aside c s := ⟨.refl s c, rfl⟩

theorem Aside.trans (h : s.Aside c s') (h' : s'.Aside c s'') : s.Aside c s'' :=
  ⟨h.toSpares.trans h'.toSpares, h'.directory.trans h.directory⟩

theorem Aside.update (s : System) (c : ConnectionId) (f : Connection → Connection) : s.Aside c (s.update c f) :=
  ⟨.update s c f, rfl⟩

theorem Aside.logs (s : System) (c : ConnectionId) (lines : List LogLine) :
    s.Aside c { s with logs := s.logs ++ lines } :=
  .of_same rfl rfl rfl rfl rfl rfl

theorem Aside.log (s : System) (c : ConnectionId) (level : Level) (text : String) (fields : List (String × String)) :
    s.Aside c (s.log level text fields) :=
  .logs s c [⟨level, text, fields⟩]

theorem Aside.sight (s : System) (c : ConnectionId) (moment : Moment) (job : Job) :
    s.Aside c (s.sight c moment job) := by
  unfold System.sight
  split <;> exact .of_same rfl rfl rfl rfl rfl rfl

theorem Aside.deliver? {errand : Errand} {failure : Option (List String)}
    (h : s.deliver? errand = some (failure, s')) : s.Aside c s' := by
  unfold System.deliver? at h
  split at h
  · cases h
    split
    · cases errand.report <;> exact .of_same rfl rfl rfl rfl rfl rfl
    · exact .of_same rfl rfl rfl rfl rfl rfl
  · cases h

theorem Aside.publish? {errand : Errand} {addr : String × String} (h : s.publish? addr errand = some s') :
    s.Aside c s' := by
  unfold System.publish? at h
  obtain ⟨⟨failure, s₁⟩, delivered, h⟩ := Option.bind_eq_some_iff.1 h
  have told : s.Aside c s₁ := .deliver? delivered
  cases failure with
  | none => cases h; exact told
  | some causes => cases h; exact told.trans (.log ..)

theorem Aside.apart (h : s.Aside c s') : s.Apart c own s' where
  toSpares := h.toSpares
  entry identity _ := by rw [h.directory]
  lock identity _ := by rw [h.directory]
  claim identity := .inl (by rw [h.directory])

theorem Apart.refl (s : System) (c : ConnectionId) (own : Option String) : s.Apart c own s := (Aside.refl s c).apart

theorem Apart.setTask (h : s.Apart c own s₁) {task task' : Task} (found : s.tasks[t]? = some task)
    (owned : task.owner? = some c) (owned' : task'.owner? = some c) : s.Apart c own (s₁.setTask t task') where
  toSpares := h.toSpares.setTask found owned owned'
  entry := h.entry
  lock := h.lock
  claim := h.claim

theorem Apart.queueIdentity (s : System) (c : ConnectionId) (identity : String) (t : TaskId) :
    s.Apart c (some identity) (s.queueIdentity identity t) where
  toSpares := .of_same rfl rfl rfl rfl rfl
  entry _ _ := rfl
  lock other different := by
    have foreign : other ≠ identity := fun same => different (congrArg some same.symm)
    rw [System.queueIdentity, Directory.transition_joinTransition, if_neg foreign]
  claim _ := .inl rfl

theorem Apart.releaseIdentity (s : System) (c : ConnectionId) (identity : String) (t : TaskId) :
    s.Apart c (some identity) (s.releaseIdentity identity t) where
  toSpares := .of_same rfl rfl rfl rfl rfl
  entry _ _ := rfl
  lock other different := by
    have foreign : other ≠ identity := fun same => different (congrArg some same.symm)
    rw [System.releaseIdentity, Directory.transition_leaveTransition, if_neg foreign]
  claim _ := .inl rfl

theorem Apart.put (s : System) (c : ConnectionId) (identity : String) :
    s.Apart c (some identity) { s with directory := (s.directory.put identity c).2 } where
  toSpares := .of_same rfl rfl rfl rfl rfl
  entry other different := by
    have foreign : other ≠ identity := fun same => different (congrArg some same.symm)
    exact (Directory.get?_put ..).trans (if_neg foreign)
  lock _ _ := rfl
  claim other := by
    simp only [Directory.get?_put]
    split
    · exact .inr (.inl rfl)
    · exact .inl rfl

theorem Apart.remove (holder : s.directory.get? identity = some c) :
    s.Apart c (some identity) { s with directory := (s.directory.remove identity).2 } where
  toSpares := .of_same rfl rfl rfl rfl rfl
  entry other different := by
    have foreign : other ≠ identity := fun same => different (congrArg some same.symm)
    exact (Directory.get?_remove ..).trans (if_neg foreign)
  lock _ _ := rfl
  claim other := by
    simp only [Directory.get?_remove]
    split
    next same => exact .inr (.inr ⟨same ▸ holder, rfl⟩)
    · exact .inl rfl

end System

open Fleetwire.System

variable {s : System} {c : ConnectionId} {t : TaskId} {connection : Connection}

theorem Sending.next_aside {message : Message} {phase : Sending}
    {out : Progress Sending (Except LinkError Unit) × System} (h : out ∈ phase.next s c t message) :
    s.Aside c out.2 := by
  cases action_of_next h with
  | closed | tooLarge | check => exact .refl s c
  | queue | accept | giveUp => exact .update ..

namespace Call

theorem next_aside {call : Call} {out : Progress Calling (Except LinkError Bytes) × System}
    (h : out ∈ call.next s c t) : s.Aside c out.2 := by
  obtain ⟨connection, _, action⟩ := action_of_next h
  cases action with
  | register =>
    have registered (router : Router) : s.Aside c (s.update c fun x => { x with router }) := .update ..
    exact (registered _).trans (.of_same rfl rfl rfl rfl rfl rfl)
  | send _ sends | sent _ sends => exact Sending.next_aside sends
  | unsent _ sends =>
    have aside := Sending.next_aside sends
    exact aside.trans (.update ..)
  | expire | expireWaiting | forget => exact .update ..
  | answer | lose => exact .refl s c
  | @forgetLate request =>
    have forgotten : s.Aside c (s.update c fun x => { x with router := (x.router.cancel request.id).2 }) := .update ..
    exact forgotten.trans (.logs ..)

theorem abort_aside (call : Call) : s.Aside c (call.abort s c t) := by
  unfold abort
  split
  · exact .update ..
  · exact .update ..
  · exact .refl s c

end Call

theorem Closing.next_aside {phase : Closing} {out : Progress Closing Unit × System} (h : out ∈ phase.next s c) :
    s.Aside c out.2 := by
  cases action_of_next h with
  | halt | claim | failAll | publish => exact .update ..
  | look | forgo | wait => exact .refl s c

theorem Closing.next_of_waits {phase : Closing} {out : Progress Closing Unit × System} (waits : phase.waits)
    (h : out ∈ phase.next s c) : out.2 = s ∨ out.2 = s.update c fun x => { x with halted := true } := by
  cases action_of_next h with
  | halt => exact .inr rfl
  | look | wait => exact .inl rfl
  | forgo | claim | failAll | publish => cases waits

namespace Operating

theorem next_aside {phase : Operating} {out : Operating × System} (h : out ∈ phase.next s c t) :
    s.Aside c out.2 := by
  cases phase with
  | calling shape call =>
    obtain ⟨⟨progress, s₁⟩, called, rfl⟩ := List.mem_map.1 h
    have aside : s.Aside c s₁ := Call.next_aside called
    cases progress <;> exact aside
  | notifying kind payload =>
    rw [List.mem_singleton.1 h]
    exact .of_same rfl rfl rfl rfl rfl rfl
  | sending message phase =>
    obtain ⟨⟨progress, s₁⟩, sent, rfl⟩ := List.mem_map.1 h
    have aside : s.Aside c s₁ := Sending.next_aside sent
    cases progress <;> exact aside
  | closing phase =>
    obtain ⟨⟨progress, s₁⟩, closed, rfl⟩ := List.mem_map.1 h
    have aside : s.Aside c s₁ := Closing.next_aside closed
    cases progress <;> exact aside
  | finished result | aborted => cases h

theorem abort_aside (operation : Operating) : s.Aside c (operation.abort s c t) := by
  cases operation with
  | calling shape call => exact call.abort_aside
  | sending message phase => exact .update ..
  | notifying kind payload | closing phase | finished result | aborted => exact .refl s c

end Operating

namespace Handling

theorem finish_aside (id : JobId) (ending : Ending) : s.Aside c (finish s c connection id ending).2 := by
  have stored (router : Router) : s.Aside c (s.update c fun x => { x with router }) := .update ..
  exact (stored _).trans (.logs ..)

theorem Performs.aside {id : JobId} {job : Job} {phase : Handling} {out : Handling × System}
    (performs : Performs s c t connection id job phase out) : s.Aside c out.2 := by
  cases performs with
  | queue | noteHeartbeat => exact .update ..
  | start => exact .sight ..
  | finish => exact (Aside.sight s c .finish job).trans (finish_aside id _)
  | breakOff => exact finish_aside id _
  | begin => exact .refl s c
  | noteAnnouncement | recordFile | reportFile => exact .log ..
  | pass | passed => exact .of_same rfl rfl rfl rfl rfl rfl
  | send sends | sent sends | lost sends => exact Sending.next_aside sends
  | unsent sends => exact (Sending.next_aside sends).trans (finish_aside id _)
  | ask called | answered called => exact Call.next_aside called
  | close closed | closed closed => exact Closing.next_aside closed
  | record delivered => exact .deliver? delivered
  | unrecorded delivered =>
    have told : s.Aside c _ := .deliver? delivered
    exact told.trans (finish_aside id _)
  | report published => exact .publish? published

theorem next_aside {id : JobId} {phase : Handling} {out : Handling × System} (h : out ∈ phase.next s c t id) :
    s.Aside c out.2 := by
  obtain ⟨connection, job, _, _, performs⟩ := performs_of_next h
  exact performs.aside

end Handling

namespace Accepting

theorem introduce_aside (response : Except LinkError Bytes) : s.Aside c (introduce s c connection response).2 := by
  unfold introduce
  split
  · exact .log ..
  next announced _ =>
    have known : s.Aside c (s.update c fun x => { x with announced := some announced }) := .update ..
    exact known.trans (.log ..)

theorem conclude_aside (announced : Announcement) (verdict : Verdict) :
    s.Aside c (conclude s connection announced verdict).2 := by
  cases verdict with
  | admitted displaced =>
    cases displaced with
    | none => exact .refl s c
    | some old => exact .log ..
  | gone | refused => exact .refl s c

theorem enter_apart (announced : Announcement) :
    s.Apart c (some announced.identity) (enter s c connection announced).2 := by
  unfold enter
  dsimp only
  split
  · exact .put s c announced.identity
  · unfold Directory.putIfFree
    cases holder : s.directory.get? announced.identity with
    | none => exact .put s c announced.identity
    | some other => exact (Aside.log ..).apart

theorem Action.apart {phase : Accepting} {out : Accepting × System}
    (patient : ∀ old closing, phase = .replace old closing → closing.waits)
    (action : Action s c t connection phase out) :
    s.Apart c connection.identity? out.2 ∨
      ∃ old closing, phase = .replace old closing ∧ out.2 = s.update old fun x => { x with halted := true } := by
  have named {announced : Announcement} (known : connection.announced = some announced) :
      connection.identity? = some announced.identity := congrArg _ known
  have waits {old : ConnectionId} {closing : Closing} {progress : Progress Closing Unit} {s₁ : System}
      (replaces : phase = .replace old closing) (closed : (progress, s₁) ∈ closing.next s old) :
      s.Apart c connection.identity? s₁ ∨
        ∃ old closing, phase = .replace old closing ∧ s₁ = s.update old fun x => { x with halted := true } := by
    rcases Closing.next_of_waits (patient old closing replaces) closed with same | halts
    · dsimp only at same
      subst same
      exact .inl (.refl _ c _)
    · exact .inr ⟨old, closing, replaces, halts⟩
  cases action with
  | ask called => exact .inl (Call.next_aside called).apart
  | introduce called =>
    have aside := Call.next_aside called
    exact .inl (aside.trans (introduce_aside _)).apart
  | refuse closed | refused closed => exact .inl (Closing.next_aside closed).apart
  | queueLifecycle | activate => exact .inl (Aside.update ..).apart
  | awaitLifecycle => exact .inl (.refl s c _)
  | queueIdentity known =>
    rw [named known]
    exact .inl (.queueIdentity s c _ t)
  | releaseIdentity known =>
    rw [named known]
    exact .inl (.releaseIdentity s c _ t)
  | enter known =>
    rw [named known]
    exact .inl (enter_apart _)
  | mark _ delivered => exact .inl (Aside.deliver? delivered).apart
  | complain _ delivered =>
    have told : s.Aside c _ := .deliver? delivered
    exact .inl (told.trans (.log ..)).apart
  | announce published => exact .inl (Aside.publish? published).apart
  | conclude =>
    have released : s.Aside c (s.releaseLifecycle c t) := .update ..
    exact .inl (released.trans (conclude_aside _ _)).apart
  | replace closed | replaced _ closed => exact waits rfl closed

theorem next_apart {phase : Accepting} {out : Accepting × System} (here : s.connections[c]? = some connection)
    (patient : ∀ old closing, phase = .replace old closing → closing.waits)
    (h : out ∈ phase.next s c t) :
    s.Apart c connection.identity? out.2 ∨
      ∃ old closing, phase = .replace old closing ∧ out.2 = s.update old fun x => { x with halted := true } := by
  obtain ⟨other, found, action⟩ := action_of_next h
  cases found.symm.trans here
  exact action.apart patient

end Accepting

namespace Supervising

theorem leave_aside (departure : Departure) : s.Aside c (leave s c departure).2 := .update ..

theorem receive_aside (payload : Bytes) (inbox : FrameBuffer) :
    s.Aside c (receive s c connection payload inbox) := by
  unfold receive
  split
  · have kept : s.Aside c (s.update c fun x => { x with inbox }) := .update ..
    exact kept.trans (.logs ..)
  next message _ =>
    obtain ⟨fate, lines, router⟩ := connection.router.route message
    have routed : s.Aside c (s.update c fun x => { x with inbox, router, routed := x.routed ++ [message] }) :=
      .update ..
    have logged := routed.trans (.logs _ c lines)
    dsimp only
    split
    · exact logged.trans ⟨.spawn _ rfl, rfl⟩
    · exact logged

theorem unregister_apart (failed : Nat) (identity : String) :
    s.Apart c (some identity) (unregister s c failed identity).2 := by
  unfold unregister Directory.removeIfHolder
  by_cases holder : s.directory.get? identity = some c
  · rw [if_pos holder]
    exact .remove holder
  · rw [if_neg holder]
    exact .refl s c _

theorem Action.apart {phase : Supervising} {out : Supervising × System}
    (leaving : ∀ identity, phase.stance.identity? = some identity → connection.identity? = some identity)
    (action : Action s c t connection phase out) : s.Apart c connection.identity? out.2 := by
  cases action with
  | receive => exact (receive_aside _ _).apart
  | start | fetch | load | write | claim | halt | failAll | queueLifecycle | releaseLifecycle | publish =>
    exact (Aside.update ..).apart
  | @reject envelope outbox error =>
    have taken : s.Aside c (s.update c fun x => { x with outbox }) := .update ..
    exact (taken.trans (leave_aside _)).apart
  | leave => exact (leave_aside _).apart
  | remark => exact (Aside.logs ..).apart
  | forgo | skip => exact .refl s c _
  | @queueIdentity failed identity _ known =>
    rw [known]
    exact .queueIdentity s c identity t
  | @unregister failed identity =>
    rw [leaving identity rfl]
    exact unregister_apart failed identity
  | mark delivered => exact (Aside.deliver? delivered).apart
  | complain delivered =>
    have told : s.Aside c _ := .deliver? delivered
    exact (told.trans (.log ..)).apart
  | announce published => exact (Aside.publish? published).apart
  | @releaseIdentity failed identity =>
    rw [leaving identity rfl]
    exact .releaseIdentity s c identity t
  | farewell => exact (Aside.log ..).apart

theorem next_apart {phase : Supervising} {out : Supervising × System} (here : s.connections[c]? = some connection)
    (leaving : ∀ identity, phase.stance.identity? = some identity → connection.identity? = some identity)
    (h : out ∈ phase.next s c t) : s.Apart c connection.identity? out.2 := by
  obtain ⟨other, found, action⟩ := action_of_next h
  cases found.symm.trans here
  exact action.apart leaving

end Supervising

end Fleetwire
