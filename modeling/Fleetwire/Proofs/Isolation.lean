import Fleetwire.Proofs.Calls
import Fleetwire.Proofs.Isolation.Frame
import Fleetwire.Proofs.Likeness
import Fleetwire.Proofs.Recording
import Fleetwire.Proofs.Tasks
import Mathlib.Logic.Relation

namespace Fleetwire

def Verdict.displaced? : Verdict → Option ConnectionId
  | admitted displaced => displaced
  | gone | refused => none

def Accepting.displaced? : Accepting → Option ConnectionId
  | marking displaced _ | announcing displaced _ | activate displaced => displaced
  | releaseIdentity verdict | releaseLifecycle verdict => verdict.displaced?
  | replace old _ => some old
  | _ => none

namespace System

def target? (s : System) : Event → Option ConnectionId
  | .operate c _ | .bind c _ _ | .peerWrites c _ | .peerEnds c | .peerReads c _ | .peerLeaves c => some c
  | .abort t => (s.tasks[t]?).bind Task.owner?
  | .takeOver .. => some s.connections.length
  | _ => none

inductive Acts (s : System) (c : ConnectionId) : System → Prop where
  | act {t : TaskId} {task : Task} {s' : System} (found : s.tasks[t]? = some task) (own : task.owner? = some c)
    (h : s' ∈ s.next t) : Acts s c s'
  | react {event : Event} (ordinary : s.Ordinary event) (own : s.target? event = some c) : Acts s c (s.react event)

/-- By its policy, the connection `c` takes the place of `b`, which has its identity. -/
structure Evicts (before : System) (c b : ConnectionId) (identity : String) (after : System) : Prop where
  different : b ≠ c
  policy : ∃ x, before.connections[c]? = some x ∧ x.identity? = some identity ∧
    x.settings.duplicateIdentity = .evict
  holder : before.directory.get? identity = some b
  taken : after.directory.get? identity = some c

def Evicted (states : List System) (c b : ConnectionId) (identity : String) : Prop :=
  ∃ before after, [after, before] <:+: states ∧ before.Evicts c b identity after

/-- What a step on behalf of the connection `c` leaves alone. -/
structure Isolated (states : List System) (s : System) (c : ConnectionId) (s' : System) : Prop where
  others : (∀ b, b ≠ c → s'.connections[b]? = s.connections[b]?) ∨
    ∃ b identity, Evicted states c b identity ∧ s.identity? c = some identity ∧ s.identity? b = some identity ∧
      s'.connections = s.connections.modify b fun x => { x with halted := true }
  tasks : ∀ (t : TaskId) (task : Task), task.owner? ≠ some c → (s'.tasks[t]? = some task ↔ s.tasks[t]? = some task)
  entries : ∀ identity, s.identity? c ≠ some identity → s'.directory.get? identity = s.directory.get? identity
  locks : ∀ identity, s.identity? c ≠ some identity →
    s'.directory.transition identity = s.directory.transition identity
  claims : ∀ identity, s'.directory.get? identity = s.directory.get? identity ∨
    s'.directory.get? identity = some c ∨
    s.directory.get? identity = some c ∧ s'.directory.get? identity = none
  halted : s'.halted = s.halted
  stopping : s'.stopping = s.stopping
  now : s'.now = s.now

/-- A step on behalf of another connection than `b`, which does not have the same identity. -/
def Strange (b : ConnectionId) (s s' : System) : Prop :=
  ∃ c, c ≠ b ∧ (∀ identity, s.identity? c = some identity → s.identity? b ≠ some identity) ∧ s.Acts c s'

def SameTo (b : ConnectionId) (s s' : System) : Prop :=
  s'.connections[b]? = s.connections[b]? ∧ s'.now = s.now

structure Undisturbed (s : System) (b : ConnectionId) (s' : System) : Prop where
  same : SameTo b s s'
  tasks : ∀ (t : TaskId) (task : Task), task.owner? = some b → (s'.tasks[t]? = some task ↔ s.tasks[t]? = some task)
  serves : ∀ t : TaskId, Agree (SameTo b) (Supervising.serving.next s b t) (Supervising.serving.next s' b t)
  calls : ∀ (t : TaskId) (call : Call), s.call? b t = some call → s'.call? b t = some call ∧
    (call.next s' b t).length = (call.next s b t).length ∧
    (call.phase ≠ .register → Agree (SameTo b) (call.next s b t) (call.next s' b t))

variable {s s' s₁ : System} {past states : List System} {b c : ConnectionId} {t : TaskId} {identity : String}

theorem Evicted.later (h : Evicted states c b identity) : Evicted (s :: states) c b identity := by
  obtain ⟨before, after, follows, evicts⟩ := h
  exact ⟨before, after, List.infix_cons follows, evicts⟩

end System

open Fleetwire.System

namespace Accepting

variable {s : System} {c old : ConnectionId} {t : TaskId} {connection : Connection} {announced : Announcement}

theorem evicts_of_enter (here : s.connections[c]? = some connection) (known : connection.announced = some announced)
    (displaced : (enter s c connection announced).1.displaced? = some old) :
    s.Evicts c old announced.identity (enter s c connection announced).2 := by
  have named : connection.identity? = some announced.identity := congrArg _ known
  unfold enter at displaced ⊢
  dsimp only at displaced ⊢
  split at displaced
  next evict =>
    obtain ⟨holder, different⟩ := Option.filter_eq_some_iff.1 displaced
    refine ⟨of_decide_eq_true different, ⟨connection, here, named, evict⟩, holder, ?_⟩
    exact (Directory.get?_put ..).trans (if_pos rfl)
  · split at displaced <;> cases displaced

theorem next_displaced {phase : Accepting} {out : Accepting × System} (h : out ∈ phase.next s c t)
    (displaced : out.1.displaced? = some old) :
    phase.displaced? = some old ∨ ∃ identity, s.Evicts c old identity out.2 := by
  obtain ⟨connection, here, action⟩ := action_of_next h
  cases action with
  | introduce =>
    dsimp only [introduce] at displaced
    split at displaced <;> cases displaced
  | awaitLifecycle =>
    dsimp only at displaced
    split at displaced <;> cases displaced
  | enter known => exact .inr ⟨_, evicts_of_enter here known displaced⟩
  | mark | complain | announce | activate | releaseIdentity | replace => exact .inl displaced
  | @conclude announced verdict =>
    cases verdict with
    | gone | refused => cases displaced
    | admitted former =>
      cases former with
      | none => cases displaced
      | some former => exact .inl displaced
  | _ => cases displaced

end Accepting

namespace System

variable {s s' s₁ : System} {past states : List System} {b c old : ConnectionId} {t : TaskId} {identity : String}

theorem Run.evicted (run : Run Ordinary (s :: past)) {phase : Accepting}
    (found : s.tasks[t]? = some (.accept c phase)) (displaced : phase.displaced? = some old) :
    ∃ identity, Evicted (s :: past) c old identity := by
  refine run.tasks_hold (motive := fun states task => ∀ phase, task = .accept c phase →
    phase.displaced? = some old → ∃ identity, Evicted states c old identity) ?_ ?_ ?_ found phase rfl displaced
  · rintro states task young phase rfl displaced
    cases phase with
    | handshake call => cases displaced
    | _ => cases young
  · intro states after task ih phase same displaced
    obtain ⟨identity, evicted⟩ := ih phase same displaced
    exact ⟨identity, evicted.later⟩
  · rintro before earlier t former task s₁ acted ih later rfl displaced
    obtain ⟨former, rfl, accepted⟩ := Task.next_accept acted
    rcases Accepting.next_displaced accepted displaced with displaced | ⟨identity, evicts⟩
    · obtain ⟨identity, evicted⟩ := ih former rfl displaced
      exact ⟨identity, evicted.later⟩
    · exact ⟨identity, before, _, ⟨[], earlier, rfl⟩,
        ⟨evicts.different, evicts.policy, evicts.holder, evicts.taken⟩⟩

theorem Run.identities_of_evicted (run : Run Ordinary (s :: past)) (h : Evicted (s :: past) c b identity) :
    s.identity? c = some identity ∧ s.identity? b = some identity := by
  obtain ⟨before, after, follows, evicts⟩ := h
  have member : before ∈ s :: past := follows.subset (by simp)
  obtain ⟨x, here, named, _⟩ := evicts.policy
  have inv := run.story.invariant _ (List.mem_map_of_mem member)
  obtain ⟨_, _, living, named', _⟩ := inv.entry_wellFormed evicts.holder
  obtain ⟨y, there, rfl⟩ := Option.map_eq_some_iff.1 living
  constructor
  · exact run.identity?_eq member (by rw [identity?, here, Option.bind_some, named])
  · exact run.identity?_eq member (by rw [identity?, there, Option.bind_some]; exact named')

theorem Isolated.of_apart (apart : s.Apart c (s.identity? c) s') : Isolated states s c s' where
  others := .inl apart.others
  tasks := apart.tasks
  entries := apart.entry
  locks := apart.lock
  claims := apart.claim
  halted := apart.halted
  stopping := apart.stopping
  now := apart.now

theorem aside_takeOver {addr : Endpoint} {settings : Settings} {socket : Socket} {belongs : Bool}
    (h : s.takeOver? addr settings socket belongs = some s') : s.Aside s.connections.length s' := by
  unfold takeOver? at h
  obtain ⟨made, _, h⟩ := Option.bind_eq_some_iff.1 h
  generalize newEq : { made with belongs, halted := belongs && s.halted } = new at h
  generalize callEq : ({ kind := .agentInfo, payload := _, timeout := _ } : Call) = call at h
  have added : s.Spares s.connections.length { s with connections := s.connections ++ [new] } := by
    refine ⟨fun b other => ?_, fun _ _ _ => Iff.rfl, rfl, rfl, rfl⟩
    exact (getElem?_concat ..).trans (if_neg other)
  cases h
  exact ⟨(added.trans (.spawn _ rfl)).trans (.spawn _ rfl), rfl⟩

theorem aside_abort {task : Task} (found : s.tasks[t]? = some task) (own : task.owner? = some c) :
    s.Aside c (s.abort t) := by
  unfold abort
  rw [found]
  cases task with
  | operate other operation =>
    cases own
    have broken : s.Aside c (operation.abort s c t) := operation.abort_aside
    cases operation with
    | finished result => exact ⟨(Spares.refl s c).setTask found rfl rfl, rfl⟩
    | _ => exact ⟨broken.toSpares.setTask found rfl rfl, broken.directory⟩
  | accept | supervise | handle | listen => exact .refl s c

theorem aside_react {event : Event} (own : s.target? event = some c) : s.Aside c (s.react event) := by
  cases event with
  | takeOver addr settings socket belongs =>
    cases own
    simp only [react]
    cases taken : s.takeOver? addr settings socket belongs with
    | none => exact .refl s _
    | some s' => exact aside_takeOver taken
  | operate other operation =>
    cases own
    exact ⟨.spawn s rfl, rfl⟩
  | abort t =>
    obtain ⟨task, found, owned⟩ := Option.bind_eq_some_iff.1 own
    exact aside_abort found owned
  | bind other kind handler | peerWrites other bytes | peerEnds other | peerReads other count | peerLeaves other =>
    cases own
    exact .update ..
  | arrive | release | elapse | halt | stop | unregister => cases own

theorem Run.leaving (run : Run Ordinary (s :: past)) {phase : Supervising} {x : Connection}
    (found : s.tasks[t]? = some (.supervise c phase)) (here : s.connections[c]? = some x) (identity : String)
    (leaving : phase.stance.identity? = some identity) : x.identity? = some identity := by
  have inv := run.story.invariant _ (List.mem_cons_self ..)
  obtain ⟨u, p, stands⟩ := inv.staffed.stands_of_supervise (duty_of_task found) (life_of_connection here)
  exact (inv.sound stands).introduced.leaving identity leaving

theorem Run.isolated_accept (run : Run Ordinary (s :: past)) {phase phase' : Accepting}
    (found : s.tasks[t]? = some (.accept c phase)) (acted : (phase', s₁) ∈ phase.next s c t) :
    Isolated (s :: past) s c (s₁.setTask t (.accept c phase')) := by
  cases here : s.connections[c]? with
  | none =>
    simp only [Accepting.next, here] at acted
    cases acted
  | some x =>
    have named : s.identity? c = x.identity? := by rw [identity?, here, Option.bind_some]
    have patient : ∀ old closing, phase = .replace old closing → closing.waits := by
      rintro old closing rfl
      exact ((run.proper _ (List.mem_cons_self ..)).tasks t _ found).waits closing rfl
    rcases Accepting.next_apart here patient acted with apart | ⟨old, closing, rfl, halts⟩
    · rw [← named] at apart
      exact .of_apart (apart.setTask found rfl rfl)
    · obtain ⟨identity, evicted⟩ := run.evicted found rfl
      obtain ⟨own, former⟩ := run.identities_of_evicted evicted
      dsimp only at halts
      subst halts
      have unchanged : s.Spares c (s.setTask t (.accept c phase')) := (Spares.refl s c).setTask found rfl rfl
      exact ⟨.inr ⟨old, identity, evicted, own, former, rfl⟩, unchanged.tasks, fun _ _ => rfl, fun _ _ => rfl,
        fun _ => .inl rfl, rfl, rfl, rfl⟩

theorem Run.isolated_supervise (run : Run Ordinary (s :: past)) {phase phase' : Supervising}
    (found : s.tasks[t]? = some (.supervise c phase)) (acted : (phase', s₁) ∈ phase.next s c t) :
    Isolated (s :: past) s c (s₁.setTask t (.supervise c phase')) := by
  cases here : s.connections[c]? with
  | none =>
    simp only [Supervising.next, here] at acted
    cases acted
  | some x =>
    have named : s.identity? c = x.identity? := by rw [identity?, here, Option.bind_some]
    have apart := Supervising.next_apart here (run.leaving found here) acted
    rw [← named] at apart
    exact .of_apart (apart.setTask found rfl rfl)

theorem Run.isolated (run : Run Ordinary (s :: past)) (acts : s.Acts c s') : Isolated (s :: past) s c s' := by
  cases acts with
  | react ordinary own => exact .of_apart (aside_react own).apart
  | @act t task s' found own h =>
    simp only [next, found] at h
    cases task with
    | accept c phase =>
      cases own
      obtain ⟨⟨phase', s₁⟩, acted, rfl⟩ := List.mem_map.1 h
      exact run.isolated_accept found acted
    | supervise c phase =>
      cases own
      obtain ⟨⟨phase', s₁⟩, acted, rfl⟩ := List.mem_map.1 h
      exact run.isolated_supervise found acted
    | handle c job phase =>
      cases own
      obtain ⟨⟨phase', s₁⟩, acted, rfl⟩ := List.mem_map.1 h
      exact .of_apart ((Handling.next_aside acted).apart.setTask found rfl rfl)
    | operate c phase =>
      cases own
      obtain ⟨⟨phase', s₁⟩, acted, rfl⟩ := List.mem_map.1 h
      exact .of_apart ((Operating.next_aside acted).apart.setTask found rfl rfl)
    | listen phase => cases own

theorem Acts.step (acts : s.Acts c s') : Step Ordinary s s' := by
  cases acts with
  | act found own h => exact .act _ h
  | react ordinary own => exact .react _ ordinary

theorem likeness_sameTo (b : ConnectionId) : Likeness (SameTo b) b where
  connection h := h.1
  now h := h.2
  update f h := ⟨by simp only [System.update, List.getElem?_modify, h.1], h.2⟩
  logs _ h := h
  spawn _ h := h

theorem Run.strange (run : Run Ordinary (s :: past)) (steps : Relation.ReflTransGen (Strange b) s s') :
    (∃ later, Run Ordinary (s' :: later)) ∧ SameTo b s s' ∧
      ∀ (t : TaskId) (task : Task), task.owner? = some b → (s'.tasks[t]? = some task ↔ s.tasks[t]? = some task) := by
  induction steps with
  | refl => exact ⟨⟨past, run⟩, ⟨rfl, rfl⟩, fun _ _ _ => Iff.rfl⟩
  | @tail s₁ s₂ _ strange ih =>
    obtain ⟨⟨later, run₁⟩, ⟨connection, now⟩, tasks⟩ := ih
    obtain ⟨c, different, foreign, acts⟩ := strange
    have isolated := run₁.isolated acts
    have unchanged : s₂.connections[b]? = s₁.connections[b]? := by
      rcases isolated.others with same | ⟨old, identity, _, own, former, halts⟩
      · exact same b different.symm
      · have other : old ≠ b := fun same => foreign identity own (same ▸ former)
        rw [halts, List.getElem?_modify_ne _ _ other]
    refine ⟨⟨_, run₁.step acts.step⟩, ⟨unchanged.trans connection, isolated.now.trans now⟩, fun t task own => ?_⟩
    have other : task.owner? ≠ some c := by
      rw [own]
      exact fun same => different (Option.some.inj same).symm
    exact (isolated.tasks t task other).trans (tasks t task own)

theorem owner?_of_call? {task : Task} {call : Call} (h : task.call? c = some call) : task.owner? = some c := by
  rcases Task.call?_cases h with rfl | ⟨job, left, rfl⟩ | ⟨shape, rfl⟩ <;> rfl

theorem Undisturbed.of_sameTo (same : SameTo b s s') (tasks : ∀ (t : TaskId) (task : Task), task.owner? = some b →
    (s'.tasks[t]? = some task ↔ s.tasks[t]? = some task)) : Undisturbed s b s' where
  same
  tasks
  serves t := by
    simp only [Supervising.next, same.1]
    cases s.connections[b]? with
    | none => exact .nothing
    | some x => exact Supervising.serve_agree (likeness_sameTo b) same
  calls t call calls := by
    obtain ⟨task, found, makes⟩ := Option.bind_eq_some_iff.1 calls
    refine ⟨?_, ?_, fun begun => Call.next_agree_of_begun (likeness_sameTo b) same call begun⟩
    · rw [call?, (tasks t task (owner?_of_call? makes)).2 found, Option.bind_some, makes]
    · by_cases begun : call.phase = .register
      · simp only [Call.next, same.1]
        cases s.connections[b]? with
        | none => rfl
        | some x => simp only [begun, List.length_singleton]
      · exact (List.Forall₂.length_eq (Call.next_agree_of_begun (likeness_sameTo b) same call begun)).symm

/-- A step on behalf of a connection changes nothing of any other connection and its tasks, nor the entry of any
identity but its own. Only a connection that has its identity, and whose place it took by its policy, is told to
close. So nothing that happens to other connections ends, hinders or answers a call on a connection with an identity
of its own. -/
theorem connections_are_isolated (run : Run Ordinary (s :: past)) :
    (∀ c s', s.Acts c s' → Isolated (s :: past) s c s') ∧
    ∀ b s', Relation.ReflTransGen (Strange b) s s' → Undisturbed s b s' := by
  refine ⟨fun c s' acts => run.isolated acts, fun b s' steps => ?_⟩
  obtain ⟨_, same, tasks⟩ := run.strange steps
  exact .of_sameTo same tasks

/-- Of three agents, the last takes the place of the first and is about to close it. The second is asked something
meanwhile. -/
def rivalry : List Choice :=
  admission 0 (.v4 10 0 0 1 4000) .evict "host" ++ admission 1 (.v4 10 0 0 2 4000) .evict "guest" ++
    admission 2 (.v4 10 0 0 3 4000) .evict "host" ++
    .react (.operate 1 (.calling none { question 0 0 with phase := .register })) :: .replicate 4 (.act 6 0)

theorem connections_are_isolated_in_rivalry :
    let s := (replay {} [] rivalry).1
    let past := (replay {} [] rivalry).2
    ∃ s', s.Acts 2 s' ∧ Strange 1 s s' ∧
      (s.connections[0]?).map Connection.halted = some false ∧
      (s'.connections[0]?).map Connection.halted = some true ∧
      Evicted (s :: past) 2 0 "host" ∧ s'.connections[1]? = s.connections[1]? ∧
      s'.directory.get? "guest" = some 1 ∧ s'.call? 1 6 = some (question 3 1) ∧
      Agree (SameTo 1) ((question 3 1).next s 1 6) ((question 3 1).next s' 1 6) := by
  have run := run_replay_empty rivalry
  have owner : (((replay {} [] rivalry).1.tasks[4]?).bind Task.owner?) = some 2 := by decide +kernel
  have able : ((replay {} [] rivalry).1.next 4).isEmpty = false := by decide +kernel
  have halts : ∀ s' ∈ (replay {} [] rivalry).1.next 4,
      (s'.connections[0]?).map Connection.halted = some true := by decide +kernel
  have before : ((replay {} [] rivalry).1.connections[0]?).map Connection.halted = some false := by
    decide +kernel
  have newcomer : (replay {} [] rivalry).1.identity? 2 = some "host" := by decide +kernel
  have bystander : (replay {} [] rivalry).1.identity? 1 = some "guest" := by decide +kernel
  have calls : (replay {} [] rivalry).1.call? 1 6 = some (question 3 1) := by decide +kernel
  have entry : (replay {} [] rivalry).1.directory.get? "guest" = some 1 := by decide +kernel
  dsimp only
  -- The run is not looked into any more.
  generalize (replay {} [] rivalry).1 = s at *
  generalize (replay {} [] rivalry).2 = past at *
  obtain ⟨task, found, own⟩ := Option.bind_eq_some_iff.1 owner
  obtain ⟨s', member⟩ := List.exists_mem_of_ne_nil _ (List.isEmpty_eq_false_iff.1 able)
  have acts : s.Acts 2 s' := .act found own member
  have strange : Strange 1 s s' := by
    refine ⟨2, by decide, fun identity known => ?_, acts⟩
    rw [newcomer] at known
    cases known
    rw [bystander]
    decide
  obtain ⟨isolates, undisturbed⟩ := connections_are_isolated run
  have isolated := isolates 2 s' acts
  have rest := undisturbed 1 s' (.single strange)
  obtain ⟨calls', _, agrees⟩ := rest.calls 6 _ calls
  have changed : s'.connections[0]? ≠ s.connections[0]? := fun same => by
    have now := halts s' member
    rw [same, before] at now
    cases now
  have evicted : Evicted (s :: past) 2 0 "host" := by
    rcases isolated.others with same | ⟨b, identity, evicted, own, _, halted⟩
    · exact absurd (same 0 (by decide)) changed
    · rw [newcomer] at own
      cases own
      by_cases first : b = 0
      · exact first ▸ evicted
      · rw [halted, List.getElem?_modify_ne _ _ first] at changed
        exact absurd rfl changed
  refine ⟨s', acts, strange, before, halts s' member, evicted, rest.same.1, ?_, calls', agrees (by decide)⟩
  rw [isolated.entries "guest" (by rw [newcomer]; decide), entry]

end System

end Fleetwire
