import Fleetwire.Proofs.Closing.Work
import Fleetwire.Proofs.Isolation
import Fleetwire.Proofs.Traffic.Requests

namespace Fleetwire

inductive Calling.Dismissed : Calling → Prop where
  | register : Dismissed .register
  | check (request : Message) (slot : SlotId) (deadline : Nat) : Dismissed (.send request slot deadline .check)
  | forget (request : Message) : Dismissed (.forget request .disconnected)

def Call.ownId (s : System) (call : Call) : MessageId := (call.phase.request?.map Message.id).getD (.fresh s.nextId)

namespace System

def outbox? (s : System) (c : ConnectionId) : Option Outbox := (s.connections[c]?).map Connection.outbox

def pending? (s : System) (c : ConnectionId) (id : MessageId) : Option SlotId :=
  (s.connections[c]?).bind fun x => x.router.pending.get? id

/-- An action of a call comes to this, and to nothing else: it goes on towards its end, or it fails, and neither the
queue nor any id but its own is touched. -/
structure Dismisses (s : System) (c : ConnectionId) (t : TaskId) (call : Call)
    (progress : Progress Calling (Except LinkError Bytes)) (s' : System) : Prop where
  only : call.next s c t = [(progress, s')]
  fails : progress = .ended (.error .disconnected) ∧ s'.pending? c (call.ownId s) = none ∨
    ∃ later, progress = .going later ∧ later.Dismissed ∧ later.rank < call.phase.rank
  queue : s'.outbox? c = s.outbox? c
  others : ∀ id, id ≠ call.ownId s → s'.pending? c id = s.pending? c id

end System

theorem Line.leave_of_not_mem {Member : Type} [DecidableEq Member] {line : Line Member} {member : Member}
    (away : member ∉ line.members) : line.leave member = line := by
  have all : ∀ other ∈ line.members, decide (other ≠ member) = true := fun other inside =>
    decide_eq_true fun same => away (same ▸ inside)
  unfold leave
  rw [List.filter_eq_self.2 all]

namespace System

variable {s s' : System} {past : List System} {c : ConnectionId} {t : TaskId} {x : Connection} {call : Call}

theorem sending_of_closed (here : s.connections[c]? = some x) (closed : x.closed) (t : TaskId) (message : Message) :
    Sending.check.next s c t message = [(.ended (.error .disconnected), s)] := by
  simp only [Sending.next, here, closed, if_true]

theorem station_of_call? {task : Task} (calls : task.call? c = some call) : task.station c = call.phase.station := by
  rcases Task.call?_cases calls with rfl | ⟨job, left, rfl⟩ | ⟨shape, rfl⟩ <;> exact if_pos rfl

theorem not_mem_line (linedUp : s.LinedUp) (calls : s.call? c t = some call) (idle : ¬ call.phase.station.InLine) :
    t ∉ s.line c := by
  obtain ⟨task, found, calls⟩ := Option.bind_eq_some_iff.1 calls
  rw [linedUp, station_of_task found, station_of_call? calls]
  exact idle

theorem dismisses (linedUp : s.LinedUp) (here : s.connections[c]? = some x) (closed : x.closed)
    (calls : s.call? c t = some call) (dismissed : call.phase.Dismissed) :
    ∃ progress s', s.Dismisses c t call progress s' := by
  obtain ⟨kind, payload, timeout, phase⟩ := call
  cases dismissed with
  | register =>
    let request := Message.request (.fresh s.nextId) kind payload
    let expecting := x.router.expect request.id
    refine ⟨.going (.send request expecting.1 (s.now + timeout.nanoseconds) .check),
      { s.update c (fun y => { y with router := expecting.2 }) with nextId := s.nextId + 1 }, ?_,
      .inr ⟨_, rfl, .check .., Nat.lt_succ_self _⟩, ?_, fun id other => ?_⟩
    · simp only [Call.next, here, request, expecting]
    · simp [outbox?, System.update, here]
    · have own : id ≠ request.id := other
      simp [pending?, System.update, here, expecting, Router.pending_expect, Assoc.get?_insert, own]
  | check request slot deadline =>
    have away : t ∉ x.outbox.senders.members := line_of_connection here ▸ not_mem_line linedUp calls id
    have kept : x.outbox.leave t = x.outbox := by
      simp only [Outbox.leave, Line.leave_of_not_mem away]
    refine ⟨.going (.forget request .disconnected), Call.giveUp s c t slot, ?_,
      .inr ⟨_, rfl, .forget .., by simp [Calling.rank]⟩, ?_, fun id other => ?_⟩
    · simp only [Call.next, here, sending_of_closed here closed, List.map_cons, List.map_nil]
    · simp [outbox?, Call.giveUp, System.update, here, kept]
    · simp [pending?, Call.giveUp, System.update, here, Router.abandon]
  | forget request =>
    refine ⟨.ended (.error .disconnected),
      s.update c fun y => { y with router := (y.router.cancel request.id).2 }, ?_, .inl ⟨rfl, ?_⟩, ?_,
      fun id other => ?_⟩
    · simp only [Call.next, here]
    · simp [pending?, System.update, here, Router.get?_pending_cancel, Call.ownId, Calling.request?]
    · simp [outbox?, System.update, here]
    · have own : id ≠ request.id := other
      simp [pending?, System.update, here, Router.get?_pending_cancel, own]

end System

theorem Task.next_of_call? {s s₁ : System} {c : ConnectionId} {t : TaskId} {task task' : Task} {call : Call}
    (calls : task.call? c = some call) (acted : (task', s₁) ∈ task.next s t) :
    ∃ progress s₂, (progress, s₂) ∈ call.next s c t ∧ task'.part c = .ofProgress call progress := by
  rcases Task.call?_cases calls with rfl | ⟨job, left, rfl⟩ | ⟨shape, rfl⟩
  · obtain ⟨⟨phase, s₂⟩, accepted, same⟩ := List.mem_map.1 acted
    cases same
    obtain ⟨x, _, action⟩ := Accepting.action_of_next accepted
    generalize result : (phase, s₁) = out at action
    cases action with
    | ask called =>
      cases result
      exact ⟨_, _, called, if_pos rfl⟩
    | @introduce _ response s₃ called =>
      have part : (Accepting.introduce s₃ c x response).1.part c c = .none := Accepting.introduce_part response c
      rw [← result] at part
      exact ⟨_, s₃, called, part⟩
  · obtain ⟨⟨phase, s₂⟩, handled, same⟩ := List.mem_map.1 acted
    cases same
    obtain ⟨_, _, _, _, performs⟩ := Handling.performs_of_next handled
    cases performs with
    | ask called | answered called => exact ⟨_, _, called, if_pos rfl⟩
  · obtain ⟨⟨phase, s₂⟩, operated, same⟩ := List.mem_map.1 acted
    cases same
    obtain ⟨⟨progress, s₂⟩, called, same⟩ := List.mem_map.1 operated
    refine ⟨progress, s₂, called, ?_⟩
    cases progress <;> (cases same; exact if_pos rfl)

namespace System

variable {s s' : System} {past : List System} {c : ConnectionId} {t : TaskId} {x : Connection} {call : Call}

theorem Run.linedUp (run : Run Genuine (s :: past)) : s.LinedUp := by
  generalize all : s :: past = states at run
  induction run generalizing s past with
  | start initial =>
    cases all
    exact initial.linedUp
  | @step before after earlier run step ih =>
    cases all
    cases step with
    | act t h =>
      obtain ⟨task, s₁, task', found, turns, rfl⟩ := next_turns (run.founded _ (List.mem_cons_self ..)) h
      exact (ih rfl).turn found turns
    | react event genuine => exact (ih rfl).react genuine

theorem closed_of_claimed (claimed : (s.traffic c).Claimed) : ∃ x, s.connections[c]? = some x ∧ x.closed := by
  obtain ⟨e, exchange, closed⟩ := claimed
  obtain ⟨x, here, rfl⟩ := Option.map_eq_some_iff.1 exchange
  exact ⟨x, here, closed⟩

theorem pending?_fresh (course : Traffic.Course ((s :: past).map (traffic c)))
    (distinct : Traffic.Distinct (s.nextId + 1)) : s.pending? c (.fresh s.nextId) = none := by
  cases here : s.connections[c]? with
  | none => rw [pending?, here, Option.bind_none]
  | some x =>
    have smaller : Traffic.Distinct (s.traffic c).nextId := fun i j less less' =>
      distinct i j (Nat.lt_succ_of_lt less) (Nat.lt_succ_of_lt less')
    have named := (Traffic.Course.named course smaller _ (List.mem_cons_self ..)).1
    rw [pending?, here, Option.bind_some]
    by_contra known
    obtain ⟨slot, known⟩ := Option.ne_none_iff_exists'.1 known
    obtain ⟨k, less, same⟩ := named.pending _ _ _ (exchange_of_connection here) known
    exact Nat.ne_of_gt less (distinct _ k (Nat.lt_succ_self _) (Nat.lt_succ_of_lt less) same)

theorem Step.call_origin (founded : s.Founded) (step : Step Genuine s s') (calls : s'.call? c t = some call) :
    s.call? c t = some call ∨ call.phase = .register ∨
      ∃ former later s₁, s.call? c t = some former ∧ (.going later, s₁) ∈ former.next s c t ∧
        call = { former with phase := later } := by
  have after := call?_eq_some.1 calls
  rcases ((step.moves founded).traffic c).origin after with same | new | ⟨_, _, _, _, _, _, _, before, _⟩
  · exact .inl (call?_eq_some.2 same)
  · exact .inr (.inl new)
  · obtain ⟨task, found, makes⟩ := Option.bind_eq_some_iff.1 (call?_eq_some.2 before)
    rcases step.task_becomes founded found with kept | ⟨own, operation, _, aborted⟩ | ⟨task', s₁, acted, _, now⟩
    · rw [call?, kept, Option.bind_some] at calls
      exact .inl (Option.bind_eq_some_iff.2 ⟨task, found, calls⟩)
    · rw [part_of_task aborted, Task.part] at after
      split at after <;> cases after
    · obtain ⟨progress, s₂, acts, part⟩ := Task.next_of_call? makes acted
      rw [part_of_task now, part] at after
      cases progress with
      | ended => cases after
      | going later => exact .inr (.inr ⟨_, later, s₂, call?_eq_some.2 before, acts, (Part.calling.inj after).symm⟩)

theorem Step.dismissed (founded : s.Founded) (linedUp : s.LinedUp) (step : Step Genuine s s')
    (claimed : (s.traffic c).Claimed) (former : ∀ call, s.call? c t = some call → call.phase.Dismissed)
    (calls : s'.call? c t = some call) : call.phase.Dismissed := by
  rcases step.call_origin founded calls with same | new | ⟨before, later, s₁, called, acts, rfl⟩
  · exact former _ same
  · rw [new]
    exact .register
  · obtain ⟨x, here, closed⟩ := closed_of_claimed claimed
    obtain ⟨progress, _, only⟩ := dismisses linedUp here closed called (former _ called)
    rw [only.only] at acts
    cases List.mem_singleton.1 acts
    rcases only.fails with ⟨fails, _⟩ | ⟨_, same, still, _⟩
    · cases fails
    · cases same
      exact still

theorem Run.dismissed (run : Run Genuine (s :: past)) {start : System} {earlier : List System}
    (follows : start :: earlier <:+ s :: past) (was : WasGone (start :: earlier) c)
    (begins : ∀ call, start.call? c t = some call → call.phase = .register) (calls : s.call? c t = some call) :
    call.phase.Dismissed := by
  generalize all : s :: past = states at run
  induction run generalizing s past call with
  | start initial =>
    cases all
    rcases List.suffix_cons_iff.1 follows with same | nothing
    · cases same
      rw [begins call calls]
      exact .register
    · cases List.suffix_nil.1 nothing
  | @step before after past run step ih =>
    cases all
    rcases List.suffix_cons_iff.1 follows with same | sooner
    · cases same
      rw [begins call calls]
      exact .register
    · have was' : WasGone (before :: past) c := was.imp fun _ h => ⟨sooner.subset h.1, h.2⟩
      have claimed := ((run.closedByOne c).gone was').1
      exact step.dismissed (run.founded _ (List.mem_cons_self ..)) run.linedUp claimed
        (fun call calls => ih sooner calls rfl) calls

end System

end Fleetwire
