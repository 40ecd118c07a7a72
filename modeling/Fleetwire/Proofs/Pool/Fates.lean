import Mathlib.Data.List.Induction
import Fleetwire.Proofs.Pool.Accounting

namespace Fleetwire.Router

structure Forgotten (r : Router) (slot : SlotId) : Prop where
  made : slot < r.slots.length
  unpending : ∀ id, r.pending.get? id ≠ some slot

def Unshared (r : Router) : Prop :=
  ∀ id other slot, r.pending.get? id = some slot → r.pending.get? other = some slot → id = other

variable {r : Router} {slot : SlotId}

theorem Forgotten.perform (h : r.Forgotten slot) (operation : Operation) : (r.perform operation).Forgotten slot := by
  refine ⟨Nat.lt_of_lt_of_le h.made (length_slots_perform r operation), fun id leads => ?_⟩
  rw [get?_pending_perform] at leads
  split at leads
  · cases leads
    exact Nat.lt_irrefl _ h.made
  · split at leads
    · cases leads
    · exact h.unpending id leads

theorem Forgotten.run (h : r.Forgotten slot) (operations : List Operation) : (r.run operations).Forgotten slot := by
  induction operations generalizing r with
  | nil => exact h
  | cons operation operations ih => exact ih (h.perform operation)

theorem Unshared.perform (h : r.Unshared) (bounded : r.Bounded) (operation : Operation) :
    (r.perform operation).Unshared := by
  intro id other slot leads leads'
  rw [get?_pending_perform] at leads leads'
  split at leads
  next made =>
    cases leads
    split at leads'
    next made' => exact Option.some.inj (made.symm.trans made')
    · split at leads'
      · cases leads'
      · exact absurd (bounded other _ leads') (Nat.lt_irrefl _)
  · split at leads
    · cases leads
    · split at leads'
      · cases leads'
        exact absurd (bounded id _ leads) (Nat.lt_irrefl _)
      · split at leads'
        · cases leads'
        · exact h id other slot leads leads'

theorem Unshared.run (h : r.Unshared) (bounded : r.Bounded) (operations : List Operation) :
    (r.run operations).Unshared := by
  induction operations generalizing r with
  | nil => exact h
  | cons operation operations ih => exact ih (h.perform bounded operation) (bounded.perform operation)

theorem Unshared.forgotten (h : r.Unshared) (bounded : r.Bounded) {message : Message}
    (leads : r.pending.get? message.id = some slot) : (r.perform (.route message)).Forgotten slot := by
  refine ⟨Nat.lt_of_lt_of_le (bounded _ _ leads) (length_slots_perform r _), fun id found => ?_⟩
  rw [Router.perform, get?_pending_route] at found
  split at found
  · cases found
  next different => exact different (h id message.id slot found leads)

theorem route_fates (r : Router) (message : Message) :
    (∃ slot, r.pending.get? message.id = some slot ∧ r.route message = (.response, r.respond slot message)) ∨
    r.pending.get? message.id = none ∧
      (r.handlers.get? message.kind = none ∧ r.route message = (.unhandled, [noHandler message.kind], r) ∨
      ∃ handler, r.handlers.get? message.kind = some handler ∧
        (r.jobs.size < r.capacity ∧ r.route message = (.handler, [], { r with
            jobs := r.jobs.insert r.admitted { handler, message }
            admitted := r.admitted + 1 }) ∨
          ¬ r.jobs.size < r.capacity ∧
            r.route message = (.overflow, [backlogFull message.kind], { r with faulted := true }))) := by
  cases pending : r.pending.get? message.id with
  | some slot => exact Or.inl ⟨slot, rfl, by simp [route, pending]⟩
  | none =>
    refine Or.inr ⟨rfl, ?_⟩
    cases bound : r.handlers.get? message.kind with
    | none => exact Or.inl ⟨rfl, route_of_unbound pending bound⟩
    | some handler =>
      refine Or.inr ⟨handler, rfl, ?_⟩
      by_cases room : r.jobs.size < r.capacity
      · exact Or.inl ⟨room, route_of_room pending bound room⟩
      · exact Or.inr ⟨room, route_of_full pending bound room⟩

def Operation.bound? (kind : MessageKind) : Operation → Option Handler
  | bind bound handler => if kind = bound then some handler else none
  | _ => none

theorem handlers_route (r : Router) (message : Message) : (r.route message).2.2.handlers = r.handlers := by
  obtain ⟨slot, _, routed⟩ | ⟨_, ⟨_, routed⟩ | ⟨handler, _, ⟨_, routed⟩ | ⟨_, routed⟩⟩⟩ := route_fates r message
  · rw [routed]
    simp only [respond]
    split <;> rfl
  all_goals rw [routed]

theorem get?_handlers_perform (r : Router) (operation : Operation) (kind : MessageKind) :
    (r.perform operation).handlers.get? kind = (operation.bound? kind).or (r.handlers.get? kind) := by
  cases operation with
  | bind bound handler =>
    refine (Assoc.get?_insert ..).trans ?_
    rw [Operation.bound?]
    split <;> rfl
  | expect id =>
    obtain ⟨pending, slots, after⟩ := expect_calls r id
    exact congrArg (fun r => r.handlers.get? kind) after
  | cancel id =>
    obtain ⟨pending, slots, after⟩ := cancel_calls r id
    exact congrArg (fun r => r.handlers.get? kind) after
  | failAll =>
    obtain ⟨slots, after⟩ := closeSlots_calls r.pending.values r
    exact congrArg (fun r => r.handlers.get? kind) after
  | route message => exact congrArg (·.get? kind) (handlers_route r message)
  | finish job ending =>
    rw [perform, finish]
    split
    · rfl
    · cases ending <;> rfl
  | _ => rfl

def Turn.bound? (kind : MessageKind) : Turn → Option Handler
  | .order (.bind bound handler) => if kind = bound then some handler else none
  | _ => none

namespace Session

variable {s s' : Session} {turn : Turn} {turns before after : List Turn} {message : Message} {id : JobId} {job : Job}

def operation? (s : Session) : Turn → Option Operation
  | .order (.bind kind handler) => some (.bind kind handler)
  | .order (.expect id _) => some (.expect id)
  | .order (.leave caller) => (s.callers.get? caller).map .abandon
  | .order (.cancel id) => some (.cancel id)
  | .order .failAll => some .failAll
  | .order (.route message) => some (.route message)
  | .order (.release _) => none
  | .job id =>
    match s.event? (.job id) with
    | some (.ended _ ending) => some (.finish id ending)
    | _ => if s.jobs.get? id = some .admitted then (s.router.jobs.get? id).map fun _ => .askWorker id else none

def operations (s : Session) : List Turn → List Operation
  | [] => []
  | turn :: turns => (s.operation? turn).toList ++ (s.next turn).operations turns

@[simp] theorem router_sight (handler : Handler) (sighting : String → Sighting) :
    (s.sight handler sighting).router = s.router := by
  unfold sight
  split <;> rfl

theorem router_act {left : List Action} (acted : s.act id job left = some s') :
    s'.router = s.router.run ((ending? left).map (Operation.finish id)).toList := by
  cases left with
  | nil =>
    cases acted
    simp only [finish, router_sight]
    rfl
  | cons action left =>
    cases action with
    | stall => cases acted
    | reply | refuse =>
      cases acted
      simp only [setState, router_sight]
      rfl
    | _ =>
      cases acted
      rfl

theorem router_step (moved : s.step id = some s') : s'.router = s.router.run (s.operation? (.job id)).toList := by
  unfold step at moved
  obtain ⟨job, known, moved⟩ := Option.bind_eq_some_iff.1 moved
  obtain ⟨state, found, moved⟩ := Option.bind_eq_some_iff.1 moved
  simp only [operation?, event?, known, found, Option.bind_some, Option.bind_eq_bind]
  cases state with
  | admitted =>
    cases moved
    rfl
  | queued =>
    dsimp only at moved
    split at moved
    next served =>
      cases moved
      simp [served, setState, router_sight, run]
    · cases moved
  | acting left =>
    rw [router_act moved]
    dsimp only
    cases ending? left <;> rfl
  | passing left =>
    obtain ⟨gate, _, moved⟩ := Option.bind_eq_some_iff.1 moved
    cases moved
    rfl

theorem router_next (s : Session) (turn : Turn) : (s.next turn).router = s.router.run (s.operation? turn).toList := by
  cases turn with
  | order order =>
    cases order with
    | leave caller =>
      simp only [next, obey, operation?]
      cases s.callers.get? caller <;> rfl
    | _ => rfl
  | job id =>
    cases moved : s.step id with
    | some s' =>
      rw [next, moved]
      exact router_step moved
    | none =>
      rw [next, moved, operation?, event?_of_waiting moved]
      cases known : s.router.jobs.get? id with
      | none => simp [run]
      | some job =>
        -- A job that has just been admitted can always ask for a worker.
        have asked : s.jobs.get? id ≠ some .admitted := fun state => by
          simp [step, known, state] at moved
        simp [asked, run]

theorem router_play (s : Session) (turns : List Turn) : (s.play turns).router = s.router.run (s.operations turns) := by
  induction turns generalizing s with
  | nil => rfl
  | cons turn turns ih =>
    rw [play_cons, ih, router_next, operations, run_append]

def lastBound? (kind : MessageKind) (turns : List Turn) : Option Handler :=
  turns.reverse.findSome? (Turn.bound? kind)

theorem bound?_operation? (s : Session) (turn : Turn) (kind : MessageKind) :
    (s.operation? turn).bind (Operation.bound? kind) = turn.bound? kind := by
  cases turn with
  | order order =>
    cases order with
    | leave caller =>
      simp only [operation?]
      cases s.callers.get? caller <;> rfl
    | _ => rfl
  | job id =>
    rw [operation?]
    split
    · rfl
    · split
      · cases s.router.jobs.get? id <;> rfl
      · rfl

theorem get?_handlers_next (s : Session) (turn : Turn) (kind : MessageKind) :
    (s.next turn).router.handlers.get? kind = (turn.bound? kind).or (s.router.handlers.get? kind) := by
  rw [router_next, ← bound?_operation? s]
  cases s.operation? turn with
  | none => rfl
  | some operation => exact get?_handlers_perform ..

theorem get?_handlers_play (s : Session) (turns : List Turn) (kind : MessageKind) :
    (s.play turns).router.handlers.get? kind = (lastBound? kind turns).or (s.router.handlers.get? kind) := by
  induction turns generalizing s with
  | nil => rfl
  | cons turn turns ih =>
    have last : [turn].findSome? (Turn.bound? kind) = turn.bound? kind := List.findSome?_singleton ..
    rw [play_cons, ih, get?_handlers_next, lastBound?, lastBound?, List.reverse_cons, List.findSome?_append, last,
      Option.or_assoc]

def calls (id : JobId) (seen : List Event) : List Job := seen.filterMap fun
  | .started other job => if other = id then some job else none
  | _ => none

theorem calls_append (id : JobId) (before after : List Event) :
    calls id (before ++ after) = calls id before ++ calls id after := List.filterMap_append ..

theorem mem_calls {seen : List Event} : job ∈ calls id seen ↔ Event.started id job ∈ seen := by
  rw [calls, List.mem_filterMap]
  constructor
  · rintro ⟨event, member, called⟩
    cases event with
    | started other =>
      dsimp only at called
      split at called
      next same =>
        cases called
        exact same ▸ member
      · cases called
    | _ => cases called
  · exact fun member => ⟨_, member, if_pos rfl⟩

end Session

namespace Pool

open Session (calls)

variable {p p' : Pool} {event : Option Event} {id : JobId} {job : Job} {seen : List Event}

def Unended (id : JobId) (seen : List Event) : Prop := ∀ ending, Event.ended id ending ∉ seen

/-- How far the job is, with what has been seen of it. -/
inductive Stage (id : JobId) (job : Job) (p : Pool) (seen : List Event) : Prop
  | waiting (known : p.jobs.get? id = some job)
      (waits : p.states.get? id = some .admitted ∨ p.states.get? id = some .queued) (uncalled : calls id seen = [])
      (unended : Unended id seen)
  | atWork {state : JobState} (known : p.jobs.get? id = some job) (found : p.states.get? id = some state)
      (runs : state.runs) (called : calls id seen = [job]) (unended : Unended id seen)
  | past (old : id < p.admitted) (gone : p.states.get? id = none) (called : calls id seen = [job])

theorem Stage.old (stage : Stage id job p seen) (listed : p.Listed) : id < p.admitted := by
  cases stage with
  | waiting _ waits => exact waits.elim (listed.fresh id _) (listed.fresh id _)
  | atWork _ found => exact listed.fresh id _ found
  | past old => exact old

theorem Stage.of_idle (stage : Stage id job p seen) {state : JobState} (found : p.states.get? id = some state)
    (idle : state.runs = false) : p.jobs.get? id = some job ∧ calls id seen = [] ∧ Unended id seen := by
  cases stage with
  | waiting known _ uncalled unended => exact ⟨known, uncalled, unended⟩
  | atWork _ found' runs =>
    cases found.symm.trans found'
    cases idle.symm.trans runs
  | past _ gone => cases found.symm.trans gone

theorem Stage.of_runs (stage : Stage id job p seen) {state : JobState} (found : p.states.get? id = some state)
    (runs : state.runs) : p.jobs.get? id = some job ∧ calls id seen = [job] ∧ Unended id seen := by
  cases stage with
  | waiting _ waits =>
    obtain waits | waits := waits <;> cases found.symm.trans waits <;> cases runs
  | atWork known _ _ called unended => exact ⟨known, called, unended⟩
  | past _ gone => cases found.symm.trans gone

def Apart (id : JobId) (event : Option Event) : Prop := calls id event.toList = [] ∧ Unended id event.toList

theorem Unended.append {more : List Event} (before : Unended id seen) (after : Unended id more) :
    Unended id (seen ++ more) :=
  fun ending member => (List.mem_append.1 member).elim (before ending) (after ending)

theorem calls_of_apart (apart : Apart id event) : calls id (seen ++ event.toList) = calls id seen := by
  rw [Session.calls_append, apart.1, List.append_nil]

theorem Stage.frame (stage : Stage id job p seen) (sameJob : p'.jobs.get? id = p.jobs.get? id)
    (sameState : p'.states.get? id = p.states.get? id) (admitted : p.admitted ≤ p'.admitted)
    (apart : Apart id event) : Stage id job p' (seen ++ event.toList) := by
  have same : calls id (seen ++ event.toList) = calls id seen := calls_of_apart apart
  cases stage with
  | waiting known waits none unended =>
    exact .waiting (sameJob.trans known) (sameState.symm ▸ waits) (same.trans none) (unended.append apart.2)
  | atWork known found runs called unended =>
    exact .atWork (sameJob.trans known) (sameState.trans found) runs (same.trans called) (unended.append apart.2)
  | past old gone called => exact .past (Nat.lt_of_lt_of_le old admitted) (sameState.trans gone) (same.trans called)

theorem apart_started {other : JobId} (different : id ≠ other) : Apart id (some (.started other job)) :=
  ⟨by simp [calls, Ne.symm different], by simp [Unended]⟩

theorem apart_ended {other : JobId} {ending : Ending} (different : id ≠ other) :
    Apart id (some (.ended other ending)) :=
  ⟨rfl, by simp [Unended, different]⟩

theorem Stage.move (stage : Stage id job p seen) (listed : p.Listed) (move : p.Move event p') :
    Stage id job p' (seen ++ event.toList) := by
  have insert_of_ne {Value : Type} (map : Assoc JobId Value) {other : JobId} (value : Value) (different : id ≠ other) :
      (map.insert other value).get? id = map.get? id := by
    rw [Assoc.get?_insert, if_neg different]
  have insert_self (map : Assoc JobId JobState) (state : JobState) : (map.insert id state).get? id = some state := by
    rw [Assoc.get?_insert, if_pos rfl]
  have quiet : Apart id none := ⟨rfl, nofun⟩
  have routed (message : Message) (fate : Fate) : Apart id (some (.routed message fate)) :=
    ⟨rfl, by simp [Unended]⟩
  cases move with
  | idle => exact stage.frame rfl rfl (Nat.le_refl _) quiet
  | pass | refuse => exact stage.frame rfl rfl (Nat.le_refl _) (routed ..)
  | enlist job =>
    -- The new job gets an id above all that were given out.
    have different : id ≠ p.admitted := Nat.ne_of_lt (stage.old listed)
    exact stage.frame (insert_of_ne _ _ different) (insert_of_ne _ _ different) (Nat.le_succ _) (routed ..)
  | @ask other found =>
    by_cases same : id = other
    · subst same
      obtain ⟨known, uncalled, unended⟩ := stage.of_idle found rfl
      exact .waiting known (Or.inr (insert_self ..)) ((calls_of_apart quiet).trans uncalled) (unended.append quiet.2)
    · exact stage.frame rfl (insert_of_ne _ _ same) (Nat.le_refl _) quiet
  | @start other started known' found served =>
    by_cases same : id = other
    · subst same
      obtain ⟨known, uncalled, unended⟩ := stage.of_idle found rfl
      cases known.symm.trans known'
      have called : calls id (seen ++ [.started id job]) = [job] := by
        rw [Session.calls_append, uncalled]
        simp [calls]
      exact .atWork known (insert_self ..) rfl called (unended.append (by simp [Unended]))
    · exact stage.frame rfl (insert_of_ne _ _ same) (Nat.le_refl _) (apart_started same)
  | @act other _ _ found runs still =>
    by_cases same : id = other
    · subst same
      obtain ⟨known, called, unended⟩ := stage.of_runs found runs
      exact .atWork known (insert_self ..) still ((calls_of_apart quiet).trans called) (unended.append quiet.2)
    · exact stage.frame rfl (insert_of_ne _ _ same) (Nat.le_refl _) quiet
  | @finish other _ _ ending known found ends =>
    by_cases same : id = other
    · subst same
      obtain ⟨_, called, _⟩ := stage.of_runs found rfl
      have called : calls id (seen ++ [.ended id ending]) = [job] := by
        rw [Session.calls_append, called]
        rfl
      exact .past (stage.old listed) (by rw [Assoc.get?_erase, if_pos rfl]) called
    · have jobs : (p.jobs.erase other).get? id = p.jobs.get? id := by rw [Assoc.get?_erase, if_neg same]
      have states : (p.states.erase other).get? id = p.states.get? id := by rw [Assoc.get?_erase, if_neg same]
      exact stage.frame jobs states (Nat.le_refl _) (apart_ended same)

/-- Of each job that was admitted, and of no other one, it has been seen how far it is. -/
structure Told (p : Pool) (seen : List Event) : Prop where
  stage : ∀ id, id < p.admitted → ∃ job, Stage id job p seen
  unseen : ∀ id, p.admitted ≤ id → calls id seen = [] ∧ Unended id seen

theorem Told.enlist (inv : p.Told seen) (job : Job) : Stage p.admitted job
    { p with
      jobs := p.jobs.insert p.admitted job
      states := p.states.insert p.admitted .admitted
      admitted := p.admitted + 1 }
    (seen ++ [.routed job.message .handler]) := by
  obtain ⟨uncalled, unended⟩ := inv.unseen p.admitted (Nat.le_refl _)
  have known : (p.jobs.insert p.admitted job).get? p.admitted = some job := by rw [Assoc.get?_insert, if_pos rfl]
  have state : (p.states.insert p.admitted .admitted).get? p.admitted = some .admitted := by
    rw [Assoc.get?_insert, if_pos rfl]
  refine .waiting known (Or.inl state) ?_ (unended.append (by simp [Unended]))
  rw [Session.calls_append, uncalled]
  rfl

theorem Move.admitted (move : p.Move event p') :
    p'.admitted = p.admitted + event.toList.countP Event.isAdmission := by
  cases move with
  | pass apart => obtain rfl | rfl := apart <;> rfl
  | _ => rfl

theorem Move.admitted_le (move : p.Move event p') : p.admitted ≤ p'.admitted :=
  move.admitted ▸ Nat.le_add_right ..

theorem Move.apart (move : p.Move event p') (listed : p.Listed) (new : p.admitted ≤ id) : Apart id event := by
  have different {other : JobId} {state : JobState} (found : p.states.get? other = some state) : id ≠ other :=
    Nat.ne_of_gt (Nat.lt_of_lt_of_le (listed.fresh other state found) new)
  cases move with
  | idle | ask | act => exact ⟨rfl, nofun⟩
  | pass | enlist | refuse => exact ⟨rfl, by simp [Unended]⟩
  | start _ found => exact apart_started (different found)
  | finish _ found => exact apart_ended (different found)

theorem Told.move (inv : p.Told seen) (listed : p.Listed) (move : p.Move event p') :
    p'.Told (seen ++ event.toList) := by
  refine ⟨fun id old => ?_, fun id new => ?_⟩
  · by_cases earlier : id < p.admitted
    · obtain ⟨job, stage⟩ := inv.stage id earlier
      exact ⟨job, stage.move listed move⟩
    · cases move with
      | enlist job room =>
        have same : id = p.admitted := Nat.le_antisymm (Nat.le_of_lt_succ old) (Nat.le_of_not_lt earlier)
        exact ⟨job, same ▸ inv.enlist job⟩
      | _ => exact absurd old earlier
  · have former := Nat.le_trans move.admitted_le new
    have apart := move.apart listed former
    obtain ⟨uncalled, unended⟩ := inv.unseen id former
    exact ⟨(calls_of_apart apart).trans uncalled, unended.append apart.2⟩

end Pool

namespace Session

variable {s : Session} {turns : List Turn} {message : Message} {id : JobId} {job : Job} {seen : List Event}

theorem stage_play (inv : s.Sound) (stage : Pool.Stage id job s.pool seen) (turns : List Turn) :
    Pool.Stage id job (s.play turns).pool (seen ++ s.history turns) := by
  induction turns generalizing s seen with
  | nil => exact (List.append_nil seen).symm ▸ stage
  | cons turn turns ih =>
    rw [history, ← List.append_assoc]
    exact ih (inv.next turn) (stage.move inv.listed (next_move s turn))

theorem told_play (inv : s.Sound) (told : s.pool.Told seen) (turns : List Turn) :
    (s.play turns).pool.Told (seen ++ s.history turns) := by
  induction turns generalizing s seen with
  | nil => exact (List.append_nil seen).symm ▸ told
  | cons turn turns ih =>
    rw [history, ← List.append_assoc]
    exact ih (inv.next turn) (told.move inv.listed (next_move s turn))

theorem exists_turn_of_seen {event : Event} (member : event ∈ s.history turns) :
    ∃ before turn after, turns = before ++ turn :: after ∧ (s.play before).event? turn = some event := by
  induction turns generalizing s with
  | nil => cases member
  | cons turn turns ih =>
    obtain now | later := List.mem_append.1 member
    · exact ⟨[], turn, turns, rfl, Option.mem_toList.1 now⟩
    · obtain ⟨before, turn', after, rfl, seen⟩ := ih later
      exact ⟨turn :: before, turn', after, rfl, seen⟩

theorem job_of_started {turn : Turn} (starts : s.event? turn = some (.started id job)) :
    s.router.jobs.get? id = some job := by
  have move := next_move s turn
  rw [starts] at move
  generalize (s.next turn).pool = p at move
  cases move with
  | start known => exact known

theorem turn_of_routed {turn : Turn} {fate : Fate} (routed : s.event? turn = some (.routed message fate)) :
    turn = .order (.route message) ∧ (s.router.route message).1 = fate := by
  cases turn with
  | order order =>
    cases order with
    | route other =>
      cases routed
      exact ⟨rfl, rfl⟩
    | _ => cases routed
  | job id =>
    simp only [event?, Option.bind_eq_bind, Option.bind_eq_some_iff] at routed
    obtain ⟨job, _, state, _, routed⟩ := routed
    cases state with
    | queued =>
      dsimp only at routed
      split at routed <;> cases routed
    | acting left =>
      dsimp only at routed
      cases ends : ending? left <;> simp [ends] at routed
    | _ => cases routed

theorem route_of_handler {r : Router} (fate : (r.route message).1 = .handler) :
    ∃ handler, r.pending.get? message.id = none ∧ r.handlers.get? message.kind = some handler ∧
      r.jobs.size < r.capacity ∧ (r.route message).2.2 = { r with
        jobs := r.jobs.insert r.admitted { handler, message }
        admitted := r.admitted + 1 } := by
  obtain ⟨_, _, routed⟩ | ⟨unknown, ⟨_, routed⟩ | ⟨handler, bound, ⟨room, routed⟩ | ⟨_, routed⟩⟩⟩ :=
    route_fates r message
  · rw [routed] at fate
    cases fate
  · rw [routed] at fate
    cases fate
  · exact ⟨handler, unknown, bound, room, by rw [routed]⟩
  · rw [routed] at fate
    cases fate

theorem job_of_next {turn : Turn} (known : (s.next turn).router.jobs.get? id = some job) :
    s.router.jobs.get? id = some job ∨
      turn = .order (.route job.message) ∧ (s.router.route job.message).1 = .handler ∧ id = s.router.admitted ∧
        s.router.handlers.get? job.message.kind = some job.handler := by
  have move := next_move s turn
  generalize event : s.event? turn = event at move
  generalize after : (s.next turn).pool = p at move
  have listed : p.jobs.get? id = some job := after ▸ known
  cases move with
  | enlist entered =>
    obtain ⟨rfl, fate⟩ := turn_of_routed event
    obtain ⟨handler, _, bound, _, router⟩ := route_of_handler fate
    have known : (s.router.route entered.message).2.2.jobs.get? id = some job := known
    rw [router, Assoc.get?_insert] at known
    split at known
    next new =>
      cases known
      exact Or.inr ⟨rfl, fate, new, bound⟩
    · exact Or.inl known
  | finish =>
    rw [Assoc.get?_erase] at listed
    split at listed
    · cases listed
    · exact Or.inl listed
  | _ => exact Or.inl listed

theorem dispatch_of_job (none : ∀ id, s.router.jobs.get? id = none)
    (known : (s.play turns).router.jobs.get? id = some job) :
    ∃ before after, turns = before ++ .order (.route job.message) :: after ∧
      ((s.play before).router.route job.message).1 = .handler ∧ id = (s.play before).router.admitted ∧
      (s.play before).router.handlers.get? job.message.kind = some job.handler := by
  induction turns using List.reverseRecOn with
  | nil => cases (none id).symm.trans known
  | append_singleton turns turn ih =>
    rw [play_append] at known
    obtain old | ⟨rfl, new⟩ := job_of_next known
    · obtain ⟨before, after, rfl, found⟩ := ih old
      exact ⟨before, after ++ [turn], by simp, found⟩
    · exact ⟨turns, [], rfl, new⟩

theorem admitted_play (s : Session) (turns : List Turn) : (s.play turns).router.admitted =
    s.router.admitted + (s.history turns).countP Event.isAdmission := by
  induction turns generalizing s with
  | nil => rfl
  | cons turn turns ih =>
    have first : (s.next turn).router.admitted =
        s.router.admitted + (s.event? turn).toList.countP Event.isAdmission := (next_move s turn).admitted
    rw [play_cons, ih, first, history, List.countP_append, Nat.add_assoc]

/-- The message is offered to the slot that its id leads to; who waits there gets it, for good, and no id leads to the
slot any more. -/
structure Offered (s last : Session) (message : Message) (slot : SlotId) : Prop where
  awaited : s.router.pending.get? message.id = some slot
  filled : s.router.slots[slot]? = some .waiting → last.router.slots[slot]? = some (.filled message)
  late : s.router.slots[slot]? ≠ some .waiting →
    (s.next (.order (.route message))).router.slots[slot]? = s.router.slots[slot]?
  others : ∀ other, other ≠ slot → (s.next (.order (.route message))).router.slots[other]? = s.router.slots[other]?
  once : last.router.Forgotten slot
  jobs : (s.next (.order (.route message))).router.jobs = s.router.jobs

/-- The handler is called with the message once at most, and once if nothing can go on and every other handler that was
called has ended. -/
structure Handled (last : Session) (number : JobId) (job : Job) (seen : List Event) : Prop where
  once : calls number seen = [] ∨ calls number seen = [job]
  called : last.AtRest →
    (∀ other job, Event.started other job ∈ seen → other ≠ number → ∃ ending, Event.ended other ending ∈ seen) →
    calls number seen = [job]

theorem slots_respond (r : Router) (slot : SlotId) (message : Message) : (r.respond slot message).2.slots =
    if r.slots[slot]? = some .waiting then r.slots.set slot (.filled message) else r.slots := by
  unfold respond
  split <;> simp_all

theorem offered {slot : SlotId} (apart : s.router.Unshared) (bounded : s.router.Bounded)
    (awaited : s.router.pending.get? message.id = some slot) (after : List Turn) :
    s.Offered (s.play (.order (.route message) :: after)) message slot := by
  have now : (s.next (.order (.route message))).router = (s.router.respond slot message).2 := by
    simp [next, obey, route, awaited]
  have slots : (s.next (.order (.route message))).router.slots = _ :=
    (congrArg Router.slots now).trans (slots_respond ..)
  have last : (s.play (.order (.route message) :: after)).router = (s.next (.order (.route message))).router.run
      ((s.next (.order (.route message))).operations after) := router_play (s.next (.order (.route message))) after
  refine ⟨awaited, fun waits => ?_, fun late => ?_, fun other different => ?_, ?_, ?_⟩
  · have inside := (List.getElem?_eq_some_iff.1 waits).1
    have filled : (s.next (.order (.route message))).router.slots[slot]? = some (.filled message) := by
      rw [slots, if_pos waits, List.getElem?_set_self inside]
    rw [last]
    exact settled_run filled (by simp) _
  · rw [slots, if_neg late]
  · rw [slots]
    split
    · exact List.getElem?_set_ne (Ne.symm different)
    · rfl
  · rw [last]
    exact (apart.forgotten bounded awaited).run _
  · rw [now]
    unfold respond
    dsimp only
    split <;> rfl

theorem exists_running (busy : 0 < s.running) : ∃ id state, s.jobs.get? id = some state ∧ state.runs := by
  rw [running, ← Assoc.length_keysWhere] at busy
  obtain ⟨id, member⟩ := List.exists_mem_of_length_pos busy
  exact ⟨id, Assoc.mem_keysWhere.1 member⟩

theorem handled (inv : s.Sound) (told : s.pool.Told seen) (workers : 0 < s.router.workers)
    (stage : Pool.Stage id job s.pool seen) : s.Handled id job seen := by
  cases stage with
  | atWork _ _ _ called => exact ⟨Or.inr called, fun _ _ => called⟩
  | past _ _ called => exact ⟨Or.inr called, fun _ _ => called⟩
  | waiting _ waits uncalled =>
    refine ⟨Or.inl uncalled, fun rest ended => ?_⟩
    have busy : 0 < s.running := Nat.lt_of_lt_of_le workers (inv.le_running rest waits)
    obtain ⟨other, state, found, runs⟩ := exists_running busy
    obtain ⟨job', stage⟩ := told.stage other (inv.listed.fresh other state found)
    obtain ⟨_, called, unended⟩ := stage.of_runs found runs
    have different : other ≠ id := by
      rintro rfl
      cases uncalled.symm.trans called
    have started : Event.started other job' ∈ seen := mem_calls.1 (by simp [called])
    obtain ⟨ending, calls⟩ := ended other job' started different
    exact absurd calls (unended ending)

theorem pool_of_handler (fate : (s.router.route message).1 = .handler) : ∃ handler,
    s.router.handlers.get? message.kind = some handler ∧ (s.next (.order (.route message))).pool = { s.pool with
      jobs := s.pool.jobs.insert s.pool.admitted { handler, message }
      states := s.pool.states.insert s.pool.admitted .admitted
      admitted := s.pool.admitted + 1 } := by
  obtain ⟨handler, unknown, bound, room, _⟩ := route_of_handler fate
  refine ⟨handler, bound, ?_⟩
  simp only [next, obey, route_of_room unknown bound room]
  rfl

theorem handled_play (inv : s.Sound) (told : s.pool.Told seen) (workers : 0 < s.router.workers)
    (fate : (s.router.route message).1 = .handler) (after : List Turn) : ∃ handler,
    s.router.handlers.get? message.kind = some handler ∧
    Handled (s.play (.order (.route message) :: after)) s.router.admitted { handler, message }
      (seen ++ s.history (.order (.route message) :: after)) := by
  obtain ⟨handler, bound, pool⟩ := pool_of_handler fate
  have event : s.event? (.order (.route message)) = some (.routed message .handler) :=
    congrArg (fun fate => some (Event.routed message fate)) fate
  have stage := told.enlist { handler, message }
  rw [← pool] at stage
  have stage := stage_play (inv.next _) stage after
  refine ⟨handler, bound, handled (inv.play _) (told_play inv told _) ?_ ?_⟩
  · rw [(limits_play s _).1]
    exact workers
  · rw [history, event, ← List.append_assoc]
    exact stage

theorem unhandled_iff {r : Router} : (r.route message).1 = .unhandled ↔
    r.pending.get? message.id = none ∧ r.handlers.get? message.kind = none := by
  obtain ⟨slot, awaited, routed⟩ | ⟨unknown, ⟨unbound, routed⟩ | ⟨handler, bound, ⟨_, routed⟩ | ⟨_, routed⟩⟩⟩ :=
    route_fates r message
  · simp [routed, awaited]
  · simp [routed, unknown, unbound]
  · simp [routed, bound]
  · simp [routed, bound]

theorem next_of_dropped (s : Session) (message : Message) (dropped : (s.router.route message).1 ≠ .response)
    (apart : (s.router.route message).1 ≠ .handler) :
    (s.next (.order (.route message))).router =
        { s.router with faulted := s.router.faulted || (s.router.route message).1 = .overflow } ∧
      (s.next (.order (.route message))).jobs = s.jobs := by
  obtain ⟨_, _, routed⟩ | ⟨_, ⟨_, routed⟩ | ⟨_, _, ⟨_, routed⟩ | ⟨_, routed⟩⟩⟩ := route_fates s.router message
  · exact absurd (by rw [routed]) dropped
  · simp [next, obey, routed]
  · exact absurd (by rw [routed]) apart
  · simp [next, obey, routed]

theorem told_ofLimits {concurrent backlog : Nat} {r : Router} (made : ofLimits? concurrent backlog = some r) :
    (Session.pool { router := r }).Told [] ∧ r.admitted = 0 ∧ r.Unshared ∧
      (∀ kind, r.handlers.get? kind = none) ∧ ∀ id, r.jobs.get? id = none := by
  unfold ofLimits? at made
  split at made
  · cases made
    exact ⟨⟨nofun, fun _ _ => ⟨rfl, nofun⟩⟩, rfl, nofun, fun _ => rfl, fun _ => rfl⟩
  · cases made

/-- Routing loses and duplicates nothing. The answer to a message tells what becomes of it: it is offered to the slot of
its id if there is one; else, if a handler is bound for its kind, it becomes a job, whose number is that of the messages
admitted before, or there is no room for it; else nothing becomes of it. The handler of a job is the one that was bound
last when the message came, and no handler is called with anything but the message of its job. -/
theorem routing_loses_nothing {concurrent backlog : Nat} {r : Router} (made : ofLimits? concurrent backlog = some r)
    (turns : List Turn) :
    let first : Session := { router := r }
    let last := first.play turns
    let seen := first.history turns
    (∀ before message after, turns = before ++ .order (.route message) :: after →
      let s := first.play before
      let next := s.next (.order (.route message))
      ((s.obey (.route message)).1 = .fate .response ↔ ∃ slot, s.router.pending.get? message.id = some slot) ∧
      ((s.obey (.route message)).1 = .fate .response → ∃ slot, s.Offered last message slot) ∧
      ((s.obey (.route message)).1 = .fate .handler → ∃ handler, lastBound? message.kind before = some handler ∧
        last.Handled ((first.history before).countP Event.isAdmission) { handler, message } seen) ∧
      ((s.obey (.route message)).1 = .fate .unhandled ↔
        s.router.pending.get? message.id = none ∧ lastBound? message.kind before = none) ∧
      ((s.obey (.route message)).1 = .fate .unhandled → next.router = s.router ∧ next.jobs = s.jobs) ∧
      ((s.obey (.route message)).1 = .fate .overflow →
        next.router = { s.router with faulted := true } ∧ next.jobs = s.jobs)) ∧
    (∀ id job, Event.started id job ∈ seen → ∃ before after, turns = before ++ .order (.route job.message) :: after ∧
      ((first.play before).obey (.route job.message)).1 = .fate .handler ∧
      id = (first.history before).countP Event.isAdmission ∧
      lastBound? job.message.kind before = some job.handler) := by
  intro first last seen
  obtain ⟨inv, workers, _, _⟩ := sound_ofLimits made
  obtain ⟨told, zero, apart, unbound, jobless⟩ := told_ofLimits made
  obtain ⟨bounded, _⟩ := bounded_ofLimits made
  have bound (before : List Turn) (kind : MessageKind) :
      (first.play before).router.handlers.get? kind = lastBound? kind before := by
    rw [get?_handlers_play, show first.router.handlers.get? kind = none from unbound kind, Option.or_none]
  have number (before : List Turn) :
      (first.play before).router.admitted = (first.history before).countP Event.isAdmission := by
    rw [admitted_play, show first.router.admitted = 0 from zero, Nat.zero_add]
  constructor
  · rintro before message after rfl
    intro s next
    have fates (fate : Fate) : (s.obey (.route message)).1 = .fate fate ↔ (s.router.route message).1 = fate :=
      ⟨Answer.fate.inj, congrArg Answer.fate⟩
    have router := router_play first before
    have ends : last = s.play (.order (.route message) :: after) := play_append ..
    have parts : seen = first.history before ++ s.history (.order (.route message) :: after) := history_append ..
    simp only [fates]
    refine ⟨?_, fun response => ?_, fun handler => ?_, ?_, fun unhandled => ?_, fun overflow => ?_⟩
    · rw [route_response_iff]
      exact Option.ne_none_iff_exists'
    · obtain ⟨slot, awaited⟩ := Option.ne_none_iff_exists'.1 (route_response_iff.1 response)
      have apart : s.router.Unshared := router ▸ apart.run bounded _
      have bounded : s.router.Bounded := router ▸ bounded.run _
      exact ⟨slot, ends ▸ offered apart bounded awaited after⟩
    · have busy : 0 < s.router.workers := by
        rw [(limits_play first before).1, show first.router.workers = _ from workers]
        omega
      obtain ⟨handler, listed, handled⟩ := handled_play (inv.play before) (told_play inv told before) busy handler after
      rw [bound] at listed
      rw [number] at handled
      exact ⟨handler, listed, ends ▸ parts ▸ handled⟩
    · rw [unhandled_iff, bound]
    · have dropped := next_of_dropped s message (by simp [unhandled]) (by simp [unhandled])
      simpa [unhandled] using dropped
    · have dropped := next_of_dropped s message (by simp [overflow]) (by simp [overflow])
      simpa [overflow] using dropped
  · intro id job started
    obtain ⟨before, turn, after, rfl, starts⟩ := exists_turn_of_seen started
    have known := job_of_started starts
    obtain ⟨earlier, later, rfl, fate, new, handler⟩ := dispatch_of_job (s := first) jobless known
    refine ⟨earlier, later ++ turn :: after, by simp, congrArg Answer.fate fate, new.trans (number earlier), ?_⟩
    rw [← bound, handler]

/-- A message waits for its handler while another one is bound; then a response comes, and a message nobody wants. -/
def rebound : List Turn := [
  .order (.bind .heartbeat { actions := [] }), .order (.expect (.fresh 7) "caller"),
  .order (.route (.request (.fresh 1) .heartbeat [])), .order (.bind .heartbeat { actions := [.stall] }),
  .order (.route (.request (.fresh 7) .heartbeat [])), .order (.route (.request (.fresh 2) .agentInfo [])),
  .job 0, .job 0, .job 0]

theorem routing_after_rebinding :
    let r : Router := { workers := 1, backlog := 0 }
    let last := Session.play { router := r } rebound
    ofLimits? 0 0 = some r ∧
    last.AtRest ∧ lastBound? .heartbeat rebound = some { actions := [.stall] } ∧
    calls 0 (history { router := r } rebound) =
      [{ handler := { actions := [] }, message := .request (.fresh 1) .heartbeat [] }] ∧
    last.router.slots[0]? = some (.filled (.request (.fresh 7) .heartbeat [])) ∧
    ((Session.play { router := r } (rebound.take 5)).obey (.route (.request (.fresh 2) .agentInfo []))).1 =
      .fate .unhandled := by
  intro r
  dsimp only
  have made : ofLimits? 0 0 = some r := by decide
  obtain ⟨positions, _⟩ := routing_loses_nothing made rebound
  have seen : history { router := r } rebound = [.routed (.request (.fresh 1) .heartbeat []) .handler,
      .routed (.request (.fresh 7) .heartbeat []) .response, .routed (.request (.fresh 2) .agentInfo []) .unhandled,
      .started 0 { handler := { actions := [] }, message := .request (.fresh 1) .heartbeat [] },
      .ended 0 .finished] := by decide +kernel
  have rest : (Session.play { router := r } rebound).AtRest := by decide +kernel
  obtain ⟨_, _, handler, _⟩ := positions (rebound.take 2) _ (rebound.drop 3) rfl
  obtain ⟨bound, former, handled⟩ := handler (congrArg Answer.fate (by decide +kernel))
  have same : bound = { actions := [] } := Option.some.inj (former.symm.trans (by decide +kernel))
  have called := handled.called rest fun other job started different => by
    have known : other = 0 ∧ job = { handler := { actions := [] }, message := .request (.fresh 1) .heartbeat [] } := by
      simpa [seen] using started
    exact absurd known.1 different
  obtain ⟨_, response, _⟩ := positions (rebound.take 4) _ (rebound.drop 5) rfl
  obtain ⟨slot, offered⟩ := response (congrArg Answer.fate (by decide +kernel))
  have only : slot = 0 := Option.some.inj (offered.awaited.symm.trans (by decide +kernel))
  have filled := offered.filled (by rw [only]; decide +kernel)
  rw [only] at filled
  obtain ⟨_, _, _, unhandled, _⟩ := positions (rebound.take 5) _ (rebound.drop 6) rfl
  have dropped := unhandled.2 ⟨by decide +kernel, by decide +kernel⟩
  exact ⟨made, rest, by decide +kernel, same ▸ called, filled, dropped⟩

end Session

end Fleetwire.Router
