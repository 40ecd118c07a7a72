import Fleetwire.Router.Session
import Fleetwire.Proofs.Router.Correlation

namespace Fleetwire

namespace Assoc

variable {Key Value : Type} [DecidableEq Key] {map : Assoc Key Value} {key : Key}

def count (map : Assoc Key Value) (p : Value → Bool) : Nat := map.values.countP p

omit [DecidableEq Key] in
theorem count_true (map : Assoc Key Value) : map.count (fun _ => true) = map.size := by
  simp [count, values, size]

theorem erase_of_none (unknown : map.get? key = none) : (map.erase key).entries = map.entries := by
  rw [get?, Option.map_eq_none_iff, List.find?_eq_none] at unknown
  exact List.filter_eq_self.2 fun e member => by simpa using unknown e member

theorem count_erase {value : Value} (found : map.get? key = some value) (p : Value → Bool) :
    map.count p = (map.erase key).count p + if p value then 1 else 0 := by
  obtain ⟨entries, distinct⟩ := map
  simp only [get?, count, values, erase] at found ⊢
  induction entries with
  | nil => cases found
  | cons e rest ih =>
    obtain ⟨fresh, distinct⟩ := List.nodup_cons.1 distinct
    by_cases here : e.1 = key
    · rw [List.find?_cons_of_pos (by simpa using here)] at found
      cases found
      have others : rest.filter (fun e => e.1 ≠ key) = rest := List.filter_eq_self.2 fun other member => by
        have different : other.1 ≠ key := fun same =>
          fresh (by rw [here, ← same]; exact List.mem_map_of_mem member)
        simpa using different
      rw [List.filter_cons_of_neg (by simpa using here), others, List.map_cons, List.countP_cons]
    · rw [List.find?_cons_of_neg (by simpa using here)] at found
      rw [List.filter_cons_of_pos (by simpa using here), List.map_cons, List.countP_cons, List.map_cons,
        List.countP_cons, ih distinct found]
      omega

theorem count_insert (map : Assoc Key Value) (key : Key) (value : Value) (p : Value → Bool) :
    (map.insert key value).count p = (map.erase key).count p + if p value then 1 else 0 := by
  simp [count, values, insert, List.countP_append, List.countP_singleton]

theorem count_insert_of_none (unknown : map.get? key = none) (value : Value) (p : Value → Bool) :
    (map.insert key value).count p = map.count p + if p value then 1 else 0 := by
  rw [count_insert, count, values, erase_of_none unknown]
  rfl

theorem count_replace {former : Value} (found : map.get? key = some former) (value : Value) (p : Value → Bool) :
    (map.insert key value).count p + (if p former then 1 else 0) = map.count p + if p value then 1 else 0 := by
  rw [count_insert, count_erase found]
  omega

def keysWhere (map : Assoc Key Value) (p : Value → Bool) : List Key :=
  (map.entries.filter fun e => p e.2).map Prod.fst

omit [DecidableEq Key] in
theorem length_keysWhere (map : Assoc Key Value) (p : Value → Bool) : (map.keysWhere p).length = map.count p := by
  rw [keysWhere, List.length_map, ← List.countP_eq_length_filter, count, values, List.countP_map]
  rfl

omit [DecidableEq Key] in
theorem nodup_keysWhere (map : Assoc Key Value) (p : Value → Bool) : (map.keysWhere p).Nodup :=
  map.distinct.sublist (List.filter_sublist.map _)

theorem exists_entry {value : Value} (found : map.get? key = some value) : (key, value) ∈ map.entries := by
  obtain ⟨entry, here, rfl⟩ := Option.map_eq_some_iff.1 found
  have same : entry.1 = key := by simpa using List.find?_some here
  exact same ▸ List.mem_of_find?_eq_some here

theorem mem_keysWhere {p : Value → Bool} :
    key ∈ map.keysWhere p ↔ ∃ value, map.get? key = some value ∧ p value := by
  constructor
  · intro member
    obtain ⟨entry, inside, rfl⟩ := List.mem_map.1 member
    obtain ⟨inside, holds⟩ := List.mem_filter.1 inside
    exact ⟨entry.2, get?_of_mem inside, holds⟩
  · rintro ⟨value, found, holds⟩
    exact List.mem_map.2 ⟨(key, value), List.mem_filter.2 ⟨exists_entry found, holds⟩, rfl⟩

end Assoc

namespace Router

section Calls

variable {r : Router} {message : Message} {handler : Handler}

theorem expect_calls (r : Router) (id : MessageId) :
    ∃ pending slots, (r.expect id).2 = { r with pending, slots } := by
  unfold expect
  split <;> exact ⟨_, _, rfl⟩

theorem cancel_calls (r : Router) (id : MessageId) :
    ∃ pending slots, (r.cancel id).2 = { r with pending, slots } := by
  unfold cancel
  split
  · exact ⟨_, _, rfl⟩
  · exact ⟨r.pending, r.slots, rfl⟩

theorem closeSlots_calls (closed : List SlotId) (r : Router) :
    ∃ slots, closed.foldl closeSlot r = { r with slots } := by
  induction closed generalizing r with
  | nil => exact ⟨r.slots, rfl⟩
  | cons slot closed ih =>
    obtain ⟨slots, rest⟩ := ih (r.closeSlot slot)
    exact ⟨slots, rest⟩

theorem route_of_unbound (unknown : r.pending.get? message.id = none)
    (unbound : r.handlers.get? message.kind = none) :
    r.route message = (.unhandled, [noHandler message.kind], r) := by
  simp [route, unknown, unbound]

theorem route_of_room (unknown : r.pending.get? message.id = none)
    (bound : r.handlers.get? message.kind = some handler) (room : r.jobs.size < r.capacity) :
    r.route message = (.handler, [], { r with
      jobs := r.jobs.insert r.admitted { handler, message }
      admitted := r.admitted + 1 }) := by
  simp [route, unknown, bound, room]

theorem route_of_full (unknown : r.pending.get? message.id = none)
    (bound : r.handlers.get? message.kind = some handler) (full : ¬ r.jobs.size < r.capacity) :
    r.route message = (.overflow, [backlogFull message.kind], { r with faulted := true }) := by
  simp [route, unknown, bound, full]

end Calls

def JobState.runs : JobState → Bool
  | .admitted | .queued => false
  | .acting _ | .passing _ => true

def ending? : List Action → Option Ending
  | [] => some .finished
  | .fail causes :: _ => some (.failed causes)
  | .panic text :: _ => some (.panicked text)
  | _ => none

/-- One thing that happens: an order from outside, or one step of a job. -/
inductive Turn where
  | order (order : Session.Order)
  | job (id : JobId)

inductive Event where
  | routed (message : Message) (fate : Fate)
  | started (id : JobId) (job : Job)
  | ended (id : JobId) (ending : Ending)
deriving DecidableEq

def Event.isFault : Event → Bool
  | .routed _ .overflow | .ended _ (.panicked _) => true
  | _ => false

def Event.isAdmission : Event → Bool
  | .routed _ .handler => true
  | _ => false

def Event.isStart : Event → Bool
  | .started .. => true
  | _ => false

def Event.isEnd : Event → Bool
  | .ended .. => true
  | _ => false

namespace Session

def next (s : Session) : Turn → Session
  | .order order => (s.obey order).2
  | .job id => (s.step id).getD s

def event? (s : Session) : Turn → Option Event
  | .order (.route message) => some (.routed message (s.router.route message).1)
  | .order _ => none
  | .job id => do
    let job ← s.router.jobs.get? id
    match ← s.jobs.get? id with
    | .queued => if s.router.hasWorker id then some (.started id job) else none
    | .acting left => (ending? left).map (.ended id)
    | .admitted | .passing _ => none

def play (s : Session) (turns : List Turn) : Session := turns.foldl next s

def history (s : Session) : List Turn → List Event
  | [] => []
  | turn :: turns => (s.event? turn).toList ++ (s.next turn).history turns

def AtRest (s : Session) : Prop := ∀ id, s.step id = none

def running (s : Session) : Nat := s.jobs.count JobState.runs

def unfinished (s : Session) : Nat := s.jobs.size

def Waits (s : Session) (id : JobId) : Prop := s.jobs.get? id = some .admitted ∨ s.jobs.get? id = some .queued

end Session

/-- What the accounting of workers and places is about. -/
structure Pool where
  workers : Nat
  backlog : Nat
  jobs : Assoc JobId Job
  states : Assoc JobId JobState
  admitted : Nat
  line : Line JobId
  faulted : Bool

def Session.pool (s : Session) : Pool where
  workers := s.router.workers
  backlog := s.router.backlog
  jobs := s.router.jobs
  states := s.jobs
  admitted := s.router.admitted
  line := s.router.workerLine
  faulted := s.router.faulted

namespace Pool

inductive Move (p : Pool) : Option Event → Pool → Prop
  | idle : Move p none p
  | pass {message : Message} {fate : Fate} (apart : fate = .response ∨ fate = .unhandled) :
      Move p (some (.routed message fate)) p
  | enlist (job : Job) (room : p.jobs.size < p.workers + p.backlog) :
      Move p (some (.routed job.message .handler)) { p with
        jobs := p.jobs.insert p.admitted job
        states := p.states.insert p.admitted .admitted
        admitted := p.admitted + 1 }
  | refuse (message : Message) (full : ¬ p.jobs.size < p.workers + p.backlog) :
      Move p (some (.routed message .overflow)) { p with faulted := true }
  | ask {id : JobId} (state : p.states.get? id = some .admitted) :
      Move p none { p with line := p.line.join id, states := p.states.insert id .queued }
  | start {id : JobId} {job : Job} (known : p.jobs.get? id = some job) (state : p.states.get? id = some .queued)
      (served : p.line.admits p.workers id) :
      Move p (some (.started id job)) { p with states := p.states.insert id (.acting job.handler.actions) }
  | act {id : JobId} {before after : JobState} (state : p.states.get? id = some before) (runs : before.runs)
      (still : after.runs) : Move p none { p with states := p.states.insert id after }
  | finish {id : JobId} {job : Job} {left : List Action} {ending : Ending} (known : p.jobs.get? id = some job)
      (state : p.states.get? id = some (.acting left)) (ends : ending? left = some ending) :
      Move p (some (.ended id ending)) { p with
        jobs := p.jobs.erase id
        states := p.states.erase id
        line := p.line.leave id
        faulted := p.faulted || (Event.ended id ending).isFault }

end Pool

namespace Session

variable {s s' : Session} {id : JobId} {job : Job} {message : Message}

@[simp] theorem pool_sight (handler : Handler) (sighting : String → Sighting) :
    (s.sight handler sighting).pool = s.pool := by
  unfold sight
  split <;> rfl

@[simp] theorem pool_setState (s : Session) (id : JobId) (state : JobState) :
    (s.setState id state).pool = { s.pool with states := s.pool.states.insert id state } := rfl

theorem pool_finish (known : s.router.jobs.get? id = some job) (ending : Ending) :
    (s.finish id ending).pool = { s.pool with
      jobs := s.pool.jobs.erase id
      states := s.pool.states.erase id
      line := s.pool.line.leave id
      faulted := s.pool.faulted || (Event.ended id ending).isFault } := by
  unfold finish Router.finish
  simp only [known]
  cases ending <;> simp [pool, Event.isFault]

theorem act_cases {left : List Action} (known : s.router.jobs.get? id = some job)
    (acted : s.act id job left = some s') :
    (∃ state : JobState, state.runs ∧ ending? left = none ∧
      s'.pool = { s.pool with states := s.pool.states.insert id state }) ∨
    ∃ ending, ending? left = some ending ∧ s'.pool = { s.pool with
      jobs := s.pool.jobs.erase id
      states := s.pool.states.erase id
      line := s.pool.line.leave id
      faulted := s.pool.faulted || (Event.ended id ending).isFault } := by
  cases left with
  | nil =>
    cases acted
    have known' : (s.sight job.handler (.finish · job.message.id)).router.jobs.get? id = some job := by
      have same : (s.sight job.handler (.finish · job.message.id)).router.jobs = s.router.jobs :=
        congrArg Pool.jobs (pool_sight ..)
      rw [same, known]
    exact Or.inr ⟨.finished, rfl, by rw [pool_finish known', pool_sight]⟩
  | cons action left =>
    cases action with
    | reply | refuse =>
      cases acted
      exact Or.inl ⟨.acting left, rfl, rfl, by rw [pool_setState, pool_sight]⟩
    | stall => cases acted
    | fail | panic =>
      cases acted
      exact Or.inr ⟨_, rfl, pool_finish known _⟩
    | pass =>
      cases acted
      exact Or.inl ⟨.passing left, rfl, rfl, rfl⟩
    | _ =>
      cases acted
      exact Or.inl ⟨.acting left, rfl, rfl, rfl⟩

theorem step_move (moved : s.step id = some s') : s.pool.Move (s.event? (.job id)) s'.pool := by
  unfold step at moved
  obtain ⟨job, known, moved⟩ := Option.bind_eq_some_iff.1 moved
  obtain ⟨state, found, moved⟩ := Option.bind_eq_some_iff.1 moved
  simp only [event?, known, found, Option.bind_some, Option.bind_eq_bind]
  cases state with
  | admitted =>
    cases moved
    exact Pool.Move.ask found
  | queued =>
    dsimp only at moved
    split at moved
    next served =>
      cases moved
      rw [if_pos served, pool_setState, pool_sight]
      exact Pool.Move.start known found served
    · cases moved
  | acting left =>
    dsimp only
    obtain ⟨state, still, none, pool⟩ | ⟨ending, ends, pool⟩ := act_cases known moved
    · rw [none, pool]
      exact Pool.Move.act found rfl still
    · rw [ends, pool]
      exact Pool.Move.finish known found ends
  | passing left =>
    obtain ⟨gate, _, moved⟩ := Option.bind_eq_some_iff.1 moved
    cases moved
    have still : (JobState.acting left).runs = true := rfl
    exact Pool.Move.act found rfl still

theorem event?_of_waiting (waits : s.step id = none) : s.event? (.job id) = none := by
  unfold step at waits
  cases known : s.router.jobs.get? id with
  | none => simp [event?, known]
  | some job =>
    cases found : s.jobs.get? id with
    | none => simp [event?, known, found]
    | some state =>
      simp only [known, found, Option.bind_eq_bind, Option.bind_some] at waits
      simp only [event?, known, found, Option.bind_eq_bind, Option.bind_some]
      cases state with
      | admitted => rfl
      | passing => rfl
      | queued =>
        dsimp only at waits ⊢
        split at waits
        · cases waits
        next unserved => rw [if_neg unserved]
      | acting left =>
        cases left with
        | nil => cases waits
        | cons action left => cases action <;> first | rfl | cases waits

theorem pool_of_calls {pending : Assoc MessageId SlotId} {slots : List Slot}
    (router : s'.router = { s.router with pending, slots }) (jobs : s'.jobs = s.jobs) : s'.pool = s.pool := by
  unfold pool
  rw [router, jobs]

theorem route_move (s : Session) (message : Message) :
    s.pool.Move (some (.routed message (s.router.route message).1)) (s.obey (.route message)).2.pool := by
  cases pending : s.router.pending.get? message.id with
  | some slot =>
    have response : (s.router.route message).1 = .response := route_response_iff.2 (by simp [pending])
    obtain ⟨pending, slots, router⟩ := route_of_response response
    have jobs : (s.obey (.route message)).2.jobs = s.jobs := by simp [obey, response]
    have pool : (s.obey (.route message)).2.pool = s.pool := pool_of_calls router jobs
    rw [pool, response]
    exact .pass (Or.inl rfl)
  | none =>
    cases bound : s.router.handlers.get? message.kind with
    | none =>
      simp only [obey, route_of_unbound pending bound]
      exact .pass (Or.inr rfl)
    | some handler =>
      by_cases room : s.router.jobs.size < s.router.capacity
      · simp only [obey, route_of_room pending bound room]
        exact .enlist ⟨handler, message⟩ room
      · simp only [obey, route_of_full pending bound room]
        exact .refuse message room

theorem obey_move (s : Session) (order : Order) : s.pool.Move (s.event? (.order order)) (s.obey order).2.pool := by
  cases order with
  | bind | release => exact .idle
  | route message => exact route_move s message
  | expect id caller =>
    obtain ⟨pending, slots, router⟩ := expect_calls s.router id
    rw [show (s.obey (.expect id caller)).2.pool = s.pool from pool_of_calls router rfl]
    exact .idle
  | cancel id =>
    obtain ⟨pending, slots, router⟩ := cancel_calls s.router id
    rw [show (s.obey (.cancel id)).2.pool = s.pool from pool_of_calls router rfl]
    exact .idle
  | failAll =>
    obtain ⟨slots, router⟩ := closeSlots_calls s.router.pending.values s.router
    have router : s.router.failAll.2 = { s.router with pending := {}, slots } := by
      rw [failAll, router]
    rw [show (s.obey .failAll).2.pool = s.pool from pool_of_calls router rfl]
    exact .idle
  | leave caller =>
    simp only [event?, obey]
    split
    · exact .idle
    · exact .idle

theorem next_move (s : Session) (turn : Turn) : s.pool.Move (s.event? turn) (s.next turn).pool := by
  cases turn with
  | order order => exact obey_move s order
  | job id =>
    cases moved : s.step id with
    | some s' =>
      rw [next, moved]
      exact step_move moved
    | none =>
      rw [next, moved, event?_of_waiting moved]
      exact .idle

end Session

end Router

end Fleetwire
