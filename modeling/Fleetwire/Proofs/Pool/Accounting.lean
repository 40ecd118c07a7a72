import Mathlib.Data.List.Perm.Subperm
import Mathlib.Tactic.ByContra
import Fleetwire.Proofs.Pool

namespace Fleetwire

namespace Line

variable {Member : Type} [DecidableEq Member] {line : Line Member} {places : Nat} {a b : Member}

theorem admits_iff : line.admits places a ↔ a ∈ line.members.take places := by
  simp [admits]

theorem take_leave (line : Line Member) (places : Nat) (a : Member) :
    (line.leave a).members.take places = (line.members.take places).filter (· ≠ a) ++
      ((line.members.drop places).filter (· ≠ a)).take
        (places - ((line.members.take places).filter (· ≠ a)).length) := by
  have short : ((line.members.take places).filter (· ≠ a)).length ≤ places :=
    Nat.le_trans (List.length_filter_le ..) (List.length_take_le ..)
  have split : (line.leave a).members =
      (line.members.take places).filter (· ≠ a) ++ (line.members.drop places).filter (· ≠ a) := by
    rw [← List.filter_append, List.take_append_drop]
    rfl
  rw [split, List.take_append, List.take_of_length_le short]

theorem admits_leave (admitted : line.admits places a) (different : a ≠ b) : (line.leave b).admits places a := by
  rw [admits_iff] at admitted ⊢
  rw [take_leave]
  exact List.mem_append_left _ (List.mem_filter.2 ⟨admitted, by simpa using different⟩)

theorem admits_next (once : line.members.Nodup) (admitted : line.admits places a)
    (first : line.members[places]? = some b) : ¬ line.admits places b ∧ (line.leave a).admits places b := by
  rw [admits_iff, admits_iff] at *
  obtain ⟨inside, here⟩ := List.getElem?_eq_some_iff.1 first
  have rest : line.members.drop places = b :: line.members.drop (places + 1) := by
    rw [List.drop_eq_getElem_cons inside, here]
  rw [← List.take_append_drop places line.members, rest, List.nodup_append] at once
  have outside : b ∉ line.members.take places := fun member =>
    once.2.2 b member b (List.mem_cons_self ..) rfl
  have other : b ≠ a := fun same => outside (same ▸ admitted)
  have shorter : ((line.members.take places).filter (· ≠ a)).length < places := by
    have cut : ((line.members.take places).filter (· ≠ a)).length < (line.members.take places).length :=
      List.length_filter_lt_length_iff_exists.2 ⟨a, admitted, by simp⟩
    exact Nat.lt_of_lt_of_le cut (List.length_take_le places line.members)
  refine ⟨outside, ?_⟩
  obtain ⟨n, more⟩ := Nat.exists_eq_add_of_lt shorter
  have left : places - ((line.members.take places).filter (· ≠ a)).length = n + 1 := by omega
  rw [take_leave, left, rest, List.filter_cons_of_pos (by simpa using other), List.take_succ_cons]
  exact List.mem_append_right _ (List.mem_cons_self ..)

end Line

namespace Router

namespace Pool

variable {p p' : Pool} {event : Option Event} {id : JobId}

/-- The tables agree about the jobs, and these have places. -/
structure Listed (p : Pool) : Prop where
  agree : ∀ id, p.jobs.get? id = none ↔ p.states.get? id = none
  sizes : p.jobs.size = p.states.size
  fresh : ∀ id state, p.states.get? id = some state → id < p.admitted
  bounded : p.states.size ≤ p.workers + p.backlog

/-- The line is made of those that have asked for a worker, and who is at work has one. -/
structure Lined (p : Pool) : Prop where
  members : ∀ id, id ∈ p.line.members ↔ ∃ state, p.states.get? id = some state ∧ state ≠ .admitted
  once : p.line.members.Nodup
  served : ∀ id state, p.states.get? id = some state → state.runs → p.line.admits p.workers id

theorem ne_admitted_of_runs {state : JobState} (runs : state.runs) : state ≠ .admitted := by
  rintro rfl
  cases runs

theorem Listed.new (inv : p.Listed) : p.states.get? p.admitted = none := by
  cases found : p.states.get? p.admitted with
  | none => rfl
  | some state => exact absurd (inv.fresh _ state found) (Nat.lt_irrefl _)

theorem Listed.replace (inv : p.Listed) {before : JobState} (state : p.states.get? id = some before)
    (after : JobState) : Listed { p with states := p.states.insert id after } := by
  have size : (p.states.insert id after).size = p.states.size := by
    have counted := Assoc.count_replace state after fun _ => true
    rw [Assoc.count_true, Assoc.count_true] at counted
    exact Nat.add_right_cancel counted
  refine ⟨fun other => ?_, inv.sizes.trans size.symm, fun other found known => ?_, Nat.le_trans (Nat.le_of_eq size)
    inv.bounded⟩
  · rw [inv.agree, Assoc.get?_insert]
    split
    next here => simp [here, state]
    · rfl
  · rw [Assoc.get?_insert] at known
    split at known
    next here => exact here ▸ inv.fresh id before state
    · exact inv.fresh other found known

theorem Listed.enlist (inv : p.Listed) (job : Job) (room : p.jobs.size < p.workers + p.backlog) : Listed { p with
    jobs := p.jobs.insert p.admitted job
    states := p.states.insert p.admitted .admitted
    admitted := p.admitted + 1 } := by
  have states := Assoc.count_insert_of_none inv.new .admitted fun _ => true
  have jobs := Assoc.count_insert_of_none ((inv.agree _).2 inv.new) job fun _ => true
  rw [Assoc.count_true, Assoc.count_true, if_pos rfl] at states jobs
  have sizes := inv.sizes
  refine ⟨fun other => ?_, by dsimp only; omega, fun other found known => ?_, by dsimp only; omega⟩
  · rw [Assoc.get?_insert, Assoc.get?_insert]
    split
    · simp
    · exact inv.agree other
  · rw [Assoc.get?_insert] at known
    split at known
    next here => exact here ▸ Nat.lt_succ_self _
    · exact Nat.lt_succ_of_lt (inv.fresh other found known)

theorem Listed.finish (inv : p.Listed) {job : Job} {state : JobState} (known : p.jobs.get? id = some job)
    (found : p.states.get? id = some state) (line : Line JobId) (faulted : Bool) : Listed { p with
    jobs := p.jobs.erase id
    states := p.states.erase id
    line, faulted } := by
  have states := Assoc.count_erase found fun _ => true
  have jobs := Assoc.count_erase known fun _ => true
  rw [Assoc.count_true, Assoc.count_true, if_pos rfl] at states jobs
  have sizes := inv.sizes
  have bounded := inv.bounded
  refine ⟨fun other => ?_, by dsimp only; omega, fun other state known => ?_, by dsimp only; omega⟩
  · rw [Assoc.get?_erase, Assoc.get?_erase]
    split
    · simp
    · exact inv.agree other
  · rw [Assoc.get?_erase] at known
    split at known
    · cases known
    · exact inv.fresh other state known

theorem Listed.move (inv : p.Listed) (move : p.Move event p') : p'.Listed := by
  cases move with
  | idle | pass => exact inv
  | refuse => exact ⟨inv.agree, inv.sizes, inv.fresh, inv.bounded⟩
  | enlist job room => exact inv.enlist job room
  | ask state =>
    have listed := inv.replace state .queued
    exact ⟨listed.agree, listed.sizes, listed.fresh, listed.bounded⟩
  | start known state served => exact inv.replace state _
  | act state => exact inv.replace state _
  | finish known state ends => exact inv.finish known state _ _

theorem Lined.replace (inv : p.Lined) {before after : JobState} (state : p.states.get? id = some before)
    (asked : before ≠ .admitted) (runs : after.runs) (served : p.line.admits p.workers id) :
    Lined { p with states := p.states.insert id after } := by
  refine ⟨fun other => ?_, inv.once, fun other found known still => ?_⟩
  · rw [inv.members, Assoc.get?_insert]
    split
    next here => simp [here, state, asked, ne_admitted_of_runs runs]
    · rfl
  · rw [Assoc.get?_insert] at known
    split at known
    next here => exact here ▸ served
    · exact inv.served other found known still

theorem Lined.enlist (inv : p.Lined) (new : p.states.get? p.admitted = none) (jobs : Assoc JobId Job) :
    Lined { p with jobs, states := p.states.insert p.admitted .admitted, admitted := p.admitted + 1 } := by
  refine ⟨fun other => ?_, inv.once, fun other found known runs => ?_⟩
  · rw [inv.members, Assoc.get?_insert]
    split
    next here => simp [here, new]
    · rfl
  · rw [Assoc.get?_insert] at known
    split at known
    · cases known
      cases runs
    · exact inv.served other found known runs

theorem Lined.ask (inv : p.Lined) (state : p.states.get? id = some .admitted) :
    Lined { p with line := p.line.join id, states := p.states.insert id .queued } := by
  have absent : id ∉ p.line.members := fun member => by
    obtain ⟨found, known, asked⟩ := (inv.members id).1 member
    exact asked (Option.some.inj (known.symm.trans state))
  refine ⟨fun other => ?_, ?_, fun other found known runs => ?_⟩
  · rw [Line.join, List.mem_append, List.mem_singleton, inv.members, Assoc.get?_insert]
    split
    next here => simp [here]
    next different => simp [different]
  · exact List.nodup_append.2 ⟨inv.once, List.pairwise_singleton .., fun a here b last same =>
      absent (List.mem_singleton.1 last ▸ same ▸ here)⟩
  · rw [Assoc.get?_insert] at known
    split at known
    · cases known
      cases runs
    · exact Line.admits_join (inv.served other found known runs)

theorem Lined.finish (inv : p.Lined) (jobs : Assoc JobId Job) (faulted : Bool) :
    Lined { p with jobs, states := p.states.erase id, line := p.line.leave id, faulted } := by
  refine ⟨fun other => ?_, inv.once.filter _, fun other found known runs => ?_⟩
  · rw [Line.mem_leave, inv.members, Assoc.get?_erase]
    split
    next here => simp [here]
    next different => simp [different]
  · rw [Assoc.get?_erase] at known
    split at known
    · cases known
    next different => exact Line.admits_leave (inv.served other found known runs) different

theorem Lined.move (inv : p.Lined) (listed : p.Listed) (move : p.Move event p') : p'.Lined := by
  cases move with
  | idle | pass => exact inv
  | refuse => exact ⟨inv.members, inv.once, inv.served⟩
  | enlist job room => exact inv.enlist listed.new _
  | ask state => exact inv.ask state
  | start known state served => exact inv.replace state nofun rfl served
  | act state runs still => exact inv.replace state (ne_admitted_of_runs runs) still (inv.served _ _ state runs)
  | finish known state ends => exact inv.finish _ _

theorem Move.limits (move : p.Move event p') : p'.workers = p.workers ∧ p'.backlog = p.backlog := by
  cases move <;> exact ⟨rfl, rfl⟩

theorem Move.running (move : p.Move event p') (inv : p.Listed) :
    p'.states.count JobState.runs + event.toList.countP Event.isEnd =
      p.states.count JobState.runs + event.toList.countP Event.isStart := by
  cases move with
  | idle | refuse => rfl
  | pass apart => rfl
  | enlist job => exact Assoc.count_insert_of_none inv.new .admitted _
  | ask state => exact Assoc.count_replace state .queued _
  | @start _ job _ state => exact Assoc.count_replace state (.acting job.handler.actions) _
  | @act _ _ after state runs still =>
    have counted := Assoc.count_replace state after JobState.runs
    rw [if_pos runs, if_pos still] at counted
    exact Nat.add_right_cancel counted
  | finish known state => exact (Assoc.count_erase state _).symm

theorem Move.unfinished (move : p.Move event p') (inv : p.Listed) :
    p'.states.size + event.toList.countP Event.isEnd = p.states.size + event.toList.countP Event.isAdmission := by
  simp only [← Assoc.count_true]
  cases move with
  | idle | refuse => rfl
  | pass apart => obtain rfl | rfl := apart <;> rfl
  | enlist job => exact Assoc.count_insert_of_none inv.new .admitted _
  | ask state => exact Nat.add_right_cancel (Assoc.count_replace state .queued _)
  | @start _ job _ state => exact Nat.add_right_cancel (Assoc.count_replace state (.acting job.handler.actions) _)
  | @act _ _ after state => exact Nat.add_right_cancel (Assoc.count_replace state after _)
  | finish known state => exact (Assoc.count_erase state _).symm

theorem Move.faulted (move : p.Move event p') : p'.faulted = (p.faulted || event.toList.any Event.isFault) := by
  cases move with
  | pass apart => obtain rfl | rfl := apart <;> simp [Event.isFault]
  | _ => simp [Event.isFault]

theorem Lined.running_le (inv : p.Lined) : p.states.count JobState.runs ≤ p.workers := by
  have inside : p.states.keysWhere JobState.runs ⊆ p.line.members.take p.workers := fun id member => by
    obtain ⟨state, known, runs⟩ := Assoc.mem_keysWhere.1 member
    exact Line.admits_iff.1 (inv.served id state known runs)
  have fewer := (List.subperm_of_subset (Assoc.nodup_keysWhere ..) inside).length_le
  rw [Assoc.length_keysWhere] at fewer
  exact Nat.le_trans fewer (List.length_take_le ..)

theorem Lined.le_running (inv : p.Lined)
    (nobody : ∀ id, p.states.get? id = some .queued → ¬ p.line.admits p.workers id)
    (waits : p.states.get? id = some .queued) : p.workers ≤ p.states.count JobState.runs := by
  have inside : p.line.members.take p.workers ⊆ p.states.keysWhere JobState.runs := fun other member => by
    obtain ⟨state, known, asked⟩ := (inv.members other).1 (List.mem_of_mem_take member)
    refine Assoc.mem_keysWhere.2 ⟨state, known, ?_⟩
    cases state with
    | admitted => exact absurd rfl asked
    | queued => exact absurd (Line.admits_iff.2 member) (nobody other known)
    | acting | passing => rfl
  have more := (List.subperm_of_subset (inv.once.sublist (List.take_sublist ..)) inside).length_le
  rw [Assoc.length_keysWhere] at more
  have long : p.workers < p.line.members.length := by
    by_contra short
    have member : id ∈ p.line.members.take p.workers := by
      rw [List.take_of_length_le (Nat.le_of_not_lt short)]
      exact (inv.members id).2 ⟨.queued, waits, nofun⟩
    exact nobody id waits (Line.admits_iff.2 member)
  rwa [List.length_take_of_le (Nat.le_of_lt long)] at more

end Pool

namespace Session

variable {s s' : Session} {turns : List Turn}

theorem play_cons (s : Session) (turn : Turn) (turns : List Turn) :
    s.play (turn :: turns) = (s.next turn).play turns := rfl

theorem play_append (s : Session) (before after : List Turn) : s.play (before ++ after) = (s.play before).play after :=
  List.foldl_append ..

theorem history_append (s : Session) (before after : List Turn) :
    s.history (before ++ after) = s.history before ++ (s.play before).history after := by
  induction before generalizing s with
  | nil => rfl
  | cons turn before ih =>
    simp only [List.cons_append, history, List.append_assoc, ih]
    rfl

structure Sound (s : Session) : Prop where
  listed : s.pool.Listed
  lined : s.pool.Lined

theorem Sound.next (inv : s.Sound) (turn : Turn) : (s.next turn).Sound :=
  ⟨inv.listed.move (next_move s turn), inv.lined.move inv.listed (next_move s turn)⟩

theorem Sound.play (inv : s.Sound) (turns : List Turn) : (s.play turns).Sound := by
  induction turns generalizing s with
  | nil => exact inv
  | cons turn turns ih => exact ih (inv.next turn)

theorem limits_play (s : Session) (turns : List Turn) :
    (s.play turns).router.workers = s.router.workers ∧ (s.play turns).router.backlog = s.router.backlog := by
  induction turns generalizing s with
  | nil => exact ⟨rfl, rfl⟩
  | cons turn turns ih =>
    have rest := ih (s.next turn)
    have first := (next_move s turn).limits
    exact ⟨rest.1.trans first.1, rest.2.trans first.2⟩

theorem Sound.running_play (inv : s.Sound) (turns : List Turn) :
    (s.play turns).running + (s.history turns).countP Event.isEnd =
      s.running + (s.history turns).countP Event.isStart := by
  induction turns generalizing s with
  | nil => rfl
  | cons turn turns ih =>
    have rest := ih (inv.next turn)
    have first : (s.next turn).running + (s.event? turn).toList.countP Event.isEnd =
        s.running + (s.event? turn).toList.countP Event.isStart := (next_move s turn).running inv.listed
    rw [play_cons, history, List.countP_append, List.countP_append]
    omega

theorem Sound.unfinished_play (inv : s.Sound) (turns : List Turn) :
    (s.play turns).unfinished + (s.history turns).countP Event.isEnd =
      s.unfinished + (s.history turns).countP Event.isAdmission := by
  induction turns generalizing s with
  | nil => rfl
  | cons turn turns ih =>
    have rest := ih (inv.next turn)
    have first : (s.next turn).unfinished + (s.event? turn).toList.countP Event.isEnd =
        s.unfinished + (s.event? turn).toList.countP Event.isAdmission := (next_move s turn).unfinished inv.listed
    rw [play_cons, history, List.countP_append, List.countP_append]
    omega

theorem faulted_play (s : Session) (turns : List Turn) :
    (s.play turns).router.faulted = (s.router.faulted || (s.history turns).any Event.isFault) := by
  induction turns generalizing s with
  | nil => exact (Bool.or_false _).symm
  | cons turn turns ih =>
    have first : (s.next turn).router.faulted = (s.router.faulted || (s.event? turn).toList.any Event.isFault) :=
      (next_move s turn).faulted
    rw [play_cons, ih, first, history, List.any_append, Bool.or_assoc]

theorem any_isFault {seen : List Event} : seen.any Event.isFault ↔
    (∃ message, Event.routed message .overflow ∈ seen) ∨ ∃ id text, Event.ended id (.panicked text) ∈ seen := by
  rw [List.any_eq_true]
  constructor
  · rintro ⟨event, member, fault⟩
    unfold Event.isFault at fault
    split at fault
    next message => exact Or.inl ⟨message, member⟩
    next id text => exact Or.inr ⟨id, text, member⟩
    · cases fault
  · rintro (⟨message, member⟩ | ⟨id, text, member⟩)
    · exact ⟨_, member, rfl⟩
    · exact ⟨_, member, rfl⟩

theorem Sound.of_atRest (inv : s.Sound) (rest : s.AtRest) {id : JobId} (waits : s.Waits id) :
    s.jobs.get? id = some .queued ∧ ¬ s.router.hasWorker id := by
  have known : ∃ job, s.router.jobs.get? id = some job := by
    apply Option.ne_none_iff_exists'.1
    refine fun none => absurd ((inv.listed.agree id).1 none) ?_
    obtain state | state := waits
    · exact fun none => nomatch none.symm.trans state
    · exact fun none => nomatch none.symm.trans state
  obtain ⟨job, known⟩ := known
  have stuck := rest id
  unfold step at stuck
  obtain state | state := waits
  · simp [known, state] at stuck
  · simp only [known, state, Option.bind_eq_bind, Option.bind_some] at stuck
    split at stuck
    · cases stuck
    next unserved => exact ⟨state, unserved⟩

theorem Sound.le_running (inv : s.Sound) (rest : s.AtRest) {id : JobId} (waits : s.Waits id) :
    s.router.workers ≤ s.running :=
  inv.lined.le_running (fun _ queued => (inv.of_atRest rest (Or.inr queued)).2) (inv.of_atRest rest waits).1

instance (s : Session) : Decidable s.AtRest :=
  decidable_of_iff (∀ id ∈ s.router.jobs.keys, (s.step id).isNone) <| by
    constructor
    · intro known id
      cases found : s.router.jobs.get? id with
      | none => simp [step, found]
      | some job => exact Option.isNone_iff_eq_none.1 (known id (List.mem_map_of_mem (Assoc.exists_entry found)))
    · exact fun rest id _ => Option.isNone_iff_eq_none.2 (rest id)

theorem Sound.ended (inv : s.Sound) {id : JobId} {ending : Ending}
    (ends : s.event? (.job id) = some (.ended id ending)) :
    (s.next (.job id)).running + 1 = s.running ∧ (s.next (.job id)).unfinished + 1 = s.unfinished ∧
    ∀ waiting, s.router.workerLine.members[s.router.workers]? = some waiting →
      ¬ s.router.hasWorker waiting ∧ (s.next (.job id)).router.hasWorker waiting := by
  have move := next_move s (.job id)
  rw [ends] at move
  have running := move.running inv.listed
  have unfinished := move.unfinished inv.listed
  refine ⟨running, unfinished, fun waiting first => ?_⟩
  generalize after : (s.next (.job id)).pool = p at move
  cases move with
  | finish known state _ =>
    have line : (s.next (.job id)).router.workerLine = s.router.workerLine.leave id := congrArg Pool.line after
    have workers : (s.next (.job id)).router.workers = s.router.workers := congrArg Pool.workers after
    rw [hasWorker, hasWorker, line, workers]
    exact Line.admits_next inv.lined.once (inv.lined.served id _ state rfl) first

theorem sound_ofLimits {concurrent backlog : Nat} {r : Router} (made : ofLimits? concurrent backlog = some r) :
    Sound { router := r } ∧ r.workers = max concurrent 1 ∧ r.backlog = backlog ∧ r.faulted = false := by
  unfold ofLimits? at made
  split at made
  · cases made
    have listed : (Session.pool { router := { workers := max concurrent 1, backlog } }).Listed :=
      ⟨fun _ => ⟨fun _ => rfl, fun _ => rfl⟩, rfl, nofun, Nat.zero_le _⟩
    exact ⟨⟨listed, fun id => by simp [pool], List.nodup_nil, nofun⟩, rfl, rfl, rfl⟩
  · cases made

/-- The pool's accounting. Handlers at work and unfinished messages are what was begun and admitted less what has
ended, in whatever way; neither gets over its limit. A message for a handler overflows exactly when the backlog is full.
At each end a worker and a place are free again, and who waits first has the worker; when nothing can go on, a job waits
only behind as many as there are workers. Nothing but an overflow or a breakdown is a fault. -/
theorem pool_accounting {concurrent backlog : Nat} {r : Router} (made : ofLimits? concurrent backlog = some r)
    (turns : List Turn) :
    let s := Session.play { router := r } turns
    let seen := Session.history { router := r } turns
    (s.running + seen.countP Event.isEnd = seen.countP Event.isStart ∧
      s.unfinished + seen.countP Event.isEnd = seen.countP Event.isAdmission) ∧
    s.running ≤ max concurrent 1 ∧ s.unfinished ≤ max concurrent 1 + backlog ∧
    (∀ message, s.router.pending.get? message.id = none → s.router.handlers.get? message.kind ≠ none →
      (s.obey (.route message)).1 =
        .fate (if s.unfinished = max concurrent 1 + backlog then .overflow else .handler)) ∧
    (∀ id ending, s.event? (.job id) = some (.ended id ending) →
      (s.next (.job id)).running + 1 = s.running ∧ (s.next (.job id)).unfinished + 1 = s.unfinished ∧
      ∀ waiting, s.router.workerLine.members[max concurrent 1]? = some waiting →
        ¬ s.router.hasWorker waiting ∧ (s.next (.job id)).router.hasWorker waiting) ∧
    (s.AtRest → ∀ id, s.Waits id → s.running = max concurrent 1) ∧
    (s.router.faulted ↔
      (∃ message, Event.routed message .overflow ∈ seen) ∨ ∃ id text, Event.ended id (.panicked text) ∈ seen) := by
  intro s seen
  obtain ⟨first, workers, places, faultless⟩ := sound_ofLimits made
  have inv : s.Sound := first.play turns
  have limits := limits_play { router := r } turns
  have workers : s.router.workers = max concurrent 1 := limits.1.trans workers
  have places : s.router.backlog = backlog := limits.2.trans places
  have running := first.running_play turns
  have unfinished := first.unfinished_play turns
  have most : s.running ≤ max concurrent 1 := workers ▸ inv.lined.running_le
  have bounded : s.unfinished ≤ max concurrent 1 + backlog := by
    rw [← workers, ← places]
    exact inv.listed.bounded
  refine ⟨⟨running.trans (Nat.zero_add _), unfinished.trans (Nat.zero_add _)⟩, most, bounded,
    fun message unknown bound => ?_, fun id ending ends => ?_, fun rest id waits => ?_, ?_⟩
  · obtain ⟨handler, bound⟩ := Option.ne_none_iff_exists'.1 bound
    have sizes : s.router.jobs.size = s.unfinished := inv.listed.sizes
    have capacity : s.router.capacity = max concurrent 1 + backlog := by rw [capacity, workers, places]
    by_cases full : s.unfinished = max concurrent 1 + backlog
    · have closed : ¬ s.router.jobs.size < s.router.capacity := by omega
      simp only [obey, route_of_full unknown bound closed, if_pos full]
    · have room : s.router.jobs.size < s.router.capacity := by omega
      simp only [obey, route_of_room unknown bound room, if_neg full]
  · rw [← workers]
    exact inv.ended ends
  · exact Nat.le_antisymm most (workers ▸ inv.le_running rest waits)
  · rw [faulted_play, faultless, Bool.false_or, any_isFault]

/-- One worker, and one place behind it. One message too many comes, the first handler breaks down, and the second
one never ends. -/
def besieged : List Turn :=
  let heartbeat : Message := .request (.fresh 0) .heartbeat []
  let report (n : Nat) : Turn := .order (.route (.request (.fresh n) .agentInfo []))
  [.order (.bind .heartbeat { actions := [.panic none] }), .order (.bind .agentInfo { actions := [.stall] }),
    .order (.route heartbeat), report 1, report 2, .job 0, .job 1, .job 0, .job 0, report 3, .job 2, .job 1]

theorem pool_accounting_after_breakdown :
    let r : Router := { workers := 1, backlog := 1 }
    let s := Session.play { router := r } besieged
    let before := Session.play { router := r } (besieged.take 8)
    ofLimits? 0 1 = some r ∧
    (s.AtRest ∧ s.Waits 2 ∧ s.running = max 0 1 ∧ s.unfinished = max 0 1 + 1) ∧
    (∃ handler, s.router.handlers.get? .heartbeat = some handler) ∧
    (s.obey (.route (.request (.fresh 4) .heartbeat []))).1 = .fate .overflow ∧
    s.router.faulted ∧
    before.event? (.job 0) = some (.ended 0 (.panicked none)) ∧ before.router.workerLine.members[max 0 1]? = some 1 ∧
    ¬ before.router.hasWorker 1 ∧ (before.next (.job 0)).router.hasWorker 1 := by
  intro r
  dsimp only
  have made : ofLimits? 0 1 = some r := by decide
  obtain ⟨_, _, _, routes, _, stands, faults⟩ := pool_accounting made besieged
  obtain ⟨_, _, _, _, ends, _, _⟩ := pool_accounting made (besieged.take 8)
  have rest : (Session.play { router := r } besieged).AtRest := by decide +kernel
  have waits : (Session.play { router := r } besieged).Waits 2 := Or.inr (by decide +kernel)
  have full : (Session.play { router := r } besieged).unfinished = max 0 1 + 1 := by decide +kernel
  have overflows := routes (.request (.fresh 4) .heartbeat []) (by decide +kernel) (by decide +kernel)
  rw [if_pos full] at overflows
  have panicked : (Session.play { router := r } (besieged.take 8)).event? (.job 0) =
      some (.ended 0 (.panicked none)) := by decide +kernel
  have first : (Session.play { router := r } (besieged.take 8)).router.workerLine.members[max 0 1]? = some 1 := by
    decide +kernel
  obtain ⟨_, _, served⟩ := ends 0 _ panicked
  exact ⟨made, ⟨rest, waits, stands rest 2 waits, full⟩, ⟨{ actions := [.panic none] }, by decide +kernel⟩, overflows,
    faults.2 (Or.inr ⟨0, none, by decide +kernel⟩), panicked, first, served 1 first⟩

end Session

end Router

end Fleetwire
