import Fleetwire.Proofs.Jobs

namespace Fleetwire

def Message.changed? (message : Message) : Option ConfigFile :=
  if message.kind = .configFileChanged then message.file? else none

theorem Message.kind_eq {message : Message} {file : ConfigFile} (changed : message.changed? = some file) :
    message.kind = .configFileChanged := by
  unfold changed? at changed
  split at changed
  next same => exact same
  · cases changed

/-- The handler is the standing one for changed files, or has nothing to do with them. -/
def Handler.Apt (kind : MessageKind) (handler : Handler) : Prop :=
  if kind = .configFileChanged then handler.actions = [.recordFile] else .recordFile ∉ handler.actions

instance (kind : MessageKind) (handler : Handler) : Decidable (handler.Apt kind) :=
  inferInstanceAs (Decidable
    (if kind = .configFileChanged then handler.actions = [.recordFile] else .recordFile ∉ handler.actions))

def Doing.Fits (c : ConnectionId) (job : Job) : Doing → Prop
  | recording file errand =>
    job.message.changed? = some file ∧ errand.source = c ∧ ∃ identity, errand.report = .record identity file
  | reporting errand => errand.report.isRecord = false
  | _ => True

def Handling.Fits (c : ConnectionId) (job : Job) : Handling → Prop
  | admitted | queued => True
  | acting left doing => left ⊆ job.handler.actions ∧ doing.Fits c job
  | finished => False

variable {job : Job} {c : ConnectionId} {kind : MessageKind} {handler : Handler}

theorem Handler.Apt.kind_eq (apt : handler.Apt kind) (records : .recordFile ∈ handler.actions) :
    kind = .configFileChanged := by
  unfold Apt at apt
  split at apt
  next same => exact same
  · exact absurd records apt

theorem Handler.Apt.actions_eq (apt : handler.Apt .configFileChanged) : handler.actions = [.recordFile] := by
  rwa [Apt, if_pos rfl] at apt

theorem Handler.apt_of_other (other : kind ≠ .configFileChanged) (plain : .recordFile ∉ handler.actions) :
    handler.Apt kind := by
  rwa [Apt, if_neg other]

theorem Doing.Plain.fits {doing : Doing} (plain : doing.Plain) : doing.Fits c job := by
  cases doing with
  | recording => exact plain.elim
  | reporting => exact plain
  | _ => trivial

namespace Handling

variable {identity : Option String} {phase phase' : Handling}

theorem Goes.fits (goes : phase.Goes c identity job phase') (apt : job.handler.Apt job.message.kind)
    (fits : phase.Fits c job) : phase'.Fits c job := by
  cases goes with
  | queue => trivial
  | start => exact ⟨List.Subset.refl _, trivial⟩
  | begin other plain => exact ⟨fun a member => fits.1 (List.mem_cons_of_mem _ member), plain.fits⟩
  | @record left file due brings =>
    have records : .recordFile ∈ job.handler.actions := fits.1 (List.mem_cons_self ..)
    have changed : job.message.changed? = some file := by
      rw [Message.changed?, if_pos (apt.kind_eq records), brings]
    exact ⟨fun a member => fits.1 (List.mem_cons_of_mem _ member), changed, rfl, _, rfl⟩
  | carryOn still busy plain => exact ⟨fits.1, plain.fits⟩

end Handling

namespace Desk

def identity? (l : Desk) : Option String := l.table.bind Table.identity

def handler? (l : Desk) (kind : MessageKind) : Option Handler := l.table.bind fun table => table.handlers.get? kind

def job? (l : Desk) (id : JobId) : Option Job := l.table.bind fun table => table.jobs.get? id

def admitted (l : Desk) : Nat := (l.table.map Table.admitted).getD 0

def Over (l : Desk) (id : JobId) : Prop := id < l.admitted ∧ l.job? id = none

def Unique (l : Desk) : Prop :=
  ∀ ⦃t u : TaskId⦄ ⦃id : JobId⦄ ⦃phase phase' : Handling⦄,
    l.work t = some (id, phase) → l.work u = some (id, phase') → t = u

/-- Each job is known to the table until it is over, and its task is as far with it as it may be. -/
def Manned (may : Job → Handling → Prop) (l : Desk) : Prop :=
  ∀ ⦃t : TaskId⦄ ⦃id : JobId⦄ ⦃phase : Handling⦄, l.work t = some (id, phase) →
    id < l.admitted ∧ (phase ≠ .finished → ∃ job, l.job? id = some job ∧ may job phase)

structure Sound (c : ConnectionId) (l : Desk) : Prop where
  apt : ∀ {kind : MessageKind} {handler : Handler}, l.handler? kind = some handler → handler.Apt kind
  jobs : ∀ {id : JobId} {job : Job}, l.job? id = some job →
    id < l.admitted ∧ job.handler.Apt job.message.kind
  works : ∀ {t : TaskId} {id : JobId} {phase : Handling}, l.work t = some (id, phase) →
    id < l.admitted ∧ (phase ≠ .finished → ∃ job, l.job? id = some job ∧ phase.Fits c job)
  unique : l.Unique

variable {l l' : Desk} {fails : Report → Prop} {table : Table} {t u : TaskId} {id : JobId} {phase : Handling}

theorem admitted_of_table (here : l.table = some table) : l.admitted = table.admitted := by
  rw [admitted, here, Option.map_some, Option.getD_some]

theorem job?_of_table (here : l.table = some table) (id : JobId) : l.job? id = table.jobs.get? id := by
  rw [job?, here, Option.bind_some]

theorem handler?_of_table (here : l.table = some table) (kind : MessageKind) :
    l.handler? kind = table.handlers.get? kind := by
  rw [handler?, here, Option.bind_some]

theorem work_setWork (l : Desk) (t : TaskId) (work : JobId × Handling) (u : TaskId) :
    (l.setWork t work).work u = if u = t then some work else l.work u := rfl

theorem setTable_same (here : l.table = some table) {table' : Table} (jobs : table'.jobs = table.jobs)
    (admitted : table'.admitted = table.admitted) :
    (l.setTable table').job? = l.job? ∧ (l.setTable table').admitted = l.admitted := by
  constructor
  · funext id
    rw [job?_of_table here, ← jobs]
    rfl
  · rw [admitted_of_table here, ← admitted]
    rfl

theorem job?_finish (here : l.table = some table) (id : JobId) (t : TaskId) (work : JobId × Handling)
    (id' : JobId) :
    ((l.setTable (table.finish id)).setWork t work).job? id' = if id' = id then none else l.job? id' := by
  rw [job?_of_table here]
  exact Assoc.get?_erase ..

theorem admitted_finish (here : l.table = some table) (id : JobId) (t : TaskId) (work : JobId × Handling) :
    ((l.setTable (table.finish id)).setWork t work).admitted = l.admitted := by
  rw [admitted_of_table here]
  rfl

theorem job?_enlist (here : l.table = some table) (job : Job) (t : TaskId) (work : JobId × Handling) (id : JobId) :
    ((l.setTable (table.enlist job)).setWork t work).job? id =
      if id = l.admitted then some job else l.job? id := by
  rw [job?_of_table here, admitted_of_table here]
  exact Assoc.get?_insert ..

theorem admitted_enlist (here : l.table = some table) (job : Job) (t : TaskId) (work : JobId × Handling) :
    ((l.setTable (table.enlist job)).setWork t work).admitted = l.admitted + 1 := by
  rw [admitted_of_table here]
  rfl

theorem Unique.setWork (h : l.Unique) {before : Handling} (work : l.work t = some (id, before)) :
    (l.setWork t (id, phase)).Unique := by
  have former : ∀ {u : TaskId} {id' : JobId} {phase' : Handling},
      (l.setWork t (id, phase)).work u = some (id', phase') → ∃ phase', l.work u = some (id', phase') := by
    intro u id' phase' works
    rw [work_setWork] at works
    split at works
    next own =>
      cases works
      exact ⟨before, own ▸ work⟩
    · exact ⟨phase', works⟩
  intro u v id' phase' phase'' first second
  obtain ⟨_, first⟩ := former first
  obtain ⟨_, second⟩ := former second
  exact h first second

theorem Unique.begin (h : l.Unique) (fresh : ∀ u phase, l.work u ≠ some (id, phase)) :
    (l.setWork t (id, phase)).Unique := by
  intro u v id' phase' phase'' first second
  rw [work_setWork] at first second
  split at first
  next own =>
    cases first
    split at second
    next own' => rw [own, own']
    · exact absurd second (fresh v phase'')
  · split at second
    · cases second
      exact absurd first (fresh u phase')
    · exact h first second

section Manned

variable {may : Job → Handling → Prop}

theorem Manned.setTable (h : l.Manned may) (here : l.table = some table) {table' : Table}
    (jobs : table'.jobs = table.jobs) (admitted : table'.admitted = table.admitted) :
    (l.setTable table').Manned may := by
  obtain ⟨sameJobs, sameCount⟩ := setTable_same here jobs admitted
  rw [Manned, sameJobs, sameCount]
  exact h

theorem Manned.setWork (h : l.Manned may) {before : Handling} (work : l.work t = some (id, before))
    (fits : phase ≠ .finished → ∃ job, l.job? id = some job ∧ may job phase) :
    (l.setWork t (id, phase)).Manned may := by
  intro u id' phase' works
  rw [work_setWork] at works
  split at works
  · cases works
    exact ⟨(h work).1, fits⟩
  · exact h works

theorem Manned.finish (h : l.Manned may) (unique : l.Unique) (here : l.table = some table)
    (work : l.work t = some (id, phase)) :
    ((l.setTable (table.finish id)).setWork t (id, .finished)).Manned may := by
  intro u id' phase' works
  rw [admitted_finish here, job?_finish here]
  rw [work_setWork] at works
  split at works
  · cases works
    exact ⟨(h work).1, fun unfinished => absurd rfl unfinished⟩
  next other =>
    have apart : id' ≠ id := by
      rintro rfl
      exact other (unique works work)
    rw [if_neg apart]
    exact h works

theorem Manned.enlist (h : l.Manned may) (here : l.table = some table) (fits : may job .admitted) :
    ((l.setTable (table.enlist job)).setWork t (l.admitted, .admitted)).Manned may := by
  intro u id phase works
  rw [admitted_enlist here, job?_enlist here]
  rw [work_setWork] at works
  split at works
  · cases works
    exact ⟨Nat.lt_succ_self _, fun _ => ⟨job, if_pos rfl, fits⟩⟩
  · obtain ⟨known, busy⟩ := h works
    rw [if_neg (Nat.ne_of_lt known)]
    exact ⟨Nat.lt_succ_of_lt known, busy⟩

theorem Manned.fresh (h : l.Manned may) (u : TaskId) (phase : Handling) :
    l.work u ≠ some (l.admitted, phase) :=
  fun works => Nat.lt_irrefl _ (h works).1

end Manned

theorem Sound.manned (h : l.Sound c) : l.Manned fun job phase => phase.Fits c job :=
  fun _ _ _ works => h.works works

theorem Sound.tell (h : l.Sound c) (source : ConnectionId) (report : Report) (failed : Bool) :
    (l.tell source report failed).Sound c :=
  ⟨h.apt, h.jobs, h.works, h.unique⟩

theorem Sound.setHandlers (h : l.Sound c) (here : l.table = some table) {table' : Table}
    (jobs : table'.jobs = table.jobs) (admitted : table'.admitted = table.admitted)
    (apt : ∀ {kind : MessageKind} {handler : Handler},
      table'.handlers.get? kind = some handler → handler.Apt kind) : (l.setTable table').Sound c := by
  obtain ⟨sameJobs, sameCount⟩ := setTable_same here jobs admitted
  refine ⟨apt, ?_, fun works => h.manned.setTable here jobs admitted works, h.unique⟩
  rw [sameJobs, sameCount]
  exact h.jobs

theorem Sound.setWork (h : l.Sound c) {before : Handling} (work : l.work t = some (id, before))
    (fits : phase ≠ .finished → ∃ job, l.job? id = some job ∧ phase.Fits c job) :
    (l.setWork t (id, phase)).Sound c := by
  exact ⟨h.apt, h.jobs, fun works => h.manned.setWork work fits works, h.unique.setWork work⟩

theorem Sound.finish (h : l.Sound c) (here : l.table = some table) (work : l.work t = some (id, phase)) :
    ((l.setTable (table.finish id)).setWork t (id, .finished)).Sound c := by
  have unique : (l.setTable (table.finish id)).Unique := h.unique
  refine ⟨fun {kind handler} found => h.apt ((handler?_of_table here kind).trans found), ?_,
    fun works => h.manned.finish h.unique here work works, unique.setWork work⟩
  intro id' job found
  rw [job?_finish here] at found
  rw [admitted_finish here]
  split at found
  · cases found
  · exact h.jobs found

theorem Sound.enlist (h : l.Sound c) (here : l.table = some table) (apt : job.handler.Apt job.message.kind) :
    ((l.setTable (table.enlist job)).setWork t (table.admitted, .admitted)).Sound c := by
  have unique : (l.setTable (table.enlist job)).Unique := h.unique
  rw [← admitted_of_table here]
  refine ⟨fun {kind handler} found => h.apt ((handler?_of_table here kind).trans found), ?_,
    fun works => h.manned.enlist here trivial works, unique.begin h.manned.fresh⟩
  intro id job' found
  rw [job?_enlist here] at found
  rw [admitted_enlist here]
  split at found
  next new =>
    cases found
    exact ⟨new ▸ Nat.lt_succ_self _, apt⟩
  · obtain ⟨known, apt'⟩ := h.jobs found
    exact ⟨Nat.lt_succ_of_lt known, apt'⟩

structure Busy (l : Desk) : Prop where
  manned : l.Manned fun _ _ => True
  unique : l.Unique

theorem Busy.setTable (h : l.Busy) (here : l.table = some table) {table' : Table}
    (jobs : table'.jobs = table.jobs) (admitted : table'.admitted = table.admitted) : (l.setTable table').Busy :=
  ⟨h.manned.setTable here jobs admitted, h.unique⟩

theorem Busy.finish (h : l.Busy) (here : l.table = some table) (work : l.work t = some (id, phase)) :
    ((l.setTable (table.finish id)).setWork t (id, .finished)).Busy := by
  have unique : (l.setTable (table.finish id)).Unique := h.unique
  exact ⟨h.manned.finish h.unique here work, unique.setWork work⟩

theorem Busy.setWork (h : l.Busy) {before : Handling} (work : l.work t = some (id, before))
    (busy : before ≠ .finished) : (l.setWork t (id, phase)).Busy :=
  ⟨h.manned.setWork work fun _ => (h.manned work).2 busy, h.unique.setWork work⟩

theorem apt_standing (found : Table.standing.handlers.get? kind = some handler) : handler.Apt kind := by
  simp only [Table.standing, Connection.standingHandlers, List.foldl_cons, List.foldl_nil,
    Assoc.get?_insert, Assoc.get?_empty] at found
  repeat' split at found
  case isFalse => cases found
  all_goals
    cases found
    subst kind
    decide

theorem Sound.move (h : l.Sound c) (move : l.Move fails c l') : l'.Sound c := by
  cases move with
  | stay => exact h
  | arrive none =>
    refine ⟨apt_standing, ?_, ?_, h.unique⟩
    · intro id job found
      cases found
    · intro t id phase works
      have known := (h.works works).1
      rw [admitted, none] at known
      exact absurd known (Nat.not_lt_zero id)
  | introduce here identity =>
    exact h.setHandlers here rfl rfl fun {kind handler} found => h.apt ((handler?_of_table here kind).trans found)
  | @bind table here kind handler other plain =>
    refine h.setHandlers here rfl rfl fun {kind' handler'} found => ?_
    rw [Assoc.get?_insert] at found
    split at found
    next same =>
      cases found
      subst same
      exact Handler.apt_of_other other plain
    · exact h.apt ((handler?_of_table here kind').trans found)
  | enlist here idle bound => exact h.enlist here (h.apt ((handler?_of_table here _).trans bound))
  | go here work found goes =>
    rename_i job phase phase'
    have known : l.job? _ = some job := (job?_of_table here _).trans found
    have busy : phase ≠ .finished := by cases goes <;> nofun
    obtain ⟨job', found', fits⟩ := (h.works work).2 busy
    rw [known] at found'
    cases found'
    exact h.setWork work fun _ => ⟨job, known, goes.fits (h.jobs known).2 fits⟩
  | finish here work found ends => exact h.finish here work
  | record work other =>
    obtain ⟨job, found, fits, _⟩ := (h.works work).2 nofun
    exact (h.tell ..).setWork work fun _ => ⟨job, found, fits, other⟩
  | report work failed =>
    obtain ⟨job, found, fits, _⟩ := (h.works work).2 nofun
    exact (h.tell ..).setWork work fun _ => ⟨job, found, fits, trivial⟩
  | lose here work excused => exact (h.tell ..).finish here work
  | elsewhere other report failed => exact h.tell ..

theorem Busy.move (h : l.Busy) (move : l.Move fails c l') : l'.Busy := by
  have tell : ∀ source report failed, (l.tell source report failed).Busy :=
    fun _ _ _ => ⟨h.manned, h.unique⟩
  cases move with
  | stay => exact h
  | arrive none =>
    refine ⟨fun t id phase works => ?_, h.unique⟩
    have known := (h.manned works).1
    rw [admitted, none] at known
    exact absurd known (Nat.not_lt_zero id)
  | introduce here | bind here => exact h.setTable here rfl rfl
  | @enlist table here t idle handler message bound =>
    have unique : (l.setTable (table.enlist { handler, message })).Unique := h.unique
    rw [← admitted_of_table here]
    exact ⟨h.manned.enlist here trivial, unique.begin h.manned.fresh⟩
  | go here work found goes => exact h.setWork work (by cases goes <;> nofun)
  | finish here work found ends => exact h.finish here work
  | record work other => exact (tell ..).setWork work nofun
  | report work failed => exact (tell ..).setWork work nofun
  | lose here work excused => exact (tell ..).finish here work
  | elsewhere other report failed => exact tell ..

theorem Move.admitted_le (move : l.Move fails c l') : l.admitted ≤ l'.admitted := by
  cases move with
  | arrive none =>
    rw [admitted, none]
    exact Nat.zero_le _
  | introduce here | bind here | finish here | lose here =>
    have same := admitted_of_table here
    exact Nat.le_of_eq same
  | enlist here =>
    rw [admitted_enlist here]
    exact Nat.le_succ _
  | _ => exact Nat.le_refl _

theorem Move.job_cases (move : l.Move fails c l') (found : l'.job? id = some job) :
    l.job? id = some job ∨ l.admitted ≤ id ∧ ∃ t, l'.work t = some (id, .admitted) := by
  have finished : ∀ {table : Table} {id' : JobId}, l.table = some table →
      (table.finish id').jobs.get? id = some job → l.job? id = some job := by
    intro table id' here found
    rw [Table.finish, Assoc.get?_erase] at found
    split at found
    · cases found
    · exact (job?_of_table here id).trans found
  cases move with
  | arrive none => cases found
  | introduce here | bind here => exact .inl ((job?_of_table here id).trans found)
  | @enlist table here t idle handler message bound =>
    rw [job?_enlist here] at found
    split at found
    next new =>
      rw [new]
      exact .inr ⟨Nat.le_refl _, t, (if_pos rfl).trans (by rw [admitted_of_table here])⟩
    · exact .inl found
  | finish here => exact .inl (finished here found)
  | lose here => exact .inl (finished here found)
  | _ => exact .inl found

theorem Over.move (move : l.Move fails c l') (h : l.Over id) : l'.Over id := by
  obtain ⟨known, gone⟩ := h
  refine ⟨Nat.lt_of_lt_of_le known move.admitted_le, ?_⟩
  cases found : l'.job? id with
  | none => rfl
  | some job =>
    rcases move.job_cases found with former | ⟨new, _⟩
    · rw [gone] at former
      cases former
    · exact absurd known (Nat.not_lt_of_le new)

variable {states past : List Desk}

theorem Course.sound (course : Course fails c states) : ∀ l ∈ states, l.Sound c := by
  induction course with
  | @start l none idle empty =>
    intro l' member
    rw [List.mem_singleton.1 member]
    refine ⟨?_, ?_, ?_, ?_⟩
    · intro kind handler found
      rw [handler?, none] at found
      cases found
    · intro id job found
      rw [job?, none] at found
      cases found
    · intro t id phase works
      rw [idle] at works
      cases works
    · intro t u id phase phase' works
      rw [idle] at works
      cases works
  | move course move ih =>
    intro l' member
    rcases List.mem_cons.1 member with rfl | member
    · exact (ih _ (List.mem_cons_self ..)).move move
    · exact ih l' member

theorem Course.lasts (course : Course fails c (l :: past)) {holds : Desk → Prop}
    (stays : ∀ l l', l.Move fails c l' → holds l → holds l') (former : Desk) (member : former ∈ l :: past)
    (before : holds former) : holds l := by
  generalize all : l :: past = states at course
  induction course generalizing l past with
  | start =>
    cases all
    rw [← List.mem_singleton.1 member]
    exact before
  | move course move ih =>
    cases all
    rcases List.mem_cons.1 member with rfl | member
    · exact before
    · exact stays _ _ move (ih member rfl)

end Desk

end Fleetwire
