import Fleetwire.Proofs.Jobs.Sound

namespace Fleetwire

def Handling.early : Handling → Bool
  | admitted | queued | acting _ (.recording _ _) => true
  | acting left .nothing => left.head? = some .recordFile
  | _ => false

namespace Handling

variable {c : ConnectionId} {identity : Option String} {job : Job} {file : ConfigFile} {phase phase' : Handling}

theorem Goes.early (goes : phase.Goes c identity job phase') (actions : job.handler.actions = [.recordFile])
    (early : phase.early) : phase'.early := by
  cases goes with
  | queue => rfl
  | start =>
    rw [actions]
    rfl
  | begin other plain => exact absurd (Option.some.inj (of_decide_eq_true early)) other
  | record brings => rfl
  | @carryOn left doing doing' still busy plain =>
    cases doing with
    | nothing => exact absurd rfl busy
    | recording => cases still
    | _ => cases early

theorem Ends.not_early (ends : phase.Ends job) (changed : job.message.changed? = some file) : phase.early = false := by
  cases ends with
  | done => rfl
  | undecodable nothing =>
    rw [Message.changed?, nothing, ite_self] at changed
    cases changed
  | broken other => exact decide_eq_false fun same => other (Option.some.inj same)
  | unsent => rfl

end Handling

namespace Desk

variable {fails : Report → Prop} {c : ConnectionId} {identity path : String} {l l' : Desk} {states past : List Desk}
  {t : TaskId} {id id' : JobId} {phase phase' : Handling} {file : ConfigFile} {table : Table}

def Concerns (l : Desk) (path : String) (id : JobId) : Prop :=
  ∃ job file, l.job? id = some job ∧ job.message.changed? = some file ∧ file.path = path

theorem Concerns.of_job {job : Job} (h : l.Concerns path id) (found : l.job? id = some job) :
    ∃ file, job.message.changed? = some file ∧ file.path = path := by
  obtain ⟨job', file, found', changed⟩ := h
  rw [found] at found'
  cases found'
  exact ⟨file, changed⟩

theorem Concerns.path_eq {job : Job} (h : l.Concerns path id) (found : l.job? id = some job)
    (changed : job.message.changed? = some file) : file.path = path := by
  obtain ⟨file', changed', place⟩ := h.of_job found
  rw [changed] at changed'
  cases changed'
  exact place

def Early (l : Desk) (path : String) (id : JobId) : Prop :=
  l.Concerns path id ∧ ∃ t phase, l.work t = some (id, phase) ∧ phase.early

theorem Early.setWork (h : l.Early path id) (work : l.work t = some (id', phase))
    (onward : l.Concerns path id' → phase.early → phase'.early) : (l.setWork t (id', phase')).Early path id := by
  obtain ⟨concerns, u, phase₀, works, early⟩ := h
  refine ⟨concerns, ?_⟩
  by_cases own : u = t
  · subst own
    rw [work] at works
    cases works
    exact ⟨u, phase', if_pos rfl, onward concerns early⟩
  · exact ⟨u, phase₀, (if_neg own).trans works, early⟩

theorem Early.finish (h : l.Early path id) (sound : l.Sound c) (here : l.table = some table)
    (work : l.work t = some (id', phase)) (late : l.Concerns path id' → phase.early = false) :
    ((l.setTable (table.finish id')).setWork t (id', .finished)).Early path id := by
  obtain ⟨⟨job, file, found, changed, place⟩, u, phase₀, works, early⟩ := h
  have other : id ≠ id' := by
    rintro rfl
    have own := sound.unique works work
    subst own
    rw [work] at works
    cases works
    rw [late ⟨job, file, found, changed, place⟩] at early
    cases early
  have apart : u ≠ t := by
    rintro rfl
    rw [work] at works
    cases works
    exact other rfl
  have still : ((l.setTable (table.finish id')).setWork t (id', .finished)).job? id = some job := by
    rw [job?_finish here, if_neg other, found]
  exact ⟨⟨job, file, still, changed, place⟩, u, phase₀, (if_neg apart).trans works, early⟩

def Names (l : Desk) (identity path : String) : Prop :=
  ∀ (t : TaskId) (id : JobId) (left : List Action) (file : ConfigFile) (errand : Errand),
    l.work t = some (id, .acting left (.recording file errand)) → file.path = path →
    errand.report = .record identity file

def Alone (l : Desk) (c : ConnectionId) (identity path : String) : Prop :=
  ∀ (source : ConnectionId) (file : ConfigFile), (source, .record identity file) ∈ l.recorded →
    file.path = path → source = c

theorem Names.setWork (h : l.Names identity path)
    (record : ∀ (left : List Action) (file : ConfigFile) (errand : Errand),
      phase = .acting left (.recording file errand) → file.path = path →
      errand.report = .record identity file) : (l.setWork t (id, phase)).Names identity path := by
  intro u id' left file errand works place
  rw [work_setWork] at works
  split at works
  · cases works
    exact record left file errand rfl place
  · exact h u id' left file errand works place

theorem Move.names (sound : l.Sound c) (h : l.Names identity path)
    (known : ∀ id, l.Concerns path id → l.identity? = some identity) (move : l.Move fails c l') :
    l'.Names identity path := by
  cases move with
  | stay | arrive | introduce | bind | elsewhere => exact h
  | enlist => exact h.setWork nofun
  | @go table here t id job phase phase' work found goes =>
    refine h.setWork fun left file errand same place => ?_
    subst same
    have there : l.job? id = some job := (job?_of_table here id).trans found
    have busy : phase ≠ .finished := by cases goes <;> nofun
    obtain ⟨job', there', fits⟩ := (sound.works work).2 busy
    rw [there] at there'
    cases there'
    have changed : job.message.changed? = some file := (goes.fits (sound.jobs there).2 fits).2.1
    have own := known id ⟨job, file, there, changed, place⟩
    rw [Desk.identity?, here, Option.bind_some] at own
    cases goes with
    | record brings => rw [own, Option.getD_some]
    | begin other plain => exact plain.elim
    | carryOn still busy plain => exact plain.elim
  | finish | lose => exact h.setWork nofun
  | record work other => exact h.setWork nofun
  | report work failed => exact h.setWork nofun

theorem files_tell_other {report : Report} (source : ConnectionId) (failed : Bool)
    (other : ∀ file, report = .record identity file → file.path ≠ path) :
    (l.tell source report failed).files.get? (identity, path) = l.files.get? (identity, path) := by
  cases report with
  | record identity' file =>
    cases failed with
    | false =>
      refine (Assoc.get?_insert ..).trans (if_neg ?_)
      intro same
      cases same
      exact other file rfl rfl
    | true => rfl
  | _ => rfl

theorem Move.recorded_cases (sound : l.Sound c) (names : l.Names identity path) (alone : l'.Alone c identity path)
    (certain : ∀ file, ¬ fails (.record identity file)) (move : l.Move fails c l') :
    (∃ id job file, l.job? id = some job ∧ l'.job? id = some job ∧ job.message.changed? = some file ∧
      file.path = path ∧ l'.files.get? (identity, path) = some file) ∨
    (l'.files.get? (identity, path) = l.files.get? (identity, path) ∧
      ∀ id, l.Early path id → l'.Early path id) := by
  cases move with
  | stay => exact .inr ⟨rfl, fun _ early => early⟩
  | arrive none =>
    refine .inr ⟨rfl, fun id early => ?_⟩
    obtain ⟨⟨job, file, found, _⟩, _⟩ := early
    rw [job?, none] at found
    cases found
  | introduce here | bind here =>
    refine .inr ⟨rfl, fun id early => ?_⟩
    obtain ⟨⟨job, file, found, about⟩, works⟩ := early
    exact ⟨⟨job, file, (job?_of_table here id).symm.trans found, about⟩, works⟩
  | @enlist table here t idle handler message bound =>
    refine .inr ⟨rfl, fun id early => ?_⟩
    obtain ⟨⟨job, file, found, about⟩, u, phase, works, early⟩ := early
    have known := (sound.works works).1
    have still : ((l.setTable (table.enlist { handler, message })).setWork t (table.admitted, .admitted)).job? id =
        some job := by
      rw [job?_enlist here, if_neg (Nat.ne_of_lt known), found]
    have apart : u ≠ t := by
      rintro rfl
      rw [idle] at works
      cases works
    exact ⟨⟨job, file, still, about⟩, u, phase, (if_neg apart).trans works, early⟩
  | @go table here t id job phase phase' work found goes =>
    refine .inr ⟨rfl, fun other early => early.setWork work fun concerns => ?_⟩
    have there : l.job? id = some job := (job?_of_table here id).trans found
    obtain ⟨file, changed, _⟩ := concerns.of_job there
    have apt := (sound.jobs there).2
    rw [Message.kind_eq changed] at apt
    exact goes.early apt.actions_eq
  | @finish table here t id job phase work found ends =>
    refine .inr ⟨rfl, fun other early => early.finish sound here work fun concerns => ?_⟩
    obtain ⟨file, changed, _⟩ := concerns.of_job ((job?_of_table here id).trans found)
    exact ends.not_early changed
  | @record t id left file errand errand' work other =>
    obtain ⟨job, found, _, changed, _, identity', report⟩ := (sound.works work).2 (by simp)
    -- The record is the one in question, or it is about another file.
    by_cases own : (identity', file.path) = (identity, path)
    · cases own
      refine .inl ⟨id, job, file, found, found, changed, rfl, ?_⟩
      show (l.tell errand.source errand.report false).files.get? (identity, file.path) = some file
      rw [report]
      exact (Assoc.get?_insert ..).trans (if_pos rfl)
    · have foreign : ∀ file', errand.report = .record identity file' → file'.path ≠ path := by
        intro file' same place
        rw [report] at same
        cases same
        exact own (by rw [place])
      refine .inr ⟨files_tell_other errand.source false foreign, fun id' early => ?_⟩
      have kept : (l.tell errand.source errand.report false).Early path id' := early
      refine kept.setWork work fun concerns _ => ?_
      have place : file.path = path := Concerns.path_eq concerns found changed
      exact absurd place (foreign file (names t id left file errand work place))
  | @report t id left errand work failed =>
    obtain ⟨job, found, _, plain⟩ := (sound.works work).2 (by simp)
    have foreign : ∀ file, errand.report = .record identity file → file.path ≠ path := by
      intro file same
      have plain : errand.report.isRecord = false := plain
      rw [same] at plain
      cases plain
    refine .inr ⟨files_tell_other errand.source failed foreign, fun id' early => ?_⟩
    have kept : (l.tell errand.source errand.report failed).Early path id' := early
    exact kept.setWork work fun _ early => absurd early Bool.false_ne_true
  | @lose table here t id left file errand work excused =>
    obtain ⟨job, found, _, changed, source, identity', report⟩ := (sound.works work).2 (by simp)
    have foreign : ∀ file', errand.report = .record identity file' → file'.path ≠ path := by
      intro file' same
      rw [same] at excused
      exact absurd excused (certain file')
    refine .inr ⟨files_tell_other errand.source true foreign, fun id' early => ?_⟩
    have kept : (l.tell errand.source errand.report true).Early path id' := early
    refine kept.finish (sound.tell ..) here work fun concerns => ?_
    have place : file.path = path := Concerns.path_eq concerns found changed
    exact absurd place (foreign file (names t id left file errand work place))
  | @elsewhere source other report failed =>
    refine .inr ⟨files_tell_other _ _ fun file same place => ?_, fun _ early => early⟩
    have arrived : (source, Report.record identity file) ∈ (l.tell source report failed).recorded := by
      rw [same]
      exact List.mem_append_right _ (List.mem_singleton_self _)
    exact other (alone source file arrived place)

def Brought (states : List Desk) (id : JobId) (file : ConfigFile) : Prop :=
  ∃ former ∈ states, ∃ job, former.job? id = some job ∧ job.message.changed? = some file

/-- What is on record for the path: nothing yet of what the jobs brought, or what one of them did. All that came
when that one was over are still to be put on record. -/
inductive Latest (states : List Desk) (l : Desk) (identity path : String) : Prop where
  | unrecorded (early : ∀ id file, Brought states id file → file.path = path → l.Early path id)
  | recorded {id : JobId} {file : ConfigFile} (brought : Brought states id file) (place : file.path = path)
    (onRecord : l.files.get? (identity, path) = some file)
    (newer : ∀ later file', Brought states later file' → file'.path = path →
      ∀ former ∈ states, former.Over id → former.admitted ≤ later → l.Early path later)

theorem Move.alone (move : l.Move fails c l') (h : l'.Alone c identity path) : l.Alone c identity path := by
  have grows : ∀ told ∈ l.recorded, told ∈ l'.recorded := by
    intro told member
    have tells : ∀ (source : ConnectionId) (report : Report) (failed : Bool),
        told ∈ (l.tell source report failed).recorded := by
      intro source report failed
      unfold tell
      dsimp only
      split
      · exact List.mem_append_left _ member
      · exact member
    cases move with
    | record | report | lose | elsewhere => exact tells _ _ false
    | _ => exact member
  exact fun source file member => h source file (grows _ member)

theorem Move.brought (move : l.Move fails c l') (h : Brought (l' :: l :: past) id file) :
    Brought (l :: past) id file ∨ l.admitted ≤ id ∧ (∃ t, l'.work t = some (id, .admitted)) ∧
      ∃ job, l'.job? id = some job ∧ job.message.changed? = some file := by
  obtain ⟨former, member, job, found, changed⟩ := h
  rcases List.mem_cons.1 member with rfl | member
  · rcases move.job_cases found with before | ⟨new, work⟩
    · exact .inl ⟨l, List.mem_cons_self .., job, before, changed⟩
    · exact .inr ⟨new, work, job, found, changed⟩
  · exact .inl ⟨former, member, job, found, changed⟩

theorem Move.early_of_brought (move : l.Move fails c l') (h : Brought (l' :: l :: past) id file)
    (place : file.path = path) : Brought (l :: past) id file ∨ l'.Early path id := by
  rcases move.brought h with before | ⟨_, ⟨t, work⟩, job, found, changed⟩
  · exact .inl before
  · exact .inr ⟨⟨job, file, found, changed, place⟩, t, _, work, rfl⟩

theorem Brought.lt_admitted (course : Course fails c (l :: past)) (h : Brought (l :: past) id file) :
    id < l.admitted := by
  obtain ⟨former, member, job, found, _⟩ := h
  have known : id < former.admitted := ((course.sound former member).jobs found).1
  exact course.lasts (fun _ _ move known => Nat.lt_of_lt_of_le known move.admitted_le) former member known

theorem Course.over_of_mem (course : Course fails c (l :: past)) {former : Desk} (member : former ∈ l :: past)
    (h : former.Over id) : l.Over id :=
  course.lasts (fun _ _ move => Over.move move) former member h

theorem Course.names (course : Course fails c (l :: past))
    (known : ∀ former ∈ l :: past, ∀ id, former.Concerns path id → former.identity? = some identity) :
    l.Names identity path := by
  generalize all : l :: past = states at course
  induction course generalizing l past with
  | start none idle empty =>
    cases all
    intro t id left file errand works
    rw [idle] at works
    cases works
  | move course move ih =>
    cases all
    have earlier := ih (fun former member => known former (List.mem_cons_of_mem _ member)) rfl
    have sound := course.sound _ (List.mem_cons_self ..)
    exact move.names sound earlier (known _ (List.mem_cons_of_mem _ (List.mem_cons_self ..)))

theorem Latest.move (course : Course fails c (l :: past)) (names : l.Names identity path)
    (alone : l'.Alone c identity path) (certain : ∀ file, ¬ fails (.record identity file))
    (move : l.Move fails c l') (h : Latest (l :: past) l identity path) :
    Latest (l' :: l :: past) l' identity path := by
  have sound := course.sound l (List.mem_cons_self ..)
  have course' : Course fails c (l' :: l :: past) := .move course move
  rcases move.recorded_cases sound names alone certain with
    ⟨id, job, file, found, found', changed, place, onRecord⟩ | ⟨same, kept⟩
  · have brought : Brought (l' :: l :: past) id file := ⟨l', List.mem_cons_self .., job, found', changed⟩
    refine .recorded brought place onRecord fun later file' _ _ former member ended _ => ?_
    -- The job is not over, so nothing came after its end.
    have gone := (course'.over_of_mem member ended).2
    rw [found'] at gone
    cases gone
  · cases h with
    | unrecorded early =>
      refine .unrecorded fun id file brought place => ?_
      rcases move.early_of_brought brought place with before | new
      · exact kept id (early id file before place)
      · exact new
    | @recorded id file brought place onRecord newer =>
      have brought' : Brought (l' :: l :: past) id file := by
        obtain ⟨former, member, found⟩ := brought
        exact ⟨former, List.mem_cons_of_mem _ member, found⟩
      refine .recorded brought' place (same.trans onRecord) fun later file' came place' former member ended after => ?_
      rcases move.early_of_brought came place' with before | new
      · rcases List.mem_cons.1 member with rfl | member
        · have known := before.lt_admitted course
          have below : later < former.admitted := Nat.lt_of_lt_of_le known move.admitted_le
          exact absurd below (Nat.not_lt_of_le after)
        · exact kept later (newer later file' before place' former member ended after)
      · exact new

theorem Course.latest (course : Course fails c (l :: past)) (alone : l.Alone c identity path)
    (certain : ∀ file, ¬ fails (.record identity file))
    (known : ∀ former ∈ l :: past, ∀ id, former.Concerns path id → former.identity? = some identity) :
    Latest (l :: past) l identity path := by
  generalize all : l :: past = states at course
  induction course generalizing l past with
  | @start first none idle empty =>
    cases all
    refine .unrecorded fun id file brought place => ?_
    obtain ⟨former, member, job, found, _⟩ := brought
    rw [List.mem_singleton.1 member, job?, none] at found
    cases found
  | move course move ih =>
    cases all
    have known' := fun former member => known former (List.mem_cons_of_mem _ member)
    exact Latest.move course (course.names known') alone certain move (ih (move.alone alone) known' rfl)

theorem Brought.unique {file' : ConfigFile} (course : Course fails c states) (h : Brought states id file)
    (h' : Brought states id file') : file = file' := by
  have same : ∀ {l : Desk} {job job' : Job}, l.job? id = some job → l.job? id = some job' →
      job.message.changed? = some file → job'.message.changed? = some file' → file = file' := by
    intro l job job' found found' changed changed'
    rw [found] at found'
    cases found'
    exact Option.some.inj (changed.symm.trans changed')
  induction course with
  | start none idle empty =>
    obtain ⟨former, member, job, found, _⟩ := h
    rw [List.mem_singleton.1 member, job?, none] at found
    cases found
  | move course move ih =>
    rcases move.brought h with before | ⟨new, _, job, found, changed⟩
    · rcases move.brought h' with before' | ⟨new, _⟩
      · exact ih before before'
      · exact absurd (before.lt_admitted course) (Nat.not_lt_of_le new)
    · rcases move.brought h' with before' | ⟨_, _, job', found', changed'⟩
      · exact absurd (before'.lt_admitted course) (Nat.not_lt_of_le new)
      · exact same found found' changed changed'

end Desk

end Fleetwire
