import Fleetwire.Proofs.Jobs.Latest
import Fleetwire.Proofs.Jobs.Simulation
import Fleetwire.Proofs.Membership

namespace Fleetwire

namespace System

def job? (s : System) (c : ConnectionId) (id : JobId) : Option Job :=
  (s.connections[c]?).bind fun x => x.router.jobs.get? id

def admitted (s : System) (c : ConnectionId) : Nat :=
  ((s.connections[c]?).map fun x => x.router.admitted).getD 0

def Over (s : System) (c : ConnectionId) (id : JobId) : Prop := id < s.admitted c ∧ s.job? c id = none

def Brought (states : List System) (c : ConnectionId) (id : JobId) (file : ConfigFile) : Prop :=
  ∃ former ∈ states, ∃ job, former.job? c id = some job ∧ job.message.changed? = some file

def concerns (s : System) (c : ConnectionId) (path : String) : Bool :=
  (s.connections[c]?).any fun x => x.router.jobs.values.any fun job =>
    job.message.changed?.map ConfigFile.path = some path

def identity? (s : System) (c : ConnectionId) : Option String :=
  (s.connections[c]?).bind Connection.identity?

variable {s s' : System} {past : List System} {c : ConnectionId} {identity path : String} {id : JobId}
  {file : ConfigFile}

theorem job?_desk (s : System) (c : ConnectionId) : (s.desk c).job? = s.job? c := by
  funext id
  unfold Desk.job? job? System.desk table?
  cases s.connections[c]? <;> rfl

theorem admitted_desk (s : System) (c : ConnectionId) : (s.desk c).admitted = s.admitted c := by
  unfold Desk.admitted admitted System.desk table?
  cases s.connections[c]? <;> rfl

theorem identity?_desk (s : System) (c : ConnectionId) : (s.desk c).identity? = s.identity? c := by
  unfold Desk.identity? identity? System.desk table?
  cases s.connections[c]? <;> rfl

theorem over_desk : (s.desk c).Over id ↔ s.Over c id := by
  rw [Desk.Over, job?_desk, admitted_desk, Over]

theorem brought_desks {states : List System} :
    Desk.Brought (states.map (desk c)) id file ↔ Brought states c id file := by
  unfold Desk.Brought Brought
  constructor
  · rintro ⟨l, seen, job, found, changed⟩
    obtain ⟨former, member, rfl⟩ := List.mem_map.1 seen
    rw [job?_desk] at found
    exact ⟨former, member, job, found, changed⟩
  · rintro ⟨former, member, job, found, changed⟩
    rw [← job?_desk] at found
    exact ⟨former.desk c, List.mem_map_of_mem member, job, found, changed⟩

theorem concerns_iff : s.concerns c path ↔ ∃ id, (s.desk c).Concerns path id := by
  unfold concerns Desk.Concerns
  rw [job?_desk, Option.any_eq_true]
  constructor
  · rintro ⟨x, here, concerns⟩
    obtain ⟨job, member, about⟩ := List.any_eq_true.1 concerns
    obtain ⟨id, found⟩ := Assoc.mem_values.1 member
    obtain ⟨file, changed, place⟩ := Option.map_eq_some_iff.1 (of_decide_eq_true about)
    have job : s.job? c id = some job := by rw [job?, here, Option.bind_some, found]
    exact ⟨id, _, file, job, changed, place⟩
  · rintro ⟨id, job, file, found, changed, place⟩
    obtain ⟨x, here, found⟩ := Option.bind_eq_some_iff.1 found
    refine ⟨x, here, List.any_eq_true.2 ⟨job, Assoc.mem_values.2 ⟨id, found⟩, decide_eq_true ?_⟩⟩
    rw [changed, Option.map_some, place]

theorem Run.identity?_eq (run : Run Ordinary (s :: past)) {former : System} (member : former ∈ s :: past)
    (known : former.identity? c = some identity) : s.identity? c = some identity := by
  generalize all : s :: past = states at run
  induction run generalizing s past with
  | start initial =>
    cases all
    rw [← List.mem_singleton.1 member]
    exact known
  | @step before after earlier run step ih =>
    cases all
    rcases List.mem_cons.1 member with rfl | member
    · exact known
    · obtain ⟨x, here, named⟩ := Option.bind_eq_some_iff.1 (ih member rfl)
      obtain ⟨y, there, proceeding⟩ := proceeding_of_consecutive (run.step step) ⟨[], earlier, rfl⟩ here
      have announced : x.announced ≠ none := by
        intro nothing
        rw [Connection.identity?, nothing] at named
        cases named
      have same : y.announced = x.announced := proceeding.keeps announced
      rw [identity?, there, Option.bind_some, Connection.identity?, same]
      exact named

/-- After the changes of a file that came over a connection were dealt with, one of the files that they brought is
on record, and all came before the job of that one was over. If none came before those that preceded it were over,
then it is the last. -/
theorem recorded_file_not_outdated (run : Run (Keeping c) (s :: past)) (own : s.identity? c = some identity)
    (introduced : ∀ former ∈ s :: past, former.concerns c path → former.identity? c ≠ none)
    (certain : ∀ file, ¬ s.collaborators.mayFail (.record identity file))
    (alone : ∀ source file, (source, .record identity file) ∈ s.reports → file.path = path → source = c)
    (changed : ∃ former ∈ s :: past, former.concerns c path) (done : s.concerns c path = false) :
    (∃ id file, Brought (s :: past) c id file ∧ file.path = path ∧
      s.records.file? identity path = some file ∧
      ∀ later file', Brought (s :: past) c later file' → file'.path = path →
        ∀ former ∈ s :: past, former.Over c id → later < former.admitted c) ∧
    ∀ last file, Brought (s :: past) c last file → file.path = path →
      (∀ earlier file', Brought (s :: past) c earlier file' → file'.path = path → earlier ≠ last →
        ∃ former ∈ s :: past, former.Over c earlier ∧ former.admitted c ≤ last) →
      s.records.file? identity path = some file := by
  have ordinary : Run Ordinary (s :: past) := run.mono fun _ _ => Keeping.ordinary
  have course := run.desks
  have known : ∀ l ∈ (s :: past).map (desk c), ∀ id, l.Concerns path id → l.identity? = some identity := by
    intro l seen id concerns
    obtain ⟨former, member, rfl⟩ := List.mem_map.1 seen
    obtain ⟨name, named⟩ :=
      Option.ne_none_iff_exists'.1 (introduced former member (concerns_iff.2 ⟨id, concerns⟩))
    have same := ordinary.identity?_eq member named
    rw [own] at same
    rw [identity?_desk, named, same]
  have alone' : (s.desk c).Alone c identity path :=
    fun source file member => alone source file (List.mem_filter.1 member).1
  -- With no job about the file left, none has its record still to come.
  have settled : ∀ id, ¬ (s.desk c).Early path id := by
    rintro id ⟨concerns, _⟩
    rw [concerns_iff.2 ⟨id, concerns⟩] at done
    cases done
  cases course.latest alone' certain known with
  | unrecorded early =>
    obtain ⟨former, member, concerns⟩ := changed
    obtain ⟨id, job, file, found, brings, place⟩ := concerns_iff.1 concerns
    exact absurd (early id file ⟨_, List.mem_map_of_mem member, job, found, brings⟩ place) (settled id)
  | @recorded id file brought place onRecord newer =>
    have before : ∀ later file', Brought (s :: past) c later file' → file'.path = path →
        ∀ former ∈ s :: past, former.Over c id → later < former.admitted c := by
      intro later file' came place' former member ended
      refine Nat.lt_of_not_le fun after => ?_
      rw [← admitted_desk] at after
      have early := newer later file' (brought_desks.2 came) place' (former.desk c)
        (List.mem_map_of_mem member) (over_desk.2 ended) after
      exact settled later early
    refine ⟨⟨id, file, brought_desks.1 brought, place, onRecord, before⟩, ?_⟩
    intro last file' came place' apart
    by_cases same : id = last
    · subst same
      rw [brought.unique course (brought_desks.2 came)] at onRecord
      exact onRecord
    · obtain ⟨former, member, ended, passed⟩ := apart id file (brought_desks.1 brought) place same
      exact absurd (before last file' came place' former member ended) (Nat.not_lt_of_le passed)

def Choice.binds : Choice → Bool
  | .react (.bind ..) => true
  | _ => false

theorem keeping_of_choose? {choice : Choice} (h : s.choose? choice = some s') (unbound : choice.binds = false) :
    Step (Keeping c) s s' := by
  cases choice with
  | act t passed => exact .act t (List.mem_of_getElem? h)
  | react event =>
    simp only [choose?] at h
    split at h
    next ordinary =>
      cases h
      cases event with
      | bind => cases unbound
      | _ => exact .react _ ordinary
    · cases h

theorem run_replay_keeping (run : Run (Keeping c) (s :: past)) (choices : List Choice)
    (unbound : choices.all fun choice => !choice.binds) :
    Run (Keeping c) ((s.replay past choices).1 :: (s.replay past choices).2) := by
  induction choices generalizing s past with
  | nil => exact run
  | cons choice choices ih =>
    rw [List.all_cons, Bool.and_eq_true, Bool.not_eq_true'] at unbound
    unfold replay
    split
    · exact run
    next s' chosen => exact ih (run.step (keeping_of_choose? chosen unbound.1)) unbound.2

def changes (s : System) (c : ConnectionId) : List ConfigFile :=
  ((s.connections[c]?).map Connection.routed).getD [] |>.filterMap Message.changed?

def change (n : Nat) (content : String) : Bytes :=
  let fields := (MessagePack.Shape.record Catalog.configFile).encode ("host", "/etc/hosts", content, ())
  (Frame.encode (Message.request (.fresh n) .configFileChanged fields).encode).toOption.getD []

def twoChanges (settings : Settings) : List Choice :=
  .react (.takeOver (.v4 10 0 0 1 4000) settings (.ofCapacity 1024 none none) true) :: .act 1 0 ::
    .replicate 4 (.act 0 0) ++
    .react (.peerWrites 0 (introduction 0 "host")) :: .replicate 4 (.act 1 0) ++ .replicate 10 (.act 0 0) ++
    [.react (.peerWrites 0 (change 7 "one" ++ change 8 "two"))]

def inTurn : List Choice :=
  twoChanges {} ++ .replicate 2 (.act 1 0) ++ .replicate 6 (.act 2 0) ++ .act 1 0 :: .replicate 6 (.act 3 0)

theorem recorded_file_not_outdated_in_turn :
    let s := (replay {} [] inTurn).1
    let past := (replay {} [] inTurn).2
    Run (Keeping 0) (s :: past) ∧ s.identity? 0 = some "host" ∧
    (∃ former ∈ s :: past, former.concerns 0 "/etc/hosts") ∧ s.concerns 0 "/etc/hosts" = false ∧
    (∃ id file, Brought (s :: past) 0 id file ∧ file.path = "/etc/hosts" ∧
      s.records.file? "host" "/etc/hosts" = some file ∧
      ∀ later file', Brought (s :: past) 0 later file' → file'.path = "/etc/hosts" →
        ∀ former ∈ s :: past, former.Over 0 id → later < former.admitted 0) ∧
    ∀ last file, Brought (s :: past) 0 last file → file.path = "/etc/hosts" →
      (∀ earlier file', Brought (s :: past) 0 earlier file' → file'.path = "/etc/hosts" → earlier ≠ last →
        ∃ former ∈ s :: past, former.Over 0 earlier ∧ former.admitted 0 ≤ last) →
      s.records.file? "host" "/etc/hosts" = some file := by
  have run := run_replay_keeping (c := 0) (.start initial_empty) inTurn (by decide +kernel)
  have own : (replay {} [] inTurn).1.identity? 0 = some "host" := by decide +kernel
  have introduced : ∀ former ∈ (replay {} [] inTurn).1 :: (replay {} [] inTurn).2,
      former.concerns 0 "/etc/hosts" → former.identity? 0 ≠ none := by decide +kernel
  have sources : ∀ told ∈ (replay {} [] inTurn).1.reports, told.1 = 0 := by decide +kernel
  have changed : ∃ former ∈ (replay {} [] inTurn).1 :: (replay {} [] inTurn).2,
      former.concerns 0 "/etc/hosts" := by decide +kernel
  have done : (replay {} [] inTurn).1.concerns 0 "/etc/hosts" = false := by decide +kernel
  exact ⟨run, own, changed, done, recorded_file_not_outdated run own introduced
    (fun file => not_mayFail_replay_empty inTurn (.record "host" file))
    (fun source file member _ => sources (source, .record "host" file) member) changed done⟩

def slowRecords : System where
  collaborators := { delay := fun report => match report with
    | .record _ file => if file.content = "one" then 1000 else 0
    | _ => 0 }

theorem initial_slowRecords : Initial slowRecords := ⟨rfl, rfl, rfl, rfl, fun _ member => nomatch member⟩

def overtaking : List Choice :=
  twoChanges {} ++ .replicate 3 (.act 1 0) ++ .replicate 3 (.act 2 0) ++ .replicate 6 (.act 3 0) ++
    .react (.elapse 1000) :: .replicate 3 (.act 2 0)

def overflowing : List Choice :=
  twoChanges { maxConcurrentHandlers := 1, handlerQueueCapacity := 0 } ++ .replicate 3 (.act 1 0) ++
    .replicate 6 (.act 2 0)

/-- The second change comes over another connection of the same agent, and is on record before the first one. -/
def relayed : List Choice :=
  let comesIn (source : UInt8) : Choice :=
    .react (.takeOver (.v4 10 0 0 source 4000) {} (.ofCapacity 1024 none none) true)
  comesIn 1 :: .act 1 0 :: .replicate 4 (.act 0 0) ++
    .react (.peerWrites 0 (introduction 0 "host")) :: .replicate 4 (.act 1 0) ++ .replicate 10 (.act 0 0) ++
    .react (.peerWrites 0 (change 7 "one")) :: .replicate 2 (.act 1 0) ++ .replicate 3 (.act 2 0) ++
    comesIn 2 :: .act 4 0 :: .replicate 4 (.act 3 0) ++
    .react (.peerWrites 1 (introduction 1 "host")) :: .replicate 4 (.act 4 0) ++ .replicate 10 (.act 3 0) ++
    .react (.peerWrites 1 (change 8 "two")) :: .replicate 2 (.act 4 0) ++ .replicate 6 (.act 5 0) ++
    .react (.elapse 1000) :: .replicate 3 (.act 2 0)

/-- The file on record is not the last one that came, be it that the job of that one was over earlier, that it
was not admitted, or that another connection has put one on record. -/
theorem earlier_file_stays_recorded :
    (let s := (replay slowRecords [] overtaking).1
    let past := (replay slowRecords [] overtaking).2
    Run (Keeping 0) (s :: past) ∧ s.identity? 0 = some "host" ∧ (∀ report, ¬ s.collaborators.mayFail report) ∧
    (∀ former ∈ s :: past, former.concerns 0 "/etc/hosts" → former.identity? 0 = some "host") ∧
    s.concerns 0 "/etc/hosts" = false ∧ s.admitted 0 = 2 ∧
    s.changes 0 = [⟨"host", "/etc/hosts", "one"⟩, ⟨"host", "/etc/hosts", "two"⟩] ∧
    s.records.file? "host" "/etc/hosts" = some ⟨"host", "/etc/hosts", "one"⟩) ∧
    (let s := (replay {} [] overflowing).1
    let past := (replay {} [] overflowing).2
    Run (Keeping 0) (s :: past) ∧ s.identity? 0 = some "host" ∧ (∀ report, ¬ s.collaborators.mayFail report) ∧
    (∀ former ∈ s :: past, former.concerns 0 "/etc/hosts" → former.identity? 0 = some "host") ∧
    s.concerns 0 "/etc/hosts" = false ∧ s.admitted 0 = 1 ∧
    s.changes 0 = [⟨"host", "/etc/hosts", "one"⟩, ⟨"host", "/etc/hosts", "two"⟩] ∧
    s.records.file? "host" "/etc/hosts" = some ⟨"host", "/etc/hosts", "one"⟩) ∧
    (let s := (replay slowRecords [] relayed).1
    let past := (replay slowRecords [] relayed).2
    Run (Keeping 1) (s :: past) ∧ s.identity? 1 = some "host" ∧ (∀ report, ¬ s.collaborators.mayFail report) ∧
    (∀ former ∈ s :: past, former.concerns 1 "/etc/hosts" → former.identity? 1 = some "host") ∧
    s.concerns 1 "/etc/hosts" = false ∧ s.admitted 1 = 1 ∧
    s.changes 1 = [⟨"host", "/etc/hosts", "two"⟩] ∧
    s.records.file? "host" "/etc/hosts" = some ⟨"host", "/etc/hosts", "one"⟩) := by
  have certain : ∀ choices report, ¬ (replay slowRecords [] choices).1.collaborators.mayFail report := by
    intro choices report
    rw [collaborators_replay initial_slowRecords.proper]
    rintro ⟨count, fails⟩
    cases fails
  have overtaken : Run (Keeping 0) _ :=
    run_replay_keeping (.start initial_slowRecords) overtaking (by decide +kernel)
  have overflown : Run (Keeping 0) _ := run_replay_keeping (.start initial_empty) overflowing (by decide +kernel)
  have otherwise : Run (Keeping 1) _ :=
    run_replay_keeping (.start initial_slowRecords) relayed (by decide +kernel)
  refine ⟨⟨overtaken, ?_, certain overtaking, ?_⟩, ⟨overflown, ?_, not_mayFail_replay_empty overflowing, ?_⟩,
    otherwise, ?_, certain relayed, ?_⟩ <;> decide +kernel

end System

end Fleetwire
