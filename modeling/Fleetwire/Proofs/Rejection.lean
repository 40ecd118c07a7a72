import Fleetwire.Proofs.Quiescence
import Fleetwire.Proofs.Recording
import Fleetwire.Proofs.Replay
import Fleetwire.Proofs.Tasks

namespace Fleetwire

namespace Line

variable {Member : Type} {line : Line Member} {a b m : Member}

/-- `a` stands in the line, and in front of every place where `b` stands. -/
def Precedes (line : Line Member) (a b : Member) : Prop :=
  ∃ front back, line.members = front ++ back ∧ a ∈ front ∧ b ∉ front

theorem precedes_of_absent (here : a ∈ line.members) (absent : b ∉ line.members) : line.Precedes a b :=
  ⟨line.members, [], (List.append_nil _).symm, here, absent⟩

theorem Precedes.join (h : line.Precedes a b) (m : Member) : (line.join m).Precedes a b := by
  obtain ⟨front, back, members, here, absent⟩ := h
  refine ⟨front, back ++ [m], ?_, here, absent⟩
  rw [Line.join, members, List.append_assoc]

variable [DecidableEq Member]

theorem Precedes.leave (h : line.Precedes a b) (different : a ≠ m) : (line.leave m).Precedes a b := by
  obtain ⟨front, back, members, here, absent⟩ := h
  refine ⟨front.filter (· ≠ m), back.filter (· ≠ m), ?_, ?_, ?_⟩
  · rw [Line.leave, members, List.filter_append]
  · exact List.mem_filter.2 ⟨here, decide_eq_true different⟩
  · exact fun member => absent (List.mem_filter.1 member).1

theorem Precedes.not_isHeldBy (h : line.Precedes a b) : ¬ line.isHeldBy b := by
  obtain ⟨front, back, members, here, absent⟩ := h
  intro held
  rw [isHeldBy_iff, members] at held
  cases front with
  | nil => cases here
  | cons first front =>
    cases held
    exact absent (List.mem_cons_self ..)

end Line

def Leaving.isOver : Leaving → Bool
  | releaseLifecycle | released | finished => true
  | _ => false

theorem Leaving.not_present_of_isOver {q : Leaving} (isOver : q.isOver) : q.present = false := by
  cases q <;> first | rfl | cases isOver

theorem Leaving.Step.isOver {u : TaskId} {x x' : Life} {q q' : Leaving} {deed : Deed}
    (step : q.Step u x deed x' q') (isOver : q.isOver) : q'.isOver := by
  cases step with
  | releaseLifecycle | expire => rfl
  | _ => cases isOver

theorem Entering.holdsIdentity_of_entered {p : Entering} (entered : p.entered) (registering : p.registering) :
    p.holdsIdentity := by
  cases p <;> first | rfl | cases registering; done | cases entered

namespace Lifecycle

variable {fails : Report → Prop} {l l' : Lifecycle} {past : List Lifecycle} {c h : ConnectionId} {t u m : TaskId}
  {deed : Deed} {identity : String}

/-- The supervisor `u` of the connection `h` asked for the lock of the identity before `t` did, or had it already. -/
inductive Anticipated (l : Lifecycle) (h : ConnectionId) (u t : TaskId) (identity : String) : Prop where
  | waits {q : Leaving} (duty : l.duty u = .supervise h q) (seeks : q.identity? = some identity)
    (precedes : (l.line identity).Precedes u t)
  | ended {q : Leaving} (duty : l.duty u = .supervise h q) (isOver : q.isOver)

theorem Does.precedes (does : l.Does fails m c deed l') (different : u ≠ m)
    (precedes : (l.line identity).Precedes u t) : (l'.line identity).Precedes u t := by
  cases does with
  | join other =>
    simp only [changeLine]
    split
    · exact precedes.join m
    · exact precedes
  | leave other =>
    simp only [changeLine]
    split
    · exact precedes.leave different
    · exact precedes
  | _ => exact precedes

theorem Does.anticipated {x x' : Life} {q q' : Leaving} (does : l.Does fails u h deed l')
    (step : q.Step u x deed x' q') (seeks : q.identity? = some identity)
    (precedes : (l.line identity).Precedes u t) :
    q'.isOver ∨ q'.identity? = some identity ∧ (l'.line identity).Precedes u t := by
  cases step with
  | remove =>
    cases does
    exact .inr ⟨seeks, precedes⟩
  | pass | markOffline | announce =>
    cases does
    exact .inr ⟨seeks, precedes⟩
  | releaseIdentity => exact .inl rfl
  | _ => cases seeks

theorem Anticipated.move (ahead : l.Anticipated h u t identity) (move : l.Move fails l') :
    l'.Anticipated h u t identity := by
  have stays {m : TaskId} {c : ConnectionId} {deed : Deed} {l₁ : Lifecycle} {duty : Duty} {life : Life}
      (does : l.Does fails m c deed l₁) (different : u ≠ m) :
      ((l₁.setLife c life).setDuty m duty).Anticipated h u t identity := by
    have same : ((l₁.setLife c life).setDuty m duty).duty u = l.duty u := by
      simp [setDuty, setLife, different, does.duty]
    cases ahead with
    | waits duty seeks precedes => exact .waits (same.trans duty) seeks (does.precedes different precedes)
    | ended duty isOver => exact .ended (same.trans duty) isOver
  have busy : ∃ q, l.duty u = .supervise h q := by
    cases ahead with
    | waits duty | ended duty => exact ⟨_, duty⟩
  obtain ⟨q, duty⟩ := busy
  cases move with
  | arrive c₀ t₀ addr policy new idle idle' =>
    have first : u ≠ t₀ := fun same => by simp [← same, duty] at idle
    have second : u ≠ t₀ + 1 := fun same => by simp [← same, duty] at idle'
    have same : (((l.setLife c₀ { addr, policy }).setDuty t₀ (.accept c₀ .greeting)).setDuty (t₀ + 1)
        (.supervise c₀ .serving)).duty u = l.duty u := by
      simp [setDuty, setLife, first, second]
    cases ahead with
    | waits duty seeks precedes => exact .waits (same.trans duty) seeks precedes
    | ended duty isOver => exact .ended (same.trans duty) isOver
  | @accept m c₀ x₀ x₁ p₀ p₁ deed l₁ duty₀ life₀ step does =>
    have different : u ≠ m := fun same => by simp [← same, duty] at duty₀
    exact stays does different
  | @supervise m c₀ x₀ x₁ q₀ q₁ deed l₁ duty₀ life₀ step does =>
    by_cases own : u = m
    · subst own
      rw [duty] at duty₀
      cases duty₀
      have now : ((l₁.setLife h x₁).setDuty u (.supervise h q₁)).duty u = .supervise h q₁ := by simp [setDuty]
      cases ahead with
      | waits duty' seeks precedes =>
        rw [duty] at duty'
        cases duty'
        rcases does.anticipated step seeks precedes with isOver | ⟨seeks, precedes⟩
        · exact .ended now isOver
        · exact .waits now seeks precedes
      | ended duty' isOver =>
        rw [duty] at duty'
        cases duty'
        exact .ended now (step.isOver isOver)
    · exact stays does own

theorem Story.lasts {motive : Lifecycle → Prop} (keeps : ∀ l l', Move fails l l' → motive l → motive l')
    (story : Story fails (l :: past)) {former : Lifecycle} (member : former ∈ l :: past) (here : motive former) :
    motive l := by
  generalize all : l :: past = states at story
  induction story generalizing l past with
  | start =>
    cases all
    rwa [← List.mem_singleton.1 member]
  | stay _ ih =>
    cases all
    rcases List.mem_cons.1 member with rfl | member
    · exact here
    · exact ih member rfl
  | move _ move ih =>
    cases all
    rcases List.mem_cons.1 member with rfl | member
    · exact here
    · exact keeps _ _ move (ih member rfl)

theorem Move.role {role : Role} (move : l.Move fails l') (busy : (l.duty m).role? = some (role, c)) :
    (l'.duty m).role? = some (role, c) := by
  cases move with
  | arrive c₀ t₀ addr policy new idle idle' =>
    have first : m ≠ t₀ := fun same => by simp [same, idle, Duty.role?] at busy
    have second : m ≠ t₀ + 1 := fun same => by simp [same, idle', Duty.role?] at busy
    simpa [setDuty, setLife, first, second] using busy
  | accept duty life step does | supervise duty life step does =>
    rw [role?_setDuty] <;> simp only [setLife, does.duty, duty, busy]
    rfl

theorem Invariant.not_held_of_anticipated (inv : l.Invariant) (ahead : l.Anticipated h u t identity)
    (entry : l.entry identity = some h) : ¬ (l.line identity).isHeldBy t := by
  cases ahead with
  | waits duty seeks precedes => exact precedes.not_isHeldBy
  | @ended q duty isOver =>
    obtain ⟨x, t', p', u', q', stands, _, _, present⟩ := inv.entries entry
    cases inv.staffed.supervisor_unique duty stands.supervises
    rw [stands.supervises] at duty
    cases duty
    rw [Leaving.not_present_of_isOver isOver] at present
    cases present

end Lifecycle

def Accepting.isRefused : Accepting → Bool
  | releaseIdentity .refused | releaseLifecycle .refused | refuse (.duplicateIdentity _) _
  | finished (.error (.duplicateIdentity _)) => true
  | _ => false

def Accepting.taken? : Accepting → Option String
  | refuse (.duplicateIdentity identity) _ | finished (.error (.duplicateIdentity identity)) => some identity
  | _ => none

namespace System

/-- The acceptance `t` of the connection `c` has come to the lock of the identity, and finds it taken by `h`. -/
structure Refuses (s : System) (t : TaskId) (c h : ConnectionId) (identity : String) : Prop where
  turn : s.holdsIdentity identity t
  policy : ∃ x, s.connections[c]? = some x ∧ x.identity? = some identity ∧ x.settings.duplicateIdentity = .reject
  holder : s.directory.get? identity = some h

end System

open Fleetwire.System

namespace Accepting

variable {s : System} {c : ConnectionId} {t : TaskId} {connection : Connection} {announced : Announcement}
  {identity : String}

theorem announcement_error {response : Except LinkError Bytes} {error : LinkError}
    (failed : announcement response = .error error) : error = .disconnected ∨ ∃ reason, error = .handshake reason := by
  have refusals (error : LinkError) : refusal error = .disconnected ∨ ∃ reason, refusal error = .handshake reason := by
    cases error with
    | disconnected => exact .inl rfl
    | _ => exact .inr ⟨_, rfl⟩
  cases response with
  | error cause =>
    cases failed
    exact refusals cause
  | ok payload =>
    simp only [announcement, Except.mapError, bind, Except.bind] at failed
    split at failed
    next typed =>
      cases failed
      split at typed
      · cases typed
        exact refusals _
      · cases typed
    · split at failed
      · cases failed
        exact .inr ⟨_, rfl⟩
      · cases failed

theorem next_isRefused {phase : Accepting} {out : Accepting × System} (h : out ∈ phase.next s c t)
    (refused : out.1.isRefused) :
    phase.isRefused ∧ (out.1.taken? = phase.taken? ∨ out.1.taken? = s.identity? c) ∨
      phase = .awaitIdentity ∧ out.1.taken? = none ∧ ∃ holder identity, s.Refuses t c holder identity := by
  obtain ⟨connection, here, action⟩ := action_of_next h
  cases action with
  | @introduce call response =>
    dsimp only [introduce] at refused
    split at refused
    next error failed => rcases announcement_error failed with rfl | ⟨reason, rfl⟩ <;> cases refused
    · cases refused
  | @refuse error | @refused error =>
    cases error with
    | duplicateIdentity => exact .inl ⟨rfl, .inl rfl⟩
    | _ => cases refused
  | awaitLifecycle =>
    dsimp only at refused
    split at refused <;> cases refused
  | @enter announced known turn =>
    unfold enter at refused ⊢
    dsimp only at refused ⊢
    split at refused
    · cases refused
    next reject =>
      split at refused
      · cases refused
      next holder taken =>
        have entry : s.directory.get? announced.identity = some holder := by
          unfold Directory.putIfFree at taken
          split at taken
          next entry =>
            cases taken
            exact entry
          · cases taken
        exact .inr ⟨rfl, rfl, holder, _, turn, ⟨connection, here, congrArg _ known, reject⟩, entry⟩
  | @releaseIdentity announced verdict =>
    cases verdict with
    | refused => exact .inl ⟨rfl, .inl rfl⟩
    | gone | admitted => cases refused
  | @conclude announced verdict known =>
    cases verdict with
    | refused =>
      have named : s.identity? c = some announced.identity := by
        rw [identity?, here, Option.bind_some, Connection.identity?, known, Option.map_some]
      exact .inl ⟨rfl, .inr named.symm⟩
    | gone => cases refused
    | admitted former => cases former <;> cases refused
  | _ => cases refused

end Accepting

namespace System

variable {s s' : System} {past : List System} {t u : TaskId} {c h : ConnectionId} {identity : String}
  {phase : Accepting}

theorem Run.since {allowed : System → Event → Prop} {later : List System} (run : Run allowed (later ++ s :: past)) :
    Run allowed (s :: past) := by
  induction later with
  | nil => exact run
  | cons latest later ih =>
    rw [List.cons_append] at run
    generalize all : later ++ s :: past = states at run ih
    cases run with
    | start => cases later <;> cases all
    | step run step => exact ih run

theorem Run.refuses (run : Run Ordinary (s :: past)) (found : s.tasks[t]? = some (.accept c phase))
    (refused : phase.isRefused) : ∃ later after before earlier holder identity,
      s :: past = later ++ after :: before :: earlier ∧ before.tasks[t]? = some (.accept c .awaitIdentity) ∧
      before.Refuses t c holder identity ∧
      ∀ taken, phase.taken? = some taken → ∃ former ∈ s :: past, former.identity? c = some taken := by
  refine run.task_holds (motive := fun states t task => ∀ c phase, task = .accept c phase → phase.isRefused →
    ∃ later after before earlier holder identity, states = later ++ after :: before :: earlier ∧
      before.tasks[t]? = some (.accept c .awaitIdentity) ∧ before.Refuses t c holder identity ∧
      ∀ taken, phase.taken? = some taken → ∃ former ∈ states, former.identity? c = some taken)
    ?_ ?_ ?_ found c phase rfl refused
  · rintro states t task young c phase rfl refused
    cases phase with
    | handshake call => cases refused
    | _ => cases young
  · rintro states newest t task ih c phase same refused
    obtain ⟨later, after, before, earlier, holder, identity, rfl, waiting, refuses, named⟩ := ih c phase same refused
    refine ⟨newest :: later, after, before, earlier, holder, identity, rfl, waiting, refuses, fun taken stated => ?_⟩
    obtain ⟨former, member, known⟩ := named taken stated
    exact ⟨former, List.mem_cons_of_mem _ member, known⟩
  · rintro latest past t former task s₁ found acted ih c phase rfl refused
    obtain ⟨former, rfl, accepted⟩ := Task.next_accept acted
    rcases Accepting.next_isRefused accepted refused with ⟨already, stated⟩ | ⟨rfl, silent, holder, identity, refuses⟩
    · obtain ⟨later, after, before, earlier, holder, identity, states, waiting, refuses, named⟩ :=
        ih c former rfl already
      refine ⟨_ :: later, after, before, earlier, holder, identity, congrArg _ states, waiting, refuses,
        fun taken now => ?_⟩
      rcases stated with same | own
      · obtain ⟨knowing, member, known⟩ := named taken (same ▸ now)
        exact ⟨knowing, List.mem_cons_of_mem _ member, known⟩
      · exact ⟨latest, by simp, own ▸ now⟩
    · refine ⟨[], _, latest, past, holder, identity, rfl, found, refuses, fun taken now => ?_⟩
      rw [silent] at now
      cases now

/-- The connection `h` has the identity and is active, and its supervisor, which is the task `u`, has not come to the
lock of the identity, even if it has begun to take the connection down. -/
structure InPlace (s : System) (h : ConnectionId) (identity : String) (y : Connection) (u : TaskId) (q : Supervising) :
    Prop where
  here : s.connections[h]? = some y
  known : y.identity? = some identity
  active : y.stage = .active
  supervises : s.tasks[u]? = some (.supervise h q)
  present : q.stance.present
  begun : y.closed → q.stance ≠ .serving

theorem Refuses.holder_inPlace (run : Run Ordinary (s :: past))
    (waiting : s.tasks[t]? = some (.accept c .awaitIdentity)) (refuses : s.Refuses t c h identity) :
    h ≠ c ∧ ∃ y u q, s.InPlace h identity y u q := by
  have inv := run.story.invariant _ (List.mem_cons_self ..)
  obtain ⟨x, t', p, u, q, stands, known, entered, present⟩ := inv.entries refuses.holder
  have sound := inv.sound stands
  obtain ⟨y, here, rfl⟩ := Option.map_eq_some_iff.1 stands.life
  obtain ⟨phase, found, rfl⟩ := supervise_of_duty stands.supervises
  have different : h ≠ c := by
    rintro rfl
    exact inv.not_entered (duty_of_task waiting) rfl ⟨t', p, stands.accepts, entered⟩
  have settled : p.registering = false := by
    -- It would hold the lock that the other one has come to.
    by_contra registering
    have locked := inv.locked (.accept stands.accepts stands.life (Entering.holdsIdentity_of_entered entered
      (by simpa using registering)) known)
    obtain rfl := Line.isHeldBy_unique locked refuses.turn
    have accepts := stands.accepts
    rw [duty_of_task waiting] at accepts
    cases accepts
    exact different rfl
  have begun := sound.closable.begun (Entering.activated_of_entered entered settled)
  refine ⟨different, y, u, phase, here, known, ?_, found, present, fun closed => ?_⟩
  · cases stage : y.stage with
    | active => rfl
    | initializing => exact absurd stage begun
    | closed =>
      rcases sound.closable.ending stage with finished | barred
      · rw [finished] at present
        cases present
      · rw [Entering.not_entered_of_barred barred] at entered
        cases entered
  · rcases sound.closable.closer closed with begun | barred
    · exact begun
    · rw [Entering.not_entered_of_barred barred] at entered
      cases entered

theorem Refuses.asked_before (run : Run Ordinary (s :: past)) (refuses : s.Refuses t c h identity) {q : Supervising}
    (supervises : s.tasks[u]? = some (.supervise h q)) {former : System} (member : former ∈ s :: past)
    (stood : u ∈ (former.directory.transition identity).members) :
    t ∈ (former.directory.transition identity).members := by
  by_contra absent
  have regular : Run Regular (s :: past) := run.mono fun _ _ => Ordinary.regular
  have linedUp := (regular.inOrder former member).linedUp
  have seeks := (linedUp.seekers u identity).1 stood
  have inv := run.story.invariant _ (List.mem_cons_self ..)
  have member : former.lifecycle ∈ s.lifecycle :: past.map System.lifecycle := List.mem_map_of_mem member
  have now : s.lifecycle.duty u = .supervise h q.stance := duty_of_task supervises
  have role {role : Role} {c : ConnectionId} (busy : (former.lifecycle.duty u).role? = some (role, c)) :
      role = .supervisor ∧ c = h := by
    have later := run.story.lasts (motive := fun l => (l.duty u).role? = some (role, c))
      (fun _ _ => Lifecycle.Move.role) member busy
    rw [now] at later
    cases later
    exact ⟨rfl, rfl⟩
  have ahead : former.lifecycle.Anticipated h u t identity := by
    simp only [Lifecycle.sought] at seeks
    cases duty : former.lifecycle.duty u with
    | none =>
      rw [duty] at seeks
      cases seeks
    | accept other p =>
      cases (role (congrArg Duty.role? duty)).1
    | supervise other q =>
      obtain rfl := (role (congrArg Duty.role? duty)).2
      rw [duty] at seeks
      exact .waits duty seeks (Line.precedes_of_absent stood absent)
  have still := run.story.lasts (motive := fun l => l.Anticipated h u t identity)
    (fun _ _ move ahead => ahead.move move) member ahead
  exact inv.not_held_of_anticipated still refuses.holder refuses.turn

/-- Whoever is refused because its identity is taken came to the lock of the identity while another connection had the
entry, and was in its place. The supervisor of that one stood in the line of the identity at no time when the refused
one did not. -/
theorem refused_for_holder_in_place (run : Run Ordinary (s :: past)) (found : s.tasks[t]? = some (.accept c phase))
    (refused : phase.isRefused) : ∃ (later earlier : List System) (after before : System) (holder : ConnectionId)
      (identity : String) (y : Connection) (u : TaskId) (q : Supervising),
      s :: past = later ++ after :: before :: earlier ∧ before.tasks[t]? = some (.accept c .awaitIdentity) ∧
      before.Refuses t c holder identity ∧ (∀ taken, phase.taken? = some taken → taken = identity) ∧ holder ≠ c ∧
      before.InPlace holder identity y u q ∧
      ∀ former ∈ before :: earlier, u ∈ (former.directory.transition identity).members →
        t ∈ (former.directory.transition identity).members := by
  obtain ⟨later, after, before, earlier, holder, identity, states, waiting, refuses, named⟩ := run.refuses found refused
  have since : Run Ordinary (before :: earlier) := by
    rw [states, List.append_cons] at run
    exact run.since
  obtain ⟨different, y, u, q, inPlace⟩ := refuses.holder_inPlace since waiting
  refine ⟨later, earlier, after, before, holder, identity, y, u, q, states, waiting, refuses, fun taken stated => ?_,
    different, inPlace, fun former member stood => ?_⟩
  · obtain ⟨x, here, own, _⟩ := refuses.policy
    have member : before ∈ s :: past := by simp [states]
    have now := run.identity?_eq member (by rw [identity?, here, Option.bind_some, own])
    obtain ⟨knowing, member', told⟩ := named taken stated
    rw [run.identity?_eq member' told] at now
    exact Option.some.inj now
  · exact refuses.asked_before since inPlace.supervises member stood

theorem refused_for_holder_after_handover :
    let s := (replay {} [] refusal).1
    let past := (replay {} [] refusal).2
    s.tasks[4]? = some (.accept 2 (.finished (.error (.duplicateIdentity "host")))) ∧
    ∃ before ∈ s :: past, ∃ holder y, before.Refuses 4 2 holder "host" ∧ holder ≠ 2 ∧
      before.connections[holder]? = some y ∧ y.identity? = some "host" ∧ y.stage = .active := by
  have refused : ((replay {} [] refusal).1.tasks[4]?).bind failure? = some (2, .duplicateIdentity "host") := by
    decide +kernel
  obtain ⟨task, found, failed⟩ := Option.bind_eq_some_iff.1 refused
  rw [eq_of_failure? failed] at found
  obtain ⟨later, earlier, after, before, holder, identity, y, u, q, states, _, refuses, named, different, inPlace, _⟩ :=
    refused_for_holder_in_place (run_replay_empty refusal) found rfl
  obtain rfl := named "host" rfl
  exact ⟨found, before, by rw [states]; simp, holder, y, refuses, different, inPlace.here, inPlace.known,
    inPlace.active⟩

instance (s : System) (t : TaskId) (c h : ConnectionId) (identity : String) : Decidable (s.Refuses t c h identity) :=
  decidable_of_iff (s.holdsIdentity identity t ∧ ((s.connections[c]?).any fun x =>
    x.identity? = some identity ∧ x.settings.duplicateIdentity = .reject) ∧ s.directory.get? identity = some h) <| by
    constructor
    · rintro ⟨turn, policy, holder⟩
      obtain ⟨x, here, reject⟩ := Option.any_eq_true _ _ |>.1 policy
      exact ⟨turn, ⟨x, here, of_decide_eq_true reject⟩, holder⟩
    · rintro ⟨turn, ⟨x, here, reject⟩, holder⟩
      exact ⟨turn, (Option.any_eq_true _ _).2 ⟨x, here, decide_eq_true reject⟩, holder⟩

def lost : List Choice :=
  (admission 0 (.v4 10 0 0 1 4000) .reject "host").take 16 ++ (admission 1 (.v4 10 0 0 2 4000) .reject "host").take 6 ++
    .react (.peerEnds 0) :: .replicate 6 (.act 1 0)

/-- An agent loses its connection while its arrival is noted. It says who it is over another one, which
waits behind the first registration and before the teardown. -/
def reconnection : List Choice :=
  lost ++ ((admission 1 (.v4 10 0 0 2 4000) .reject "host").drop 6).take 9 ++ .react (.elapse 1000) ::
    .replicate 5 (.act 0 0) ++ .replicate 5 (.act 2 0) ++ .replicate 12 (.act 3 0) ++
    .act 2 0 :: .replicate 8 (.act 1 0)

/-- A connection may be refused for one that was being closed before it came to register, and the agent is offline in
the end. -/
theorem refused_for_closed_holder :
    let s := (replay slowArrivals [] reconnection).1
    let past := (replay slowArrivals [] reconnection).2
    Run Ordinary (s :: past) ∧ (s.tasks[2]?).bind failure? = some (1, .duplicateIdentity "host") ∧
    (∃ former ∈ past, (former.connections[0]?).map Connection.closed = some true ∧
      (former.tasks[2]?).map Task.duty = some (.accept 1 .greeting)) ∧
    (∃ before ∈ past, before.Refuses 2 1 0 "host" ∧ (before.connections[0]?).map Connection.closed = some true) ∧
    s.directory.get? "host" = none ∧ s.records.presence? "host" = some .offline := by
  refine ⟨run_replay (.start initial_slowArrivals) reconnection, ?_, ?_, ?_, ?_, ?_⟩ <;> decide +kernel

end System

end Fleetwire
