import Fleetwire.System

namespace Fleetwire

structure Life where
  addr : Endpoint
  policy : DuplicatePolicy
  announced : Option Announcement := none
  stage : Stage := .initializing
  closed : Bool := false
  lock : Line TaskId := {}
deriving DecidableEq, Repr

def Life.identity? (life : Life) : Option String := life.announced.map Announcement.identity

/-- What a step of a task does to what all connections share. -/
inductive Deed where
  | nothing
  | join (identity : String)
  | leave (identity : String)
  | enter (identity : String) (policy : DuplicatePolicy)
  | yield (identity : String)
  | remove (identity : String)
  | pass (identity : String)
  | tell (report : Report)
deriving DecidableEq, Repr

def Deed.told : Deed → List Report
  | tell report => [report]
  | _ => []

/-- How far an acceptance is with bringing its connection into the directory. -/
inductive Entering where
  | greeting
  | queueLifecycle
  | awaitLifecycle
  | queueIdentity
  | awaitIdentity
  | marking (report : Report)
  | announcing (report : Report)
  | activating
  | releaseIdentity (entered : Bool)
  | releaseLifecycle (entered : Bool)
  | admitted
  | failed
  | closing
deriving DecidableEq, Repr

namespace Entering

def holdsLifecycle : Entering → Bool
  | queueIdentity | awaitIdentity | marking _ | announcing _ | activating | releaseIdentity _
  | releaseLifecycle _ => true
  | _ => false

def holdsIdentity : Entering → Bool
  | marking _ | announcing _ | activating | releaseIdentity _ => true
  | _ => false

def introduced : Entering → Bool
  | greeting | failed | closing => false
  | _ => true

def registering : Entering → Bool
  | queueIdentity | awaitIdentity | marking _ | announcing _ | activating => true
  | _ => false

def entered : Entering → Bool
  | marking _ | announcing _ | activating | releaseIdentity true | releaseLifecycle true
  | admitted => true
  | _ => false

def activated : Entering → Bool
  | releaseIdentity true | releaseLifecycle true | admitted => true
  | _ => false

def barred : Entering → Bool
  | failed | closing => true
  | _ => false

inductive Step (t : TaskId) (x : Life) : Entering → Deed → Life → Entering → Prop where
  | introduce (announced : Announcement) (named : announced.identity ≠ "") :
    Step t x greeting .nothing { x with announced := some announced } queueLifecycle
  | refuse : Step t x greeting .nothing x failed
  | queueLifecycle :
    Step t x queueLifecycle .nothing { x with lock := x.lock.join t } awaitLifecycle
  | findClosed (held : x.lock.isHeldBy t) (closed : x.closed = true) :
    Step t x awaitLifecycle .nothing x (releaseLifecycle false)
  | findOpen (held : x.lock.isHeldBy t) (isOpen : x.closed = false) :
    Step t x awaitLifecycle .nothing x queueIdentity
  | queueIdentity {identity : String} (known : x.identity? = some identity) :
    Step t x queueIdentity (.join identity) x awaitIdentity
  | enter {identity : String} (known : x.identity? = some identity) :
    Step t x awaitIdentity (.enter identity x.policy) x (marking (.markOnline identity x.addr))
  | yield {identity : String} (known : x.identity? = some identity) :
    Step t x awaitIdentity (.yield identity) x (releaseIdentity false)
  | markOnline {report : Report} {announced : Announcement} (known : x.announced = some announced) :
    Step t x (marking report) (.tell report) x
      (announcing (.publish (.connected announced.identity announced.version x.addr)))
  | announce {report : Report} : Step t x (announcing report) (.tell report) x activating
  | activate : Step t x activating .nothing { x with stage := .active } (releaseIdentity true)
  | releaseIdentity {identity : String} {entered : Bool} (known : x.identity? = some identity) :
    Step t x (releaseIdentity entered) (.leave identity) x (releaseLifecycle entered)
  | conclude {entered : Bool} :
    Step t x (releaseLifecycle entered) .nothing { x with lock := x.lock.leave t }
      (if entered then admitted else failed)
  | seize (isOpen : x.closed = false) :
    Step t x failed .nothing { x with closed := true } closing
  | closeInPlace : Step t x closing .nothing { x with stage := .closed } failed

end Entering

inductive Leaving where
  | serving
  | closing
  | awaitLifecycle
  | awaitIdentity (identity : String)
  | marking (identity : String) (report : Report)
  | announcing (identity : String) (report : Report)
  | releaseIdentity (identity : String)
  | releaseLifecycle
  | released
  | finished
deriving DecidableEq, Repr

namespace Leaving

def holdsLifecycle : Leaving → Bool
  | awaitIdentity _ | marking _ _ | announcing _ _ | releaseIdentity _ | releaseLifecycle => true
  | _ => false

def identity? : Leaving → Option String
  | awaitIdentity identity | marking identity _ | announcing identity _ | releaseIdentity identity =>
    some identity
  | _ => none

def holds? : Leaving → Option String
  | marking identity _ | announcing identity _ | releaseIdentity identity => some identity
  | _ => none

def present : Leaving → Bool
  | serving | closing | awaitLifecycle | awaitIdentity _ => true
  | _ => false

def pastLifecycle : Leaving → Bool
  | serving | closing | awaitLifecycle => false
  | _ => true

inductive Step (t : TaskId) (x : Life) : Leaving → Deed → Life → Leaving → Prop where
  | forgo (closed : x.closed = true) : Step t x serving .nothing x finished
  | close (isOpen : x.closed = false) : Step t x serving .nothing { x with closed := true } closing
  | queueLifecycle : Step t x closing .nothing { x with lock := x.lock.join t } awaitLifecycle
  | skip (held : x.lock.isHeldBy t) (unknown : x.identity? = none) :
    Step t x awaitLifecycle .nothing x releaseLifecycle
  | queueIdentity {identity : String} (held : x.lock.isHeldBy t) (known : x.identity? = some identity) :
    Step t x awaitLifecycle (.join identity) x (awaitIdentity identity)
  | remove {identity : String} :
    Step t x (awaitIdentity identity) (.remove identity) x (marking identity (.markOffline identity))
  | pass {identity : String} :
    Step t x (awaitIdentity identity) (.pass identity) x (releaseIdentity identity)
  | markOffline {identity : String} {report : Report} :
    Step t x (marking identity report) (.tell report) x
      (announcing identity (.publish (.disconnected identity x.addr)))
  | announce {identity : String} {report : Report} :
    Step t x (announcing identity report) (.tell report) x (releaseIdentity identity)
  | releaseIdentity {identity : String} :
    Step t x (releaseIdentity identity) (.leave identity) x releaseLifecycle
  | releaseLifecycle :
    Step t x releaseLifecycle .nothing { x with lock := x.lock.leave t } released
  | expire : Step t x released .nothing { x with stage := .closed } finished

end Leaving

/-- What a task has to do with the lives of connections. -/
inductive Duty where
  | none
  | accept (c : ConnectionId) (phase : Entering)
  | supervise (c : ConnectionId) (phase : Leaving)
deriving DecidableEq, Repr

def Report.isTransition : Report → Bool
  | markOnline _ _ | markOffline _ | publish (.connected _ _ _) | publish (.disconnected _ _) => true
  | _ => false

/-- What registrations and teardowns look at and change: the directory and its locks, the presences on
record, what was told of comings and goings, and how far each connection and its tasks have come. -/
@[ext]
structure Lifecycle where
  entry : String → Option ConnectionId
  line : String → Line TaskId
  presence : String → Option Presence
  told : List (ConnectionId × Report)
  life : ConnectionId → Option Life
  duty : TaskId → Duty

namespace Lifecycle

def setEntry (l : Lifecycle) (identity : String) (entry : Option ConnectionId) : Lifecycle :=
  { l with entry := fun other => if other = identity then entry else l.entry other }

def changeLine (l : Lifecycle) (identity : String) (f : Line TaskId → Line TaskId) : Lifecycle :=
  { l with line := fun other => if other = identity then f (l.line other) else l.line other }

def setLife (l : Lifecycle) (c : ConnectionId) (life : Life) : Lifecycle :=
  { l with life := fun other => if other = c then some life else l.life other }

def setDuty (l : Lifecycle) (t : TaskId) (duty : Duty) : Lifecycle :=
  { l with duty := fun other => if other = t then duty else l.duty other }

theorem setDuty_of_duty {l : Lifecycle} {t : TaskId} {duty : Duty} (h : l.duty t = duty) :
    l.setDuty t duty = l := by
  ext1 <;> try rfl
  funext other
  by_cases same : other = t
  · simp [setDuty, same, h]
  · simp [setDuty, same]

theorem setLife_of_life {l : Lifecycle} {c : ConnectionId} {life : Life} (h : l.life c = some life) :
    l.setLife c life = l := by
  ext1 <;> try rfl
  funext other
  by_cases same : other = c
  · simp [setLife, same, h]
  · simp [setLife, same]

def presenceAfter (l : Lifecycle) : Report → String → Option Presence
  | .markOnline identity addr => fun other =>
    if other = identity then some (.online addr) else l.presence other
  | .markOffline identity => fun other =>
    if other = identity then some .offline else l.presence other
  | _ => l.presence

def tell (l : Lifecycle) (source : ConnectionId) (report : Report) (failed : Bool) : Lifecycle :=
  { l with
    told := l.told ++ [(source, report)]
    presence := if failed then l.presence else l.presenceAfter report }

/-- What a deed of a task makes of the things that are shared. Only reports that satisfy `fails` may fail. -/
inductive Does (fails : Report → Prop) (t : TaskId) (c : ConnectionId) (l : Lifecycle) :
    Deed → Lifecycle → Prop where
  | nothing : Does fails t c l .nothing l
  | join (identity : String) :
    Does fails t c l (.join identity) (l.changeLine identity (·.join t))
  | leave (identity : String) :
    Does fails t c l (.leave identity) (l.changeLine identity (·.leave t))
  | enter {identity : String} {policy : DuplicatePolicy} (held : (l.line identity).isHeldBy t)
    (free : policy = .reject → l.entry identity = none) :
    Does fails t c l (.enter identity policy) (l.setEntry identity (some c))
  | yield {identity : String} (held : (l.line identity).isHeldBy t) :
    Does fails t c l (.yield identity) l
  | remove {identity : String} (held : (l.line identity).isHeldBy t)
    (holder : l.entry identity = some c) :
    Does fails t c l (.remove identity) (l.setEntry identity none)
  | pass {identity : String} (held : (l.line identity).isHeldBy t)
    (other : l.entry identity ≠ some c) :
    Does fails t c l (.pass identity) l
  | tell (report : Report) (failed : Bool) (excused : failed → fails report) :
    Does fails t c l (.tell report) (l.tell c report failed)

variable {fails : Report → Prop} {t : TaskId} {c : ConnectionId} {deed : Deed} {l l' : Lifecycle}

theorem Does.life (h : l.Does fails t c deed l') : l'.life = l.life := by
  cases h <;> rfl

theorem Does.duty (h : l.Does fails t c deed l') : l'.duty = l.duty := by
  cases h <;> rfl

theorem Does.told (h : l.Does fails t c deed l') :
    l'.told = l.told ++ deed.told.map fun report => (c, report) := by
  cases h <;> simp [Deed.told, Lifecycle.tell, changeLine, setEntry]

/-- All that can happen to a lifecycle. -/
inductive Move (fails : Report → Prop) (l : Lifecycle) : Lifecycle → Prop where
  | arrive (c : ConnectionId) (t : TaskId) (addr : Endpoint) (policy : DuplicatePolicy)
    (new : l.life c = none) (idle : l.duty t = .none) (idle' : l.duty (t + 1) = .none) :
    Move fails l (((l.setLife c { addr, policy }).setDuty t (.accept c .greeting)).setDuty (t + 1)
      (.supervise c .serving))
  | accept {t : TaskId} {c : ConnectionId} {x x' : Life} {p p' : Entering} {deed : Deed}
    {l' : Lifecycle} (duty : l.duty t = .accept c p) (life : l.life c = some x)
    (step : p.Step t x deed x' p') (does : l.Does fails t c deed l') :
    Move fails l ((l'.setLife c x').setDuty t (.accept c p'))
  | supervise {t : TaskId} {c : ConnectionId} {x x' : Life} {q q' : Leaving} {deed : Deed}
    {l' : Lifecycle} (duty : l.duty t = .supervise c q) (life : l.life c = some x)
    (step : q.Step t x deed x' q') (does : l.Does fails t c deed l') :
    Move fails l ((l'.setLife c x').setDuty t (.supervise c q'))

def blank : Lifecycle where
  entry _ := none
  line _ := {}
  presence _ := none
  told := []
  life _ := none
  duty _ := .none

/-- What becomes of a lifecycle in the course of time, the latest first. -/
inductive Story (fails : Report → Prop) : List Lifecycle → Prop where
  | start : Story fails [blank]
  | stay {l : Lifecycle} {past : List Lifecycle} (h : Story fails (l :: past)) :
    Story fails (l :: l :: past)
  | move {l l' : Lifecycle} {past : List Lifecycle} (h : Story fails (l :: past))
    (h' : l.Move fails l') : Story fails (l' :: l :: past)

end Lifecycle

end Fleetwire
