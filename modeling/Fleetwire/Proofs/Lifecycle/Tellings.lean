import Fleetwire.Proofs.Lifecycle.Affairs
import Fleetwire.Proofs.Lifecycle.Simulation

namespace Fleetwire

theorem filterMap_of_unique {Item Result : Type} {f : Item → Option Result} {items : List Item}
    {i : Nat} (unique : ∀ j item, items[j]? = some item → f item ≠ none → j = i) :
    items.filterMap f = (items[i]?.bind f).toList := by
  induction items generalizing i with
  | nil => rfl
  | cons item items ih =>
    cases i with
    | zero =>
      have rest : items.filterMap f = [] := by
        rw [List.filterMap_eq_nil_iff]
        intro other member
        obtain ⟨j, found⟩ := List.mem_iff_getElem?.1 member
        cases result : f other with
        | none => rfl
        | some => exact nomatch unique (j + 1) other found (by simp [result])
      cases result : f item <;> simp [result, rest]
    | succ i =>
      have first : f item = none := by
        cases result : f item with
        | none => rfl
        | some => exact nomatch unique 0 item rfl (by simp [result])
      rw [List.filterMap_cons_none first]
      apply ih
      intro j other found result
      exact Nat.succ.inj (unique (j + 1) other found result)

def Entering.telling? : Entering → Option Report
  | marking report | announcing report => some report
  | _ => none

def Leaving.telling? : Leaving → Option Report
  | marking _ report | announcing _ report => some report
  | _ => none

def Duty.telling? : Duty → Option (ConnectionId × Report)
  | none => .none
  | accept c p => p.telling?.map fun report => (c, report)
  | supervise c q => q.telling?.map fun report => (c, report)

def Task.telling? (task : Task) : Option (ConnectionId × Report) :=
  task.errand?.map fun (_, errand, _) => (errand.source, errand.report)

theorem Task.Proper.telling? {s : System} {task : Task} (proper : task.Proper s) :
    (task.telling?.filter fun telling => telling.2.isTransition) = task.duty.telling? := by
  have errands := proper.errands
  unfold Task.telling?
  cases task with
  | accept c phase =>
    cases phase with
    | marking | announcing =>
      obtain ⟨source, transition⟩ := errands _ _ _ rfl
      simp [errand?, Task.duty, Accepting.stance, Duty.telling?, Entering.telling?, source, transition]
    | refuse error closing => cases closing <;> rfl
    | finished result => cases result <;> rfl
    | _ => rfl
  | supervise c phase =>
    cases phase with
    | marking | announcing =>
      obtain ⟨source, transition⟩ := errands _ _ _ rfl
      simp [errand?, Task.duty, Supervising.stance, Duty.telling?, Leaving.telling?, source, transition]
    | _ => rfl
  | handle c job phase =>
    cases phase with
    | acting left doing =>
      cases doing with
      | recording | reporting =>
        obtain ⟨source, other⟩ := errands _ _ _ rfl
        simp [errand?, Task.duty, Duty.telling?, other]
      | _ => rfl
    | _ => rfl
  | _ => rfl

section Sound

variable {x : Life} {t u : TaskId} {p : Entering} {q : Leaving} {told : List Report} {n : Nat}
  {report : Report}

theorem Entering.not_activated_of_telling (h : p.telling? = some report) : p.activated = false := by
  cases p <;> first | rfl | cases h

theorem Leaving.Counts.telling?_eq_none (h : q.Counts p n) (early : p.activated = false) :
    q.telling? = none := by
  cases q with
  | marking | announcing =>
    rw [h.2] at early
    cases early
  | _ => rfl

theorem Sound.tellings (h : Sound x t p u q told) :
    ∃ n, q.Counts p n ∧ told = x.course.take n ∧
      told ++ p.telling?.toList ++ q.telling?.toList =
        x.course.take (n + p.telling?.toList.length + q.telling?.toList.length) := by
  obtain ⟨n, counts, rfl⟩ := h.reported.told
  refine ⟨n, counts, rfl, ?_⟩
  cases arriving : p.telling? with
  | some report =>
    have early := Entering.not_activated_of_telling arriving
    have next : x.course[n]? = some report := by
      rw [counts.eq_count early]
      apply h.reported.arriving report
      cases p with
      | marking => exact Or.inl (congrArg _ (Option.some.inj arriving))
      | announcing => exact Or.inr (congrArg _ (Option.some.inj arriving))
      | _ => cases arriving
    rw [counts.telling?_eq_none early]
    simpa using Life.course_take_succ next
  | none =>
    cases leaving : q.telling? with
    | none => simp
    | some report =>
      have next : x.course[n]? = some report := by
        cases q with
        | marking identity =>
          cases leaving
          rw [counts.1]
          exact h.reported.departing identity report rfl
        | announcing identity =>
          cases leaving
          rw [counts.1]
          exact h.reported.departed identity report rfl
        | _ => cases leaving
      simpa using Life.course_take_succ next

end Sound

inductive Coming where
  | arrival (addr : Endpoint)
  | departure (addr : Endpoint)
deriving DecidableEq, Repr

def Report.coming? : Report → Option Coming
  | publish (.connected _ _ addr) => some (.arrival addr)
  | publish (.disconnected _ addr) => some (.departure addr)
  | _ => none

def Report.comingOf? (identity : String) (report : Report) : Option Coming :=
  if report.identity = identity then report.coming? else none

def Affair.coming? : Affair → Option Coming
  | arrived _ addr => some (.arrival addr)
  | left _ addr => some (.departure addr)
  | arriving _ _ | leaving _ _ => none

theorem Report.comingOf?_ne_none {identity : String} {report : Report}
    (h : report.comingOf? identity ≠ none) : report.identity = identity ∧ report.isTransition := by
  unfold comingOf? at h
  split at h
  next same =>
    refine ⟨same, ?_⟩
    cases report with
    | publish notice => cases notice <;> first | rfl | exact absurd rfl h
    | _ => exact absurd rfl h
  · exact absurd rfl h

namespace Lifecycle

variable {l : Lifecycle} {c : ConnectionId} {x : Life} {t u : TaskId} {p : Entering} {q : Leaving}
  {identity : String}

theorem Invariant.telling?_coming (inv : l.Invariant) (t : TaskId) :
    ((l.duty t).telling?.map fun telling => (telling.2.identity, telling.2.coming?)) =
      (l.affair? t).map fun found => (found.1, found.2.coming?) := by
  cases duty : l.duty t with
  | none => simp [Duty.telling?, affair?, duty]
  | accept c p =>
    obtain ⟨x, life⟩ := Option.ne_none_iff_exists'.1 (inv.staffed.acceptor_living duty)
    obtain ⟨u, q, stands⟩ := inv.staffed.stands_of_accept duty life
    rw [affair?_of_accept duty life]
    cases p with
    | marking report =>
      obtain ⟨announced, known, rfl⟩ := (inv.sound stands).marking_eq
      simp [Duty.telling?, Entering.telling?, Entering.affair?, Life.identity?, known, Report.identity,
        Report.coming?, Affair.coming?]
    | announcing report =>
      obtain ⟨announced, known, rfl⟩ := (inv.sound stands).announcing_eq
      simp [Duty.telling?, Entering.telling?, Entering.affair?, Life.identity?, known, Report.identity,
        Notice.identity, Report.coming?, Affair.coming?]
    | _ => rfl
  | supervise c q =>
    obtain ⟨x, life⟩ := Option.ne_none_iff_exists'.1 (inv.staffed.supervisor_living duty)
    obtain ⟨t', p, stands⟩ := inv.staffed.stands_of_supervise duty life
    rw [affair?_of_supervise duty life]
    cases q with
    | marking other report =>
      obtain rfl := (inv.sound stands).unmarking_eq
      rfl
    | announcing other report =>
      obtain rfl := (inv.sound stands).unannouncing_eq
      rfl
    | _ => rfl

theorem Invariant.affair_of_telling (inv : l.Invariant) {telling : ConnectionId × Report}
    (h : (l.duty t).telling? = some telling) :
    ∃ affair, l.affair? t = some (telling.2.identity, affair) := by
  have same := inv.telling?_coming t
  rw [h, Option.map_some, eq_comm, Option.map_eq_some_iff] at same
  obtain ⟨⟨other, affair⟩, found, same⟩ := same
  exact ⟨affair, by rw [found, ← (Prod.mk.inj same).1]⟩

theorem Invariant.telling_of_affair (inv : l.Invariant) {affair : Affair}
    (h : l.affair? t = some (identity, affair)) :
    ∃ telling, (l.duty t).telling? = some telling ∧
      telling.2.comingOf? identity = affair.coming? := by
  have same := inv.telling?_coming t
  rw [h, Option.map_some, Option.map_eq_some_iff] at same
  obtain ⟨telling, here, same⟩ := same
  obtain ⟨identified, coming⟩ := Prod.mk.inj same
  exact ⟨telling, here, by rw [Report.comingOf?, if_pos identified, coming]⟩

end Lifecycle

namespace System

/-- The reports that were made, each with the connection that made it: those that have arrived, and those on
their way. -/
def tellings (s : System) : List (ConnectionId × Report) :=
  s.reports ++ s.tasks.filterMap Task.telling?

def tellingsBy (s : System) (c : ConnectionId) : List Report :=
  s.tellings.filterMap fun telling =>
    if telling.1 = c ∧ telling.2.isTransition then some telling.2 else none

def comings (s : System) (identity : String) : List Coming :=
  s.tellings.filterMap fun telling => telling.2.comingOf? identity

variable {s : System} {c : ConnectionId} {x : Life} {t u : TaskId} {p : Entering} {q : Leaving}
  {identity : String}

/-- Where one task alone has something of interest on its way, that comes after all that has arrived. -/
theorem filterMap_tellings {Result : Type} {f : ConnectionId × Report → Option Result}
    (proper : s.Proper) (transition : ∀ telling, f telling ≠ none → telling.2.isTransition) {i : TaskId}
    (unique : ∀ j telling, (s.lifecycle.duty j).telling? = some telling → f telling ≠ none → j = i) :
    s.tellings.filterMap f =
      s.lifecycle.told.filterMap f ++ ((s.lifecycle.duty i).telling?.bind f).toList := by
  have others : ∀ telling, (if telling.2.isTransition then f telling else none) = f telling := by
    intro telling
    split
    · rfl
    next other =>
      by_cases result : f telling = none
      · exact result.symm
      · exact absurd (transition telling result) other
  have arrived : s.lifecycle.told.filterMap f = s.reports.filterMap f := by
    simp only [lifecycle, List.filterMap_filter, others]
  -- What the lifecycle does not show of a task's report is of no interest.
  have own : ∀ j task, s.tasks[j]? = some task →
      task.telling?.bind f = (s.lifecycle.duty j).telling?.bind f := by
    intro j task found
    rw [duty_of_task found, ← (proper.tasks j task found).telling?]
    cases task.telling? with
    | none => rfl
    | some telling =>
      rw [Option.filter_some, Option.bind_some, ← others telling]
      split <;> rfl
  have underWay : s.tasks.filterMap (fun task => task.telling?.bind f) =
      (s.tasks[i]?.bind fun task => task.telling?.bind f).toList := by
    apply filterMap_of_unique
    intro j task found result
    rw [own j task found] at result
    cases here : (s.lifecycle.duty j).telling? with
    | none => exact absurd (by rw [here]; rfl) result
    | some telling => exact unique j telling here (by rwa [here] at result)
  rw [tellings, List.filterMap_append, arrived, List.filterMap_filterMap, underWay]
  cases found : s.tasks[i]? with
  | none => simp [lifecycle, found, Duty.telling?]
  | some task => rw [Option.bind_some, own i task found]

theorem told_filterMap_by (s : System) (c : ConnectionId) :
    (s.lifecycle.told.filterMap fun telling =>
      if telling.1 = c ∧ telling.2.isTransition then some telling.2 else none) =
      s.lifecycle.toldBy c := by
  simp only [Lifecycle.toldBy, ← List.filterMap_eq_map, List.filterMap_filter, lifecycle]
  congr 1
  funext telling
  by_cases transition : telling.2.isTransition <;> by_cases own : telling.1 = c <;>
    simp [transition, own]

theorem telling?_of_stands (inv : s.lifecycle.Invariant) (stands : s.lifecycle.Stands c x t p u q)
    {j : TaskId} {report : Report} (h : (s.lifecycle.duty j).telling? = some (c, report)) :
    j = t ∧ p.telling? = some report ∨ j = u ∧ q.telling? = some report := by
  cases duty : s.lifecycle.duty j with
  | none =>
    rw [duty] at h
    cases h
  | accept c' p' =>
    rw [duty] at h
    obtain ⟨report', here, same⟩ := Option.map_eq_some_iff.1 h
    cases same
    have acceptor := inv.staffed.acceptor_unique duty stands.accepts
    subst acceptor
    rw [stands.accepts] at duty
    cases duty
    exact Or.inl ⟨rfl, here⟩
  | supervise c' q' =>
    rw [duty] at h
    obtain ⟨report', here, same⟩ := Option.map_eq_some_iff.1 h
    cases same
    have supervisor := inv.staffed.supervisor_unique duty stands.supervises
    subst supervisor
    rw [stands.supervises] at duty
    cases duty
    exact Or.inr ⟨rfl, here⟩

theorem isTransition_of_telling (proper : s.Proper) {j : TaskId} {telling : ConnectionId × Report}
    (h : (s.lifecycle.duty j).telling? = some telling) : telling.2.isTransition := by
  cases found : s.tasks[j]? with
  | none =>
    rw [show s.lifecycle.duty j = .none by simp [lifecycle, found]] at h
    cases h
  | some task =>
    rw [duty_of_task found, ← (proper.tasks j task found).telling?, Option.filter_eq_some_iff] at h
    exact h.2

theorem tellingsBy_of_unique (proper : s.Proper) {telling : Option Report}
    (here : (s.lifecycle.duty u).telling? = telling.map fun report => (c, report))
    (unique : ∀ j report, (s.lifecycle.duty j).telling? = some (c, report) → j = u) :
    s.tellingsBy c = s.lifecycle.toldBy c ++ telling.toList := by
  rw [tellingsBy, filterMap_tellings proper, told_filterMap_by, here]
  · cases telling with
    | none => rfl
    | some report => simp [isTransition_of_telling proper here]
  · intro telling' h
    by_cases own : telling'.1 = c ∧ telling'.2.isTransition
    · exact own.2
    · exact absurd (if_neg own) h
  · rintro j ⟨source, report⟩ underWay h
    by_cases own : source = c ∧ report.isTransition
    · exact unique j report (own.1 ▸ underWay)
    · exact absurd (if_neg own) h

theorem tellingsBy_of_stands (proper : s.Proper) (inv : s.lifecycle.Invariant)
    (stands : s.lifecycle.Stands c x t p u q) :
    s.tellingsBy c = s.lifecycle.toldBy c ++ p.telling?.toList ++ q.telling?.toList := by
  cases arriving : p.telling? with
  | some report =>
    -- A supervisor tells nothing before the connection is active.
    obtain ⟨n, counts, _⟩ := (inv.sound stands).tellings
    have silent := counts.telling?_eq_none (Entering.not_activated_of_telling arriving)
    rw [silent, Option.toList_none, List.append_nil]
    apply tellingsBy_of_unique proper
    · rw [stands.accepts, Duty.telling?, arriving]
    · intro j report' underWay
      rcases telling?_of_stands inv stands underWay with ⟨same, _⟩ | ⟨_, leaving⟩
      · exact same
      · rw [silent] at leaving
        cases leaving
  | none =>
    rw [Option.toList_none, List.append_nil]
    apply tellingsBy_of_unique proper
    · rw [stands.supervises, Duty.telling?]
    · intro j report' underWay
      rcases telling?_of_stands inv stands underWay with ⟨_, entering⟩ | ⟨same, _⟩
      · rw [arriving] at entering
        cases entering
      · exact same

theorem told_filterMap_of (s : System) (identity : String) :
    (s.lifecycle.told.filterMap fun telling => telling.2.comingOf? identity) =
      (s.lifecycle.toldOf identity).filterMap Report.coming? := by
  rw [Lifecycle.toldOf, List.filterMap_map, List.filterMap_filter]
  congr 1
  funext telling
  simp [Report.comingOf?]

theorem comings_of_at (proper : s.Proper) (inv : s.lifecycle.Invariant) {a : Option Affair}
    (h : s.lifecycle.At identity a) :
    s.comings identity =
      (s.lifecycle.toldOf identity).filterMap Report.coming? ++ (a.bind Affair.coming?).toList := by
  have teller : ∀ (j : TaskId) (telling : ConnectionId × Report),
      (s.lifecycle.duty j).telling? = some telling → telling.2.comingOf? identity ≠ none →
      ∃ affair, s.lifecycle.affair? j = some (identity, affair) := by
    intro j telling here interest
    obtain ⟨affair, found⟩ := inv.affair_of_telling here
    exact ⟨affair, (Report.comingOf?_ne_none interest).1 ▸ found⟩
  cases a with
  | none =>
    have nobody : ∀ (j : TaskId) (telling : ConnectionId × Report),
        (s.lifecycle.duty j).telling? = some telling → telling.2.comingOf? identity = none := by
      intro j telling here
      by_cases interest : telling.2.comingOf? identity = none
      · exact interest
      · obtain ⟨affair, found⟩ := teller j telling here interest
        exact absurd found (h j affair)
    rw [comings, filterMap_tellings proper (i := 0), told_filterMap_of]
    · cases here : (s.lifecycle.duty 0).telling? with
      | none => rfl
      | some telling => rw [Option.bind_some, nobody 0 telling here, Option.bind_none]
    · exact fun telling interest => (Report.comingOf?_ne_none interest).2
    · exact fun j telling here interest => absurd (nobody j telling here) interest
  | some affair =>
    obtain ⟨t, found⟩ := h
    obtain ⟨telling, here, coming⟩ := inv.telling_of_affair found
    rw [comings, filterMap_tellings proper (i := t), told_filterMap_of, here]
    · rw [Option.bind_some, coming, Option.bind_some]
    · exact fun telling interest => (Report.comingOf?_ne_none interest).2
    · intro j telling' here' interest
      obtain ⟨affair', found'⟩ := teller j telling' here' interest
      exact inv.holder_unique (Lifecycle.holds_of_affair found') (Lifecycle.holds_of_affair found)

end System

end Fleetwire
