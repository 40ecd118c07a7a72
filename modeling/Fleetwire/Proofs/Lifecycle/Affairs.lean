import Fleetwire.Proofs.Lifecycle.Entries

namespace Fleetwire

/-- A change of an entry that has not been told in full. -/
inductive Affair where
  | arriving (c : ConnectionId) (addr : Endpoint)
  | arrived (c : ConnectionId) (addr : Endpoint)
  | leaving (c : ConnectionId) (addr : Endpoint)
  | left (c : ConnectionId) (addr : Endpoint)
deriving DecidableEq, Repr

def Entering.affair? (c : ConnectionId) (x : Life) : Entering → Option (String × Affair)
  | marking _ => x.identity?.map fun identity => (identity, .arriving c x.addr)
  | announcing _ => x.identity?.map fun identity => (identity, .arrived c x.addr)
  | _ => none

def Leaving.affair? (c : ConnectionId) (x : Life) : Leaving → Option (String × Affair)
  | marking identity _ => some (identity, .leaving c x.addr)
  | announcing identity _ => some (identity, .left c x.addr)
  | _ => none

def Deed.identity? : Deed → Option String
  | .nothing => none
  | .join identity | .leave identity | .enter identity _ | .yield identity | .remove identity
  | .pass identity => some identity
  | .tell report => some report.identity

namespace Lifecycle

def affair? (l : Lifecycle) (t : TaskId) : Option (String × Affair) :=
  match l.duty t with
  | .none => none
  | .accept c p => (l.life c).bind (p.affair? c)
  | .supervise c q => (l.life c).bind (q.affair? c)

def At (l : Lifecycle) (identity : String) : Option Affair → Prop
  | none => ∀ t affair, l.affair? t ≠ some (identity, affair)
  | some affair => ∃ t, l.affair? t = some (identity, affair)

def toldOf (l : Lifecycle) (identity : String) : List Report :=
  (l.told.filter fun told => told.2.identity = identity).map Prod.snd

def address (l : Lifecycle) (c : ConnectionId) : Option Endpoint := (l.life c).map Life.addr

variable {fails : Report → Prop} {l l' l₁ : Lifecycle} {c : ConnectionId} {x x' : Life} {t u : TaskId}
  {p p' : Entering} {q q' : Leaving} {deed : Deed} {identity : String} {affair : Affair}

theorem affair?_of_accept (duty : l.duty t = .accept c p) (life : l.life c = some x) :
    l.affair? t = p.affair? c x := by
  simp only [affair?, duty, life, Option.bind_some]

theorem affair?_of_supervise (duty : l.duty t = .supervise c q) (life : l.life c = some x) :
    l.affair? t = q.affair? c x := by
  simp only [affair?, duty, life, Option.bind_some]

theorem at_some {b : Option (String × Affair)} (h : l.affair? t = b) (same : b = some (identity, affair)) :
    l.At identity (some affair) :=
  ⟨t, h.trans same⟩

theorem holds_of_affair (h : l.affair? t = some (identity, affair)) : l.Holds t identity := by
  unfold affair? at h
  split at h
  · cases h
  next c p duty =>
    obtain ⟨x, life, h⟩ := Option.bind_eq_some_iff.1 h
    cases p with
    | marking report =>
      obtain ⟨identity, known, h⟩ := Option.map_eq_some_iff.1 h
      cases h
      exact .accept duty life rfl known
    | announcing report =>
      obtain ⟨identity, known, h⟩ := Option.map_eq_some_iff.1 h
      cases h
      exact .accept duty life rfl known
    | _ => cases h
  next c q duty =>
    obtain ⟨x, life, h⟩ := Option.bind_eq_some_iff.1 h
    cases q with
    | marking | announcing =>
      cases h
      exact .supervise duty rfl
    | _ => cases h

theorem exists_at (l : Lifecycle) (identity : String) : ∃ a, l.At identity a := by
  by_cases found : ∃ t affair, l.affair? t = some (identity, affair)
  · obtain ⟨t, affair, found⟩ := found
    exact ⟨some affair, t, found⟩
  · exact ⟨none, fun t affair here => found ⟨t, affair, here⟩⟩

theorem Invariant.at_unique (inv : l.Invariant) {a a' : Option Affair} (h : l.At identity a)
    (h' : l.At identity a') : a = a' := by
  cases a with
  | none =>
    cases a' with
    | none => rfl
    | some affair =>
      obtain ⟨t, found⟩ := h'
      exact absurd found (h t affair)
  | some affair =>
    obtain ⟨t, found⟩ := h
    cases a' with
    | none => exact absurd found (h' t affair)
    | some affair' =>
      obtain ⟨u, found'⟩ := h'
      have same := inv.holder_unique (holds_of_affair found) (holds_of_affair found')
      subst same
      rw [found] at found'
      cases found'
      rfl

theorem Invariant.at_none (inv : l.Invariant) (held : (l.line identity).isHeldBy t)
    (idle : l.affair? t = none) : l.At identity none := by
  intro u affair found
  have same := Line.isHeldBy_unique (inv.locked (holds_of_affair found)) held
  rw [same, idle] at found
  cases found

theorem Invariant.at_none_of_free (inv : l.Invariant) (free : (l.line identity).isFree) :
    l.At identity none := by
  intro u affair found
  have held := inv.locked (holds_of_affair found)
  rw [Line.isHeldBy_iff, List.isEmpty_iff.1 free] at held
  cases held

theorem at_congr {a : Option Affair} (same : ∀ t affair,
    l'.affair? t = some (identity, affair) ↔ l.affair? t = some (identity, affair)) :
    l'.At identity a ↔ l.At identity a := by
  cases a with
  | none => exact forall_congr' fun t => forall_congr' fun affair => not_congr (same t affair)
  | some affair => exact exists_congr fun t => same t affair

theorem at_blank {a : Option Affair} (h : blank.At identity a) : a = none := by
  cases a with
  | none => rfl
  | some affair =>
    obtain ⟨t, found⟩ := h
    cases found

/-- What a move means for an identity. -/
inductive Happens (fails : Report → Prop) (l l' : Lifecycle) (identity : String) :
    Option Affair → Option Affair → Prop where
  | nothing {a : Option Affair} (entry : l'.entry identity = l.entry identity)
    (presence : l'.presence identity = l.presence identity)
    (told : l'.toldOf identity = l.toldOf identity) : Happens fails l l' identity a a
  | enter {c : ConnectionId} {x : Life} (life : l.life c = some x)
    (free : x.policy = .reject → l.entry identity = none) (entry : l'.entry identity = some c)
    (presence : l'.presence identity = l.presence identity)
    (told : l'.toldOf identity = l.toldOf identity) :
    Happens fails l l' identity none (some (.arriving c x.addr))
  | markOnline {c : ConnectionId} {x : Life} {failed : Bool} (life : l.life c = some x)
    (excused : failed → fails (.markOnline identity x.addr)) (former : l.entry identity = some c)
    (entry : l'.entry identity = some c)
    (presence : l'.presence identity = if failed then l.presence identity else some (.online x.addr))
    (told : l'.toldOf identity = l.toldOf identity ++ [.markOnline identity x.addr]) :
    Happens fails l l' identity (some (.arriving c x.addr)) (some (.arrived c x.addr))
  | announceArrival {c : ConnectionId} {x : Life} {version : String} (life : l.life c = some x)
    (former : l.entry identity = some c) (entry : l'.entry identity = some c)
    (presence : l'.presence identity = l.presence identity)
    (told : l'.toldOf identity =
      l.toldOf identity ++ [.publish (.connected identity version x.addr)]) :
    Happens fails l l' identity (some (.arrived c x.addr)) none
  | remove {c : ConnectionId} {x : Life} (life : l.life c = some x)
    (former : l.entry identity = some c) (entry : l'.entry identity = none)
    (presence : l'.presence identity = l.presence identity)
    (told : l'.toldOf identity = l.toldOf identity) :
    Happens fails l l' identity none (some (.leaving c x.addr))
  | markOffline {c : ConnectionId} {addr : Endpoint} {failed : Bool}
    (excused : failed → fails (.markOffline identity)) (former : l.entry identity = none)
    (entry : l'.entry identity = none)
    (presence : l'.presence identity = if failed then l.presence identity else some .offline)
    (told : l'.toldOf identity = l.toldOf identity ++ [.markOffline identity]) :
    Happens fails l l' identity (some (.leaving c addr)) (some (.left c addr))
  | announceDeparture {c : ConnectionId} {addr : Endpoint} (former : l.entry identity = none)
    (entry : l'.entry identity = none) (presence : l'.presence identity = l.presence identity)
    (told : l'.toldOf identity = l.toldOf identity ++ [.publish (.disconnected identity addr)]) :
    Happens fails l l' identity (some (.left c addr)) none

theorem toldOf_own {report : Report} (told : l'.told = l.told ++ [(c, report)])
    (same : report.identity = identity) : l'.toldOf identity = l.toldOf identity ++ [report] := by
  simp [toldOf, told, List.filter_append, same]

theorem toldOf_other {report : Report} (told : l'.told = l.told ++ [(c, report)])
    (different : report.identity ≠ identity) : l'.toldOf identity = l.toldOf identity := by
  simp [toldOf, told, List.filter_append, different]

theorem presenceAfter_other {report : Report} (different : report.identity ≠ identity) :
    l.presenceAfter report identity = l.presence identity := by
  have other : identity ≠ report.identity := fun same => different same.symm
  cases report with
  | markOnline | markOffline => exact if_neg other
  | record | publish => rfl

theorem Does.elsewhere (does : l.Does fails t c deed l₁) (other : deed.identity? ≠ some identity) :
    l₁.entry identity = l.entry identity ∧ l₁.presence identity = l.presence identity ∧
      l₁.toldOf identity = l.toldOf identity := by
  cases does with
  | @enter own policy held free =>
    have different : identity ≠ own := fun same => other (congrArg some same.symm)
    exact ⟨if_neg different, rfl, rfl⟩
  | @remove own held holder =>
    have different : identity ≠ own := fun same => other (congrArg some same.symm)
    exact ⟨if_neg different, rfl, rfl⟩
  | tell report failed excused =>
    have different : report.identity ≠ identity := fun same => other (congrArg some same)
    refine ⟨rfl, ?_, toldOf_other rfl different⟩
    cases failed with
    | true => rfl
    | false => exact presenceAfter_other different
  | _ => exact ⟨rfl, rfl, rfl⟩

theorem affair?_frame {duty : Duty} (does : l.Does fails t c deed l₁) (life : l.life c = some x)
    (addr : x'.addr = x.addr) (known : ∀ p, l.duty u = .accept c p → x'.identity? = x.identity?)
    (different : u ≠ t) : ((l₁.setLife c x').setDuty t duty).affair? u = l.affair? u := by
  simp only [affair?, setDuty, setLife, does.duty, does.life, different, if_false]
  split
  · rfl
  next c₂ p duty₂ =>
    split
    next same =>
      subst same
      have identity := known p duty₂
      simp only [life, Option.bind_some]
      cases p <;> simp only [Entering.affair?, identity, addr]
    · rfl
  next c₂ q duty₂ =>
    split
    next same =>
      subst same
      simp only [life, Option.bind_some]
      cases q <;> simp only [Leaving.affair?, addr]
    · rfl

structure Moved (fails : Report → Prop) (l l' : Lifecycle) (t : TaskId) (c : ConnectionId) (deed : Deed)
    (b b' : Option (String × Affair)) : Prop where
  before : l.affair? t = b
  after : l'.affair? t = b'
  others : ∀ u, u ≠ t → l'.affair? u = l.affair? u
  own : ∀ {found : String × Affair}, b = some found ∨ b' = some found → deed.identity? = some found.1
  does : ∃ l₁, l.Does fails t c deed l₁ ∧ l'.entry = l₁.entry ∧ l'.presence = l₁.presence ∧
    l'.told = l₁.told

variable {b b' : Option (String × Affair)} {a' : Option Affair}

theorem Moved.happens_other (moved : Moved fails l l' t c deed b b')
    (other : deed.identity? ≠ some identity) (h : l'.At identity a') :
    ∃ a, l.At identity a ∧ Happens fails l l' identity a a' := by
  have same : ∀ u affair,
      l'.affair? u = some (identity, affair) ↔ l.affair? u = some (identity, affair) := by
    intro u affair
    by_cases mover : u = t
    · subst mover
      rw [moved.before, moved.after]
      exact ⟨fun found => absurd (moved.own (Or.inr found)) other,
        fun found => absurd (moved.own (Or.inl found)) other⟩
    · rw [moved.others u mover]
  obtain ⟨l₁, does, entry, presence, told⟩ := moved.does
  obtain ⟨entry₁, presence₁, told₁⟩ := does.elsewhere other
  refine ⟨a', (at_congr same).1 h, .nothing (by rw [entry, entry₁]) (by rw [presence, presence₁]) ?_⟩
  rw [← told₁]
  simp only [toldOf, told]

theorem Moved.happens_quiet (moved : Moved fails l l' t c deed none none)
    (entry : l'.entry = l.entry) (presence : l'.presence = l.presence) (told : l'.told = l.told)
    (h : l'.At identity a') : ∃ a, l.At identity a ∧ Happens fails l l' identity a a' := by
  have same : ∀ u, l'.affair? u = l.affair? u := by
    intro u
    by_cases mover : u = t
    · rw [mover, moved.before, moved.after]
    · exact moved.others u mover
  refine ⟨a', (at_congr fun u affair => by rw [same u]).1 h, ?_⟩
  exact .nothing (by rw [entry]) (by rw [presence]) (by simp only [toldOf, told])

theorem Invariant.moved_accept (inv : l.Invariant) (stands : l.Stands c x t p u q)
    (step : p.Step t x deed x' p') (does : l.Does fails t c deed l₁) :
    Moved fails l ((l₁.setLife c x').setDuty t (.accept c p')) t c deed (p.affair? c x)
      (p'.affair? c x') := by
  refine ⟨affair?_of_accept stands.accepts stands.life, affair?_of_accept ?_ ?_, ?_, ?_,
    l₁, does, rfl, rfl, rfl⟩
  · simp [setDuty]
  · simp [setDuty, setLife]
  · intro other different
    refine affair?_frame does stands.life step.addr.1 (fun p₂ duty₂ => ?_) different
    exact absurd rfl (inv.staffed.life_of_other stands.accepts duty₂ different)
  · rintro found told
    cases step with
    | enter known =>
      rcases told with told | told
      · cases told
      · simp only [Entering.affair?, known, Option.map_some, Option.some.injEq] at told
        subst told
        rfl
    | markOnline =>
      obtain ⟨announced, known, rfl⟩ := (inv.sound stands).marking_eq
      have identified : x.identity? = some announced.identity := congrArg _ known
      simp only [Entering.affair?, identified, Option.map_some, Option.some.injEq] at told
      rcases told with rfl | rfl <;> rfl
    | announce =>
      obtain ⟨announced, known, rfl⟩ := (inv.sound stands).announcing_eq
      have identified : x.identity? = some announced.identity := congrArg _ known
      simp only [Entering.affair?, identified, Option.map_some, Option.some.injEq] at told
      rcases told with rfl | told
      · rfl
      · cases told
    | @conclude done => cases done <;> rcases told with told | told <;> cases told
    | _ => rcases told with told | told <;> cases told

theorem Invariant.moved_supervise (inv : l.Invariant) (stands : l.Stands c x t p u q)
    (step : q.Step u x deed x' q') (does : l.Does fails u c deed l₁) :
    Moved fails l ((l₁.setLife c x').setDuty u (.supervise c q')) u c deed (q.affair? c x)
      (q'.affair? c x') := by
  refine ⟨affair?_of_supervise stands.supervises stands.life, affair?_of_supervise ?_ ?_, ?_, ?_,
    l₁, does, rfl, rfl, rfl⟩
  · simp [setDuty]
  · simp [setDuty, setLife]
  · intro other different
    exact affair?_frame does stands.life step.addr.1 (fun _ _ => step.identity) different
  · rintro found told
    cases step with
    | remove =>
      rcases told with told | told
      · cases told
      · cases told
        rfl
    | markOffline =>
      obtain rfl := (inv.sound stands).unmarking_eq
      rcases told with told | told <;> cases told <;> rfl
    | announce =>
      obtain rfl := (inv.sound stands).unannouncing_eq
      rcases told with told | told
      · cases told
        rfl
      · cases told
    | _ => rcases told with told | told <;> cases told

theorem Moved.happens_own {a a₁ : Option Affair} (inv : l'.Invariant) (before : l.At identity a)
    (after : l'.At identity a₁) (happens : Happens fails l l' identity a a₁) (h : l'.At identity a') :
    ∃ a, l.At identity a ∧ Happens fails l l' identity a a' := by
  rw [← inv.at_unique after h]
  exact ⟨a, before, happens⟩

theorem presence_tell_publish (c : ConnectionId) (notice : Notice) (failed : Bool)
    (identity : String) : (l.tell c (.publish notice) failed).presence identity = l.presence identity := by
  cases failed <;> rfl

theorem Invariant.happens_accept (inv : l.Invariant)
    (inv' : ((l₁.setLife c x').setDuty t (.accept c p')).Invariant) (stands : l.Stands c x t p u q)
    (step : p.Step t x deed x' p') (does : l.Does fails t c deed l₁)
    (h : ((l₁.setLife c x').setDuty t (.accept c p')).At identity a') :
    ∃ a, l.At identity a ∧
      Happens fails l ((l₁.setLife c x').setDuty t (.accept c p')) identity a a' := by
  have moved := inv.moved_accept stands step does
  by_cases own : deed.identity? = some identity
  case neg => exact moved.happens_other own h
  have duty' : ((l₁.setLife c x').setDuty t (.accept c p')).duty t = .accept c p' := by simp [setDuty]
  have life' : ((l₁.setLife c x').setDuty t (.accept c p')).life c = some x' := by
    simp [setDuty, setLife]
  cases step with
  | enter known =>
    cases own
    cases does with
    | enter held free =>
      refine Moved.happens_own inv' (inv.at_none held moved.before) (at_some moved.after ?_)
        (.enter stands.life free ?_ rfl rfl) h
      · simp [Entering.affair?, known]
      · simp [setDuty, setLife, setEntry]
  | markOnline =>
    obtain ⟨announced, known, rfl⟩ := (inv.sound stands).marking_eq
    have identified : x.identity? = some announced.identity := congrArg _ known
    have former := inv.entered stands rfl rfl identified
    cases own
    cases does with
    | tell report failed excused =>
      refine Moved.happens_own inv' (at_some moved.before ?_) (at_some moved.after ?_)
        (.markOnline stands.life excused former former ?_ (toldOf_own rfl rfl)) h
      · simp [Entering.affair?, identified, Report.identity]
      · simp [Entering.affair?, identified, Report.identity]
      · cases failed <;> simp [setDuty, setLife, tell, presenceAfter, Report.identity]
  | announce =>
    obtain ⟨announced, known, rfl⟩ := (inv.sound stands).announcing_eq
    have identified : x.identity? = some announced.identity := congrArg _ known
    have former := inv.entered stands rfl rfl identified
    cases own
    have held := inv'.locked (.accept duty' life' rfl identified)
    cases does with
    | tell report failed excused =>
      refine Moved.happens_own inv' (at_some moved.before ?_) (inv'.at_none held moved.after)
        (.announceArrival stands.life former former (presence_tell_publish c _ failed _)
          (toldOf_own rfl rfl)) h
      simp [Entering.affair?, identified, Report.identity, Notice.identity]
  | releaseIdentity | queueIdentity | yield =>
    cases does
    exact moved.happens_quiet rfl rfl rfl h
  | _ => cases own

theorem Invariant.happens_supervise (inv : l.Invariant)
    (inv' : ((l₁.setLife c x').setDuty u (.supervise c q')).Invariant) (stands : l.Stands c x t p u q)
    (step : q.Step u x deed x' q') (does : l.Does fails u c deed l₁)
    (h : ((l₁.setLife c x').setDuty u (.supervise c q')).At identity a') :
    ∃ a, l.At identity a ∧
      Happens fails l ((l₁.setLife c x').setDuty u (.supervise c q')) identity a a' := by
  have moved := inv.moved_supervise stands step does
  by_cases own : deed.identity? = some identity
  case neg => exact moved.happens_other own h
  have duty' : ((l₁.setLife c x').setDuty u (.supervise c q')).duty u = .supervise c q' := by
    simp [setDuty]
  cases step with
  | remove =>
    cases own
    cases does with
    | remove held holder =>
      refine Moved.happens_own inv' (inv.at_none held moved.before) (at_some moved.after rfl)
        (.remove stands.life holder ?_ rfl rfl) h
      simp [setDuty, setLife, setEntry]
  | markOffline =>
    obtain rfl := (inv.sound stands).unmarking_eq
    have former := inv.removed stands rfl
    cases own
    cases does with
    | tell report failed excused =>
      refine Moved.happens_own inv' (at_some moved.before rfl) (at_some moved.after rfl)
        (.markOffline excused former former ?_ (toldOf_own rfl rfl)) h
      cases failed <;> simp [setDuty, setLife, tell, presenceAfter, Report.identity]
  | announce =>
    obtain rfl := (inv.sound stands).unannouncing_eq
    have former := inv.removed stands rfl
    cases own
    have held := inv'.locked (.supervise duty' rfl)
    cases does with
    | tell report failed excused =>
      exact Moved.happens_own inv' (at_some moved.before rfl) (inv'.at_none held moved.after)
        (.announceDeparture former former (presence_tell_publish c _ failed _) (toldOf_own rfl rfl)) h
  | pass | queueIdentity | releaseIdentity =>
    cases does
    exact moved.happens_quiet rfl rfl rfl h
  | _ => cases own

theorem Invariant.affair?_arrive (inv : l.Invariant) {c : ConnectionId} {t : TaskId} (life : Life)
    (new : l.life c = none) (idle : l.duty t = .none) (idle' : l.duty (t + 1) = .none) (u : TaskId) :
    (((l.setLife c life).setDuty t (.accept c .greeting)).setDuty (t + 1)
      (.supervise c .serving)).affair? u = l.affair? u := by
  simp only [affair?, setDuty, setLife]
  by_cases supervisor : u = t + 1
  · subst supervisor
    simp [idle', Leaving.affair?]
  · by_cases acceptor : u = t
    · subst acceptor
      simp [idle, Entering.affair?]
    · simp only [supervisor, acceptor, if_false]
      split
      · rfl
      next other p duty =>
        have old : other ≠ c := fun same =>
          inv.staffed.acceptor_living duty (same ▸ new)
        simp only [old, if_false]
      next other q duty =>
        have old : other ≠ c := fun same =>
          inv.staffed.supervisor_living duty (same ▸ new)
        simp only [old, if_false]

theorem Invariant.happens (inv : l.Invariant) (move : l.Move fails l') (h : l'.At identity a') :
    ∃ a, l.At identity a ∧ Happens fails l l' identity a a' := by
  have inv' := inv.move move
  cases move with
  | arrive c t addr policy new idle idle' =>
    have same := inv.affair?_arrive { addr, policy } new idle idle'
    exact ⟨a', (at_congr fun u affair => by rw [same u]).1 h, .nothing rfl rfl rfl⟩
  | accept duty life step does =>
    obtain ⟨u, q, stands⟩ := inv.staffed.stands_of_accept duty life
    exact inv.happens_accept inv' stands step does h
  | supervise duty life step does =>
    obtain ⟨t, p, stands⟩ := inv.staffed.stands_of_supervise duty life
    exact inv.happens_supervise inv' stands step does h

theorem Invariant.address_of_entry (inv : l.Invariant) (move : l.Move fails l') {c : ConnectionId}
    (entry : l.entry identity = some c) : l'.address c = l.address c := by
  obtain ⟨x, t, p, u, q, stands, _⟩ := inv.entries entry
  obtain ⟨x', life, addr, _⟩ := move.life stands.life
  simp only [address, life, stands.life, Option.map_some, addr]

theorem Invariant.address_of_same (inv : l.Invariant) (move : l.Move fails l')
    (entry : l'.entry identity = l.entry identity) :
    (l'.entry identity).bind l'.address = (l.entry identity).bind l.address := by
  rw [entry]
  cases holder : l.entry identity with
  | none => rfl
  | some c => exact inv.address_of_entry move holder

end Lifecycle

end Fleetwire
