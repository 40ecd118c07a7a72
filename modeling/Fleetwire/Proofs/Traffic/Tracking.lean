import Fleetwire.Proofs.Traffic.Sound

namespace Fleetwire

namespace Exchange

/-- A call in the slot `slot`, with the id of its request, after the messages `came` came to it. -/
inductive Tracks (e : Exchange) (id : MessageId) (slot : SlotId) : List Message → Prop where
  | waiting (isOpen : e.router.Open id slot) : Tracks e id slot []
  | closed (isClosed : e.router.slots[slot]? = some .closed) (settled : e.router.pending.get? id = none)
    (closed : e.closed) : Tracks e id slot []
  | filled {message : Message} (filled : e.router.slots[slot]? = some (.filled message))
    (settled : e.router.pending.get? id = none) (own : message.id = id) (routed : message ∈ e.routed) :
    Tracks e id slot [message]

def Forgets (e : Exchange) (id : MessageId) : Prop :=
  ∀ slot, e.router.pending.get? id = some slot → e.router.slots[slot]? = some .abandoned

variable {e e' : Exchange} {id : MessageId} {slot : SlotId} {came : List Message}
  {operation : Router.Operation}

def brings (e : Exchange) (id : MessageId) (operation : Router.Operation) : List Message :=
  operation.routed?.toList.filter fun message => message.id = id ∧ e.router.awaits id

theorem brings_of_not_awaits (gone : e.router.awaits id = false) (operation : Router.Operation) :
    e.brings id operation = [] := by
  simp [brings, gone]

theorem not_awaits_of_settled {r : Router} (settled : r.pending.get? id = none) : r.awaits id = false := by
  simp [Router.awaits, settled]

theorem Forgets.not_awaits (h : e.Forgets id) : e.router.awaits id = false := by
  unfold Router.awaits
  cases found : e.router.pending.get? id with
  | none => rfl
  | some slot => simp [h slot found]

theorem pending_perform_of_none {r : Router} (settled : r.pending.get? id = none)
    (new : operation.expected? ≠ some id) : (r.perform operation).pending.get? id = none := by
  rw [Router.get?_pending_perform, if_neg new, settled]
  split <;> rfl

theorem slots_perform_of_settled {r : Router} {content : Slot} (found : r.slots[slot]? = some content)
    (settled : content ≠ .waiting) : (r.perform operation).slots[slot]? = some content := by
  rw [Router.slots_perform found, if_neg settled]

theorem Forgets.perform (h : e.Forgets id) (new : operation.expected? ≠ some id)
    (router : e'.router = e.router.perform operation) : e'.Forgets id := by
  intro slot found
  rw [router] at found ⊢
  rcases Router.pending_perform_cases found with ⟨made, _⟩ | ⟨_, _, old⟩
  · exact absurd made new
  · exact slots_perform_of_settled (h slot old) fun same => Slot.noConfusion same

structure Performs (e : Exchange) (operation : Router.Operation) (e' : Exchange) : Prop where
  router : e'.router = e.router.perform operation
  routed : e'.routed = e.routed ++ operation.routed?.toList
  later : e.Later e'

theorem Performs.waiting (h : e.Performs operation e') (isOpen : e.router.Open id slot)
    (new : operation.expected? ≠ some id) (unabandoned : operation ≠ .abandon slot)
    (uncancelled : operation ≠ .cancel id) (closing : operation = .failAll → e.closed) :
    e'.Tracks id slot (e.brings id operation) := by
  have awaits : e.router.awaits id = true := by simp [Router.awaits, isOpen.awaited, isOpen.waits]
  have goesOn : operation.settles? id slot = none → e.brings id operation = [] →
      e'.Tracks id slot (e.brings id operation) := by
    intro unsettled nothing
    rw [nothing]
    refine .waiting ?_
    rw [h.router]
    exact isOpen.perform new unsettled
  have settles : ∀ outcome, operation.settles? id slot = some outcome →
      e'.router.slots[slot]? = some outcome := by
    intro outcome settles
    rw [h.router]
    exact isOpen.settle new settles
  have released : operation.releases id → e'.router.pending.get? id = none := by
    intro releases
    rw [h.router, Router.get?_pending_perform, if_neg new, if_pos releases]
  cases operation with
  | route message =>
    by_cases own : message.id = id
    · have brings : e.brings id (.route message) = [message] := by
        simp [Exchange.brings, Router.Operation.routed?, own, awaits]
      rw [brings]
      refine .filled (settles _ (if_pos own)) (released (by simp [Router.Operation.releases, own])) own ?_
      rw [h.routed]
      exact List.mem_append_right _ (List.mem_singleton_self message)
    · exact goesOn (if_neg own) (by simp [Exchange.brings, Router.Operation.routed?, own])
  | failAll => exact .closed (settles _ rfl) (released rfl) (h.later.closed (closing rfl))
  | cancel other => exact goesOn (if_neg fun same => uncancelled (congrArg _ same)) rfl
  | abandon other => exact goesOn (if_neg fun same => unabandoned (congrArg _ same)) rfl
  | _ => exact goesOn rfl rfl

/-- What others do leaves a call as it was, brings it a message, or closes its slot with the connection. -/
theorem Performs.tracks (h : e.Performs operation e') (tracks : e.Tracks id slot came)
    (new : operation.expected? ≠ some id) (unabandoned : operation ≠ .abandon slot)
    (uncancelled : operation ≠ .cancel id) (closing : operation = .failAll → e.closed) :
    e'.Tracks id slot (came ++ e.brings id operation) := by
  cases tracks with
  | waiting isOpen => exact h.waiting isOpen new unabandoned uncancelled closing
  | closed isClosed settled closed =>
    rw [brings_of_not_awaits (not_awaits_of_settled settled)]
    refine .closed ?_ ?_ (h.later.closed closed)
    · rw [h.router]
      exact slots_perform_of_settled isClosed fun same => Slot.noConfusion same
    · rw [h.router]
      exact pending_perform_of_none settled new
  | filled filled settled own routed =>
    rw [brings_of_not_awaits (not_awaits_of_settled settled), List.append_nil]
    refine .filled ?_ ?_ own ?_
    · rw [h.router]
      exact slots_perform_of_settled filled fun same => Slot.noConfusion same
    · rw [h.router]
      exact pending_perform_of_none settled new
    · rw [h.routed]
      exact List.mem_append_left _ routed

structure Alike (e e' : Exchange) : Prop where
  pending : e'.router.pending = e.router.pending
  slots : e'.router.slots = e.router.slots
  routed : e'.routed = e.routed
  later : e.Later e'

theorem Mild.alike (h : e.Mild e') : e.Alike e' := ⟨h.pending, h.slots, h.routed, h.later⟩

theorem Alike.tracks (h : e.Alike e') (tracks : e.Tracks id slot came) : e'.Tracks id slot came := by
  cases tracks with
  | waiting isOpen =>
    refine .waiting ⟨?_, ?_, ?_⟩
    · rw [h.slots]
      exact isOpen.waits
    · rw [h.pending]
      exact isOpen.awaited
    · rw [h.pending]
      exact isOpen.own
  | closed isClosed settled closed =>
    refine .closed ?_ ?_ (h.later.closed closed)
    · rw [h.slots]
      exact isClosed
    · rw [h.pending]
      exact settled
  | filled filled settled own routed =>
    refine .filled ?_ ?_ own ?_
    · rw [h.slots]
      exact filled
    · rw [h.pending]
      exact settled
    · rw [h.routed]
      exact routed

theorem Alike.forgets (h : e.Alike e') (forgets : e.Forgets id) : e'.Forgets id := by
  unfold Forgets
  rw [h.pending, h.slots]
  exact forgets

theorem Tracks.abandon (h : e.Tracks id slot came)
    (unfilled : ∀ message, e.router.slots[slot]? ≠ some (.filled message)) :
    (e.abandon slot).Forgets id ∧ came = [] := by
  cases h with
  | waiting isOpen =>
    refine ⟨fun other found => ?_, rfl⟩
    have same : other = slot := Option.some.inj (found.symm.trans isOpen.awaited)
    subst same
    simp [Exchange.abandon, Router.abandon, isOpen.waits]
  | closed isClosed settled =>
    refine ⟨fun other found => ?_, rfl⟩
    cases settled.symm.trans found
  | filled filled => exact absurd filled (unfilled _)

end Exchange

namespace Traffic

variable {l l' : Traffic} {p p' : Part} {t u : TaskId} {e e' : Exchange} {past : List Traffic}
  {id : MessageId} {slot : SlotId} {call : Call} {request : Message} {n : Nat}

theorem Act.effect (h : l.Act p p' l') (here : l.exchange = some e) :
    ∃ e', l'.exchange = some e' ∧ (e.Alike e' ∨ ∃ operation, Part.Does l.nextId p operation ∧
      e.Performs operation e' ∧ ∀ id, operation.expected? = some id → l'.nextId = l.nextId + 1) := by
  have mild : l.Mild l' → ∃ e', l'.exchange = some e' ∧ e.Alike e' := by
    intro same
    obtain ⟨e', after, mild⟩ := same.after here
    exact ⟨e', after, mild.alike⟩
  cases h with
  | mild same | rest same =>
    obtain ⟨e', after, alike⟩ := mild same
    exact ⟨e', after, .inl alike⟩
  | begin | quit => exact ⟨e, here, .inl ⟨rfl, rfl, rfl, .refl e⟩⟩
  | deal here' step =>
    cases here.symm.trans here'
    refine ⟨_, rfl, ?_⟩
    rcases step.router with ⟨router, routed⟩ | ⟨operation, does, router, routed, next⟩
    · exact .inl ⟨congrArg _ router, congrArg _ router, routed, step.later⟩
    · exact .inr ⟨operation, does, ⟨router, routed, step.later⟩, fun id made => (next id made).1⟩

theorem delivered_of_alike (here : l.exchange = some e) (after : l'.exchange = some e')
    (alike : e.Alike e') : delivered id (l' :: l :: past) = delivered id (l :: past) := by
  apply delivered_of_routed
  simp only [routed, here, after]
  exact alike.routed

theorem delivered_of_performs {operation : Router.Operation} (here : l.exchange = some e)
    (after : l'.exchange = some e') (performs : e.Performs operation e') :
    delivered id (l' :: l :: past) = delivered id (l :: past) ++ e.brings id operation := by
  have awaits : l.awaits id = e.router.awaits id := by simp [Traffic.awaits, here]
  have came : l'.routed = l.routed ++ operation.routed?.toList := by
    simp only [routed, here, after]
    exact performs.routed
  rw [delivered_of_append came, awaits]
  rfl

theorem Named.apart (named : l.Named) (distinct : Distinct n) (bounded : l'.nextId ≤ n)
    {operation : Router.Operation} (does : Part.Does l.nextId (l.part u) operation)
    (next : ∀ id, operation.expected? = some id → l'.nextId = l.nextId + 1) (other : u ≠ t)
    (calls : l.part t = .calling call) (requested : call.phase.request? = some request) :
    operation.expected? ≠ some request.id ∧ operation ≠ .cancel request.id ∧
      ∀ slot, call.phase.slot? = some slot → operation ≠ .abandon slot := by
  refine ⟨fun made => ?_, ?_, ?_⟩
  · obtain ⟨k, less, same⟩ := named.request t call request calls requested
    have new := does.expected made
    have advanced := next _ made
    rw [same] at new
    exact absurd (distinct k l.nextId (by omega) (by omega) new) (Nat.ne_of_lt less)
  · rintro rfl
    generalize cancelled : Router.Operation.cancel request.id = operation at does
    cases does with
    | cancel own named' =>
      have same : request.id = _ := Router.Operation.cancel.inj cancelled
      exact other (named.ids u t _ _ _ _ own calls named' requested same.symm)
    | _ => cases cancelled
  · rintro slot held rfl
    generalize abandoned : Router.Operation.abandon slot = operation at does
    cases does with
    | abandon own held' =>
      cases abandoned
      exact other (named.slots u t _ _ _ own calls held' held)
    | _ => cases abandoned

def Began (states : List Traffic) (t : TaskId) (call : Call) (start : Traffic) : Prop :=
  start ∈ states ∧ start.part t = .calling { call with phase := .register }

inductive Fails (states : List Traffic) (now : Nat) (t : TaskId) (call : Call) (e : Exchange)
    (request : Message) : LinkError → Prop where
  | refused {error : LinkError} (why : e.Refuses request error) : Fails states now t call e request error
  | late {start : Traffic} (began : Began states t call start)
    (due : start.now + call.timeout.nanoseconds ≤ now) :
    Fails states now t call e request (.timeout call.timeout)

/-- How far the call of a task has come, of which all that happened so far is known. -/
structure Tracked (states : List Traffic) (l : Traffic) (t : TaskId) (call : Call) : Prop where
  inSlot : ∀ request slot, call.phase.request? = some request → call.phase.slot? = some slot →
    ∃ e, l.exchange = some e ∧ e.Tracks request.id slot (delivered request.id states)
  due : ∀ deadline, call.phase.deadline? = some deadline →
    ∃ start, Began states t call start ∧ deadline = start.now + call.timeout.nanoseconds
  forgotten : ∀ request error, call.phase = .forget request error →
    ∃ e, l.exchange = some e ∧ e.Forgets request.id ∧ delivered request.id states = [] ∧
      Fails states l.now t call e request error

def Unforeseen (l : Traffic) : Prop :=
  ∀ t call request, l.part t = .calling call → call.phase.sending? = some request →
    ∀ message ∈ l.routed, message.id ≠ request.id

theorem Began.later {states : List Traffic} {start : Traffic} (h : Began states t call start) (l : Traffic) :
    Began (l :: states) t call start :=
  ⟨List.mem_cons_of_mem _ h.1, h.2⟩

theorem Fails.later {states : List Traffic} {now now' : Nat} {error : LinkError}
    (h : Fails states now t call e request error) (l : Traffic) (later : e.Later e') (time : now ≤ now') :
    Fails (l :: states) now' t call e' request error := by
  cases h with
  | refused why => exact .refused (later.refuses why)
  | late began due => exact .late (began.later l) (Nat.le_trans due time)

theorem exists_awaits_of_delivered {states : List Traffic} (some : delivered id states ≠ []) :
    ∃ l ∈ states, l.awaits id := by
  induction states with
  | nil => exact absurd rfl some
  | cons l' states ih =>
    cases states with
    | nil => exact absurd rfl some
    | cons l past =>
      by_cases before : delivered id (l :: past) = []
      · rw [delivered, before, List.nil_append] at some
        obtain ⟨message, member⟩ := List.exists_mem_of_ne_nil _ some
        have mine := (List.mem_filter.1 member).2
        have awaited : message.id = id ∧ l.awaits id = true := of_decide_eq_true mine
        exact ⟨l, by simp, awaited.2⟩
      · obtain ⟨former, member, awaits⟩ := ih before
        exact ⟨former, List.mem_cons_of_mem _ member, awaits⟩

theorem Course.delivered_fresh (course : Course (l :: past)) (distinct : Distinct (l.nextId + 1)) :
    delivered (.fresh l.nextId) (l :: past) = [] := by
  have smaller : Distinct l.nextId := fun i j less less' => distinct i j (by omega) (by omega)
  apply Classical.byContradiction
  intro some
  obtain ⟨former, member, awaits⟩ := exists_awaits_of_delivered some
  obtain ⟨named, bounded⟩ := course.named smaller former member
  unfold Traffic.awaits at awaits
  obtain ⟨e, here, awaited⟩ := (Option.any_eq_true _ _).1 awaits
  unfold Router.awaits at awaited
  obtain ⟨slot, found, _⟩ := (Option.any_eq_true _ _).1 awaited
  obtain ⟨k, less, same⟩ := named.pending e _ slot here found
  exact absurd (distinct _ k (by omega) (by omega) same) (by omega)

/-- The connection goes on from `e` to `e'` and brings `more` to a call, which has no part in that. -/
structure Spares (e e' : Exchange) (id : MessageId) (slot? : Option SlotId) (more : List Message) : Prop where
  later : e.Later e'
  tracks : ∀ slot came, slot? = some slot → e.Tracks id slot came → e'.Tracks id slot (came ++ more)
  forgets : e.Forgets id → e'.Forgets id ∧ more = []

theorem Spares.of_alike (alike : e.Alike e') (slot? : Option SlotId) : Spares e e' id slot? [] where
  later := alike.later
  tracks slot came _ tracks := by
    rw [List.append_nil]
    exact alike.tracks tracks
  forgets forgets := ⟨alike.forgets forgets, rfl⟩

theorem Spares.of_performs {operation : Router.Operation} (performs : e.Performs operation e')
    {slot? : Option SlotId} (new : operation.expected? ≠ some id) (uncancelled : operation ≠ .cancel id)
    (unabandoned : ∀ slot, slot? = some slot → operation ≠ .abandon slot)
    (closing : operation = .failAll → e.closed) : Spares e e' id slot? (e.brings id operation) where
  later := performs.later
  tracks slot _ held tracks := performs.tracks tracks new (unabandoned slot held) uncancelled closing
  forgets forgets :=
    ⟨forgets.perform new performs.router, Exchange.brings_of_not_awaits forgets.not_awaits operation⟩

theorem Tracked.stay (tracked : Tracked (l :: past) l t call) (time : l.now ≤ l'.now)
    (spared : ∀ request e, call.phase.request? = some request → l.exchange = some e →
      ∃ e' more, l'.exchange = some e' ∧ Spares e e' request.id call.phase.slot? more ∧
        delivered request.id (l' :: l :: past) = delivered request.id (l :: past) ++ more) :
    Tracked (l' :: l :: past) l' t call where
  inSlot request slot requested held := by
    obtain ⟨e, here, tracks⟩ := tracked.inSlot request slot requested held
    obtain ⟨e', more, after, spares, came⟩ := spared request e requested here
    rw [came]
    exact ⟨e', after, spares.tracks slot _ held tracks⟩
  due deadline has := by
    obtain ⟨start, began, same⟩ := tracked.due deadline has
    exact ⟨start, began.later l', same⟩
  forgotten request error failed := by
    obtain ⟨e, here, forgets, nothing, fails⟩ := tracked.forgotten request error failed
    obtain ⟨e', more, after, spares, came⟩ := spared request e (by rw [failed]; rfl) here
    obtain ⟨forgets', none⟩ := spares.forgets forgets
    rw [came, nothing, none]
    exact ⟨e', after, forgets', rfl, fails.later l' spares.later time⟩

theorem Act.now_eq (h : l.Act p p' l') : l'.now = l.now := by
  cases h with
  | mild same | rest same => exact same.now
  | begin | quit | deal => rfl

theorem Tracked.other (tracked : Tracked (l :: past) l t call) (named : l.Named) (distinct : Distinct n)
    (bounded : l'.nextId ≤ n) (fits : l.Fits) (act : l.Act (l.part u) p' l') (other : u ≠ t)
    (calls : l.part t = .calling call) :
    Tracked (l'.setPart u p' :: l :: past) (l'.setPart u p') t call := by
  refine tracked.stay (Nat.le_of_eq act.now_eq.symm) fun request e requested here => ?_
  obtain ⟨e', after, alike | ⟨operation, does, performs, next⟩⟩ := act.effect here
  · refine ⟨e', [], after, .of_alike alike _, ?_⟩
    rw [List.append_nil]
    exact delivered_of_alike here after alike
  · obtain ⟨new, uncancelled, unabandoned⟩ := named.apart distinct bounded does next other calls requested
    refine ⟨e', _, after, .of_performs performs new uncancelled unabandoned ?_,
      delivered_of_performs here after performs⟩
    rintro rfl
    generalize failing : Router.Operation.failAll = operation at does
    cases does with
    | failAll own =>
      have part := fits.part u
      rw [own] at part
      obtain ⟨e₁, same, closed, _⟩ := part
      cases here.symm.trans same
      exact closed
    | _ => cases failing

section Own

variable {kind : MessageKind} {payload : Bytes} {timeout : Duration} {deadline : Nat} {phase : Sending}
  {error : LinkError} {states : List Traffic}

theorem Tracked.unfilled (tracked : Tracked states l t ⟨kind, payload, timeout, .send request slot deadline phase⟩)
    (unforeseen : l.Unforeseen)
    (calls : l.part t = .calling ⟨kind, payload, timeout, .send request slot deadline phase⟩)
    (here : l.exchange = some e) : ∀ message, e.router.slots[slot]? ≠ some (.filled message) := by
  intro message filled
  obtain ⟨e₁, same, tracks⟩ := tracked.inSlot request slot rfl rfl
  cases here.symm.trans same
  generalize delivered _ states = came at tracks
  cases tracks with
  | waiting isOpen => cases filled.symm.trans isOpen.waits
  | closed isClosed => cases filled.symm.trans isClosed
  | filled _ _ own routed =>
    refine unforeseen t _ request calls rfl _ ?_ own
    simp only [Traffic.routed, here]
    exact routed

theorem Tracked.abandon {former : Calling} (tracked : Tracked (l :: past) l t ⟨kind, payload, timeout, former⟩)
    (requested : former.request? = some request) (held : former.slot? = some slot)
    (here : l.exchange = some e) (after : l'.exchange = some (e.abandon slot))
    (unfilled : ∀ message, e.router.slots[slot]? ≠ some (.filled message))
    (fails : Fails (l' :: l :: past) l'.now t ⟨kind, payload, timeout, former⟩ e request error) :
    Tracked (l' :: l :: past) l' t ⟨kind, payload, timeout, .forget request error⟩ where
  inSlot _ _ _ held := nomatch held
  due _ has := nomatch has
  forgotten := by
    rintro _ _ ⟨⟩
    obtain ⟨e₁, same, tracks⟩ := tracked.inSlot request slot requested held
    cases here.symm.trans same
    obtain ⟨forgets, nothing⟩ := tracks.abandon unfilled
    refine ⟨_, after, forgets, ?_, ?_⟩
    · rw [← nothing]
      apply delivered_of_routed
      simp only [Traffic.routed, here, after, Exchange.abandon]
    · have later : e.Later (e.abandon slot) := ⟨rfl, id, id, id⟩
      cases fails with
      | refused why => exact .refused (later.refuses why)
      | late began due => exact .late began due

theorem Tracked.act {former later : Calling} {progress : Progress Calling (Except LinkError Bytes)} {n' : Nat}
    (course : Course (l :: past)) (distinct : Distinct n) (bounded : n' ≤ n)
    (tracked : Tracked (l :: past) l t ⟨kind, payload, timeout, former⟩) (unforeseen : l.Unforeseen)
    (calls : l.part t = .calling ⟨kind, payload, timeout, former⟩) (here : l.exchange = some e)
    (after : l'.exchange = some e') (time : l'.now = l.now)
    (act : Calling.Act l.now l.nextId e ⟨kind, payload, timeout, former⟩ former progress n' e')
    (goesOn : progress = .going later) : Tracked (l' :: l :: past) l' t ⟨kind, payload, timeout, later⟩ := by
  have unmoved : e'.routed = e.routed → ∀ id,
      delivered id (l' :: l :: past) = delivered id (l :: past) := by
    intro same id
    apply delivered_of_routed
    simp only [Traffic.routed, here, after]
    exact same
  -- A call that goes on sending, or has sent its request, is where it was.
  have onward : ∀ later : Calling, e' = e → later.request? = former.request? →
      later.slot? = former.slot? → later.deadline? = former.deadline? →
      (∀ request error, later ≠ .forget request error) →
      Tracked (l' :: l :: past) l' t ⟨kind, payload, timeout, later⟩ := by
    intro later same request slot deadline unforgotten
    refine ⟨fun request' slot' requested held => ?_, fun deadline' has => ?_,
      fun request' error forgotten => absurd forgotten (unforgotten request' error)⟩
    · dsimp only at requested held
      rw [request] at requested
      rw [slot] at held
      obtain ⟨e₁, here', tracks⟩ := tracked.inSlot request' slot' requested held
      cases here.symm.trans here'
      rw [unmoved (congrArg Exchange.routed same)]
      exact ⟨e', after, same ▸ tracks⟩
    · dsimp only at has
      rw [deadline] at has
      obtain ⟨start, began, due⟩ := tracked.due deadline' has
      exact ⟨start, began.later l', due⟩
  -- The time of the call is over.
  have late : ∀ {request : Message} {deadline : Nat}, former.deadline? = some deadline → deadline ≤ l.now →
      Fails (l' :: l :: past) l'.now t ⟨kind, payload, timeout, former⟩ e request (.timeout timeout) := by
    intro request deadline has due
    obtain ⟨start, began, same⟩ := tracked.due deadline has
    refine .late (began.later l') ?_
    rw [time, ← same]
    exact due
  cases act with
  | register =>
    cases goesOn
    have tidy := course.tidy l (List.mem_cons_self ..) e here
    refine ⟨?_, ?_, fun _ _ forgotten => nomatch forgotten⟩
    · rintro _ _ ⟨⟩ ⟨⟩
      have fresh := course.delivered_fresh fun i j less less' =>
        distinct i j (Nat.lt_of_lt_of_le less bounded) (Nat.lt_of_lt_of_le less' bounded)
      refine ⟨_, after, ?_⟩
      dsimp only [Message.request]
      rw [unmoved rfl, fresh]
      exact .waiting (tidy.bounded.open_expect _)
    · rintro _ ⟨⟩
      exact ⟨l, ⟨by simp, calls⟩, rfl⟩
  | goOn later isOpen nearer =>
    cases goesOn
    exact onward _ rfl rfl rfl rfl fun _ _ same => nomatch same
  | sent checked =>
    cases goesOn
    exact onward _ rfl rfl rfl rfl fun _ _ same => nomatch same
  | fail why =>
    cases goesOn
    exact tracked.abandon rfl rfl here after (tracked.unfilled unforeseen calls here) (.refused why)
  | expire due =>
    cases goesOn
    exact tracked.abandon rfl rfl here after (tracked.unfilled unforeseen calls here) (late rfl due)
  | expireWaiting due waits =>
    cases goesOn
    refine tracked.abandon rfl rfl here after (fun message filled => ?_) (late rfl due)
    cases filled.symm.trans waits
  | answer filled => cases goesOn
  | lose unfilled settled =>
    cases goesOn
    refine ⟨fun _ _ _ held => (nomatch held), fun _ has => (nomatch has), ?_⟩
    rintro _ _ ⟨⟩
    obtain ⟨e₁, here', tracks⟩ := tracked.inSlot _ _ rfl rfl
    cases here.symm.trans here'
    refine ⟨_, after, ?_⟩
    rw [unmoved rfl]
    generalize delivered _ (l :: past) = came at tracks
    cases tracks with
    | waiting isOpen => exact absurd isOpen.waits settled
    | closed _ gone closed =>
      refine ⟨fun slot found => ?_, rfl, .refused (.ending (.inl closed))⟩
      cases gone.symm.trans found
    | filled filled => exact absurd filled (unfilled _)
  | forget => cases goesOn

end Own

theorem tracked_of_unnamed {states : List Traffic} (none : call.phase.request? = none) :
    Tracked states l t call := by
  obtain ⟨kind, payload, timeout, phase⟩ := call
  cases phase with
  | register =>
    exact ⟨fun _ _ named => (nomatch named), fun _ has => (nomatch has), fun _ _ failed => (nomatch failed)⟩
  | send | wait | forget => cases none

theorem Tracked.move (course : Course (l :: past)) (distinct : Distinct n) (bounded : l'.nextId ≤ n)
    (named : l.Named) (unforeseen : l.Unforeseen) (move : l.Move l')
    (tracked : ∀ t call, l.part t = .calling call → Tracked (l :: past) l t call)
    (calls : l'.part t = .calling call) : Tracked (l' :: l :: past) l' t call := by
  have fits := course.fits l (List.mem_cons_self ..)
  cases move with
  | @act u p p' l' was act =>
    subst was
    rcases setPart_calling calls act.part_eq with ⟨rfl, result⟩ | ⟨other, before⟩
    · generalize was : l.part t = p at act
      cases act with
      | mild same =>
        refine (tracked t call (was.trans result)).stay (Nat.le_of_eq same.now.symm) ?_
        intro request e requested here
        obtain ⟨e', after, mild⟩ := same.after here
        refine ⟨e', [], after, .of_alike mild.alike _, ?_⟩
        rw [List.append_nil]
        exact delivered_of_alike here after mild.alike
      | begin begun new =>
        cases result
        exact tracked_of_unnamed (by rw [new]; rfl)
      | rest | quit => cases result
      | deal here step =>
        cases step with
        | @call former _ progress _ _ current act =>
          obtain ⟨kind, payload, timeout, phase⟩ := former
          cases current
          cases progress with
          | ended => cases result
          | going later =>
            cases result
            exact (tracked t _ was).act course distinct bounded unforeseen was here rfl rfl act rfl
        | _ => cases result
    · exact (tracked t call before).other named distinct bounded fits act (fun same => other same.symm) before
  | arrive absent idle new =>
    apply tracked_of_unnamed
    rcases setPart_calling calls rfl with ⟨_, result⟩ | ⟨_, before⟩
    · cases result
      rw [new]
      rfl
    · have nameless := fits.part t
      rw [before] at nameless
      exact nameless absent
  | elapse later =>
    refine (tracked t call calls).stay later fun request e requested here => ?_
    have alike : e.Alike e := ⟨rfl, rfl, rfl, .refl e⟩
    refine ⟨e, [], here, .of_alike alike _, ?_⟩
    rw [List.append_nil]
    exact delivered_of_routed rfl

theorem Course.tracked (course : Course (l :: past)) (distinct : Distinct l.nextId)
    (unforeseen : ∀ former ∈ past, former.Unforeseen) :
    ∀ t call, l.part t = .calling call → Tracked (l :: past) l t call := by
  generalize all : l :: past = states at course
  induction course generalizing l past with
  | start none idle =>
    cases all
    intro t call calls
    cases (idle t).symm.trans calls
  | @move before after earlier course move ih =>
    cases all
    have smaller : Distinct before.nextId := fun i j less less' =>
      distinct i j (Nat.lt_of_lt_of_le less move.nextId_le) (Nat.lt_of_lt_of_le less' move.nextId_le)
    have former := ih smaller (fun l member => unforeseen l (List.mem_cons_of_mem _ member)) rfl
    have named := (course.named smaller before (List.mem_cons_self ..)).1
    intro t call calls
    exact Tracked.move course distinct (Nat.le_refl _) named (unforeseen before (List.mem_cons_self ..)) move
      former calls

def Fallen (l : Traffic) : Prop :=
  (∃ e, l.exchange = some e ∧ e.stage = .closed) ∨ ∃ t, l.part t = .failed

structure Settled (l : Traffic) (e : Exchange) : Prop where
  closed : e.closed
  halted : e.halted
  slots : ∀ t call slot, l.part t = .calling call → call.phase.admitted? = some slot →
    e.router.slots[slot]? ≠ some .waiting

theorem ne_waiting_of_later (h : e.Alike e' ∨ ∃ operation, e.Performs operation e')
    (inside : slot < e.router.slots.length) (settled : e.router.slots[slot]? ≠ some .waiting) :
    e'.router.slots[slot]? ≠ some .waiting := by
  have found := List.getElem?_eq_getElem inside
  rcases h with alike | ⟨operation, performs⟩
  · rw [alike.slots]
    exact settled
  · rw [performs.router]
    intro waits
    have content : e.router.slots[slot] ≠ .waiting := fun same => settled (found.trans (congrArg some same))
    rw [Exchange.slots_perform_of_settled found content] at waits
    exact content (Option.some.inj waits)

theorem Act.admitted (h : l.Act p (.calling call) l') (here : l.exchange = some e) (closed : e.closed)
    (held : call.phase.admitted? = some slot) :
    ∃ phase, p = .calling { call with phase } ∧ phase.admitted? = some slot := by
  cases h with
  | mild => exact ⟨call.phase, rfl, held⟩
  | begin _ new =>
    rw [new] at held
    cases held
  | deal here' step =>
    cases here.symm.trans here'
    generalize result : Part.calling call = p' at step
    cases step with
    | @call was _ _ _ _ current act =>
      obtain ⟨kind, payload, timeout, phase⟩ := was
      cases current
      cases act with
      | @goOn _ _ _ phase _ later isOpen =>
        cases result
        simp only [Calling.admitted?, later, if_true] at held
        cases checked : phase.checked with
        | true =>
          refine ⟨_, rfl, ?_⟩
          simp only [Calling.admitted?, checked, if_true]
          exact held
        | false =>
          rw [isOpen checked] at closed
          cases closed
      | sent checked =>
        cases result
        refine ⟨_, rfl, ?_⟩
        simp only [Calling.admitted?, checked, if_true]
        exact held
      | register | fail | expire | expireWaiting | lose =>
        cases result
        cases held
      | answer | forget => cases result
    | _ => cases result

theorem slot?_of_admitted? {phase : Calling} (h : phase.admitted? = some slot) : phase.slot? = some slot := by
  cases phase with
  | send request other deadline sending =>
    simp only [Calling.admitted?] at h
    split at h
    · exact h
    · cases h
  | wait => exact h
  | register | forget => cases h

theorem Settled.move (settled : l.Settled e) (here : l.exchange = some e) (named : l.Named)
    (move : l.Move l') : ∃ e', l'.exchange = some e' ∧ l'.Settled e' := by
  have inside : ∀ {t call slot}, l.part t = .calling call → call.phase.admitted? = some slot →
      slot < e.router.slots.length := by
    intro t call slot calls held
    obtain ⟨e₁, here', less⟩ := named.slot t call slot calls (slot?_of_admitted? held)
    cases here.symm.trans here'
    exact less
  cases move with
  | @act u p p' l' was act =>
    obtain ⟨e', after, effect⟩ := act.effect here
    obtain ⟨_, after', later⟩ := act.later here
    cases after.symm.trans after'
    have performed : e.Alike e' ∨ ∃ operation, e.Performs operation e' :=
      effect.imp_right fun ⟨operation, _, performs, _⟩ => ⟨operation, performs⟩
    have kept : ∀ slot, slot < e.router.slots.length → e.router.slots[slot]? ≠ some .waiting →
        e'.router.slots[slot]? ≠ some .waiting := fun _ => ne_waiting_of_later performed
    refine ⟨e', after, later.closed settled.closed, later.halted settled.halted, ?_⟩
    intro t call slot calls held
    rcases setPart_calling calls act.part_eq with ⟨rfl, rfl⟩ | ⟨_, before⟩
    · obtain ⟨phase, before, held'⟩ := act.admitted here settled.closed held
      rw [before] at was
      exact kept slot (inside was held') (settled.slots _ _ slot was held')
    · exact kept slot (inside before held) (settled.slots _ _ slot before held)
  | arrive absent => cases here.symm.trans absent
  | elapse => exact ⟨e, here, settled.closed, settled.halted, settled.slots⟩

theorem settled_of_fail {states : List Traffic} (fits : l.Fits) (failing : l.part u = .failing)
    (here : l.exchange = some e)
    (tracked : ∀ t call, l.part t = .calling call → Tracked states l t call)
    (same : ∀ t call, l'.part t = .calling call → l.part t = .calling call) :
    l'.Settled { e with router := e.router.failAll.2 } := by
  have part := fits.part u
  rw [failing] at part
  obtain ⟨e₁, here', closed, halted⟩ := part
  cases here.symm.trans here'
  refine ⟨closed, halted, fun t call slot calls held => ?_⟩
  have before := same t call calls
  have holds := slot?_of_admitted? held
  have named : ∃ request, call.phase.request? = some request := by
    cases phase : call.phase with
    | register =>
      rw [phase] at holds
      cases holds
    | _ => exact ⟨_, rfl⟩
  obtain ⟨request, requested⟩ := named
  obtain ⟨e₁, here', tracks⟩ := (tracked t call before).inSlot request slot requested holds
  cases here.symm.trans here'
  generalize delivered request.id states = came at tracks
  intro waits
  cases tracks with
  | waiting isOpen =>
    have closed : (e.router.perform .failAll).slots[slot]? = some .closed :=
      isOpen.settle (fun made => nomatch made) rfl
    cases closed.symm.trans waits
  | closed isClosed =>
    have kept : (e.router.perform .failAll).slots[slot]? = some .closed :=
      Exchange.slots_perform_of_settled isClosed fun same => Slot.noConfusion same
    cases kept.symm.trans waits
  | @filled message filled =>
    have kept : (e.router.perform .failAll).slots[slot]? = some (.filled message) :=
      Exchange.slots_perform_of_settled filled fun same => Slot.noConfusion same
    cases kept.symm.trans waits

theorem Move.fallen (move : l.Move l') (fallen : l'.Fallen) (fits : l.Fits)
    (tracked : ∀ t call, l.part t = .calling call → Tracked (l :: past) l t call) :
    l.Fallen ∨ ∃ e', l'.exchange = some e' ∧ l'.Settled e' := by
  cases move with
  | @act u p p' l' was act =>
    rcases fallen with ⟨e', after, atEnd⟩ | ⟨t, failed⟩
    · left
      have mild : l.Mild l' → l.Fallen := by
        intro same
        obtain ⟨e, before, mild⟩ := same.before after
        exact .inl ⟨e, before, mild.stage atEnd⟩
      cases act with
      | mild same | rest same => exact mild same
      | begin | quit => exact .inl ⟨e', after, atEnd⟩
      | deal here step =>
        cases after
        cases step with
        | call _ act => cases act <;> exact .inl ⟨_, here, atEnd⟩
        | publish => exact .inr ⟨u, was⟩
        | _ => exact .inl ⟨_, here, atEnd⟩
    · by_cases own : t = u
      · subst own
        have result : p' = .failed := by simpa [setPart] using failed
        subst result
        cases act with
        | mild => exact .inl (.inr ⟨t, was⟩)
        | deal here step =>
          generalize result : Part.failed = p' at step
          cases step with
          | fail =>
            refine .inr ⟨_, rfl, settled_of_fail fits was here tracked fun v call calls => ?_⟩
            rcases setPart_calling calls rfl with ⟨_, failed⟩ | ⟨_, before⟩
            · cases failed
            · exact before
          | @call call _ progress _ _ current act => cases progress <;> cases result
          | _ => cases result
      · refine .inl (.inr ⟨t, ?_⟩)
        rw [← act.part_eq]
        simpa [setPart, own] using failed
  | @arrive u e call absent idle new calls routed stage =>
    rcases fallen with ⟨e', after, atEnd⟩ | ⟨t, failed⟩
    · cases after
      rw [stage] at atEnd
      cases atEnd
    · refine .inl (.inr ⟨t, ?_⟩)
      by_cases own : t = u
      · simp [setPart, own] at failed
      · simpa [setPart, own] using failed
  | elapse => exact .inl fallen

/-- Once someone has failed the calls, no call waits for a response any more. -/
theorem Course.settled (course : Course (l :: past)) (distinct : Distinct l.nextId)
    (unforeseen : ∀ former ∈ past, former.Unforeseen) (fallen : ∃ former ∈ l :: past, former.Fallen) :
    ∃ e, l.exchange = some e ∧ l.Settled e := by
  generalize all : l :: past = states at course
  induction course generalizing l past with
  | start none idle =>
    cases all
    obtain ⟨former, member, fallen⟩ := fallen
    rw [List.mem_singleton.1 member] at fallen
    rcases fallen with ⟨e, here, _⟩ | ⟨t, failed⟩
    · cases none.symm.trans here
    · cases (idle t).symm.trans failed
  | @move before after earlier course move ih =>
    cases all
    have smaller : Distinct before.nextId := fun i j less less' =>
      distinct i j (Nat.lt_of_lt_of_le less move.nextId_le) (Nat.lt_of_lt_of_le less' move.nextId_le)
    have unforeseen' : ∀ former ∈ earlier, former.Unforeseen := fun l member =>
      unforeseen l (List.mem_cons_of_mem _ member)
    have onward : (∃ former ∈ before :: earlier, former.Fallen) →
        ∃ e, after.exchange = some e ∧ after.Settled e := by
      intro fallen
      obtain ⟨e, here, settled⟩ := ih smaller unforeseen' fallen rfl
      exact settled.move here (course.named smaller before (List.mem_cons_self ..)).1 move
    obtain ⟨former, member, fallen⟩ := fallen
    rcases List.mem_cons.1 member with rfl | member
    · have fits := course.fits before (List.mem_cons_self ..)
      rcases move.fallen fallen fits (course.tracked smaller unforeseen') with earlier | now
      · exact onward ⟨before, List.mem_cons_self .., earlier⟩
      · exact now
    · exact onward ⟨former, member, fallen⟩

end Traffic

end Fleetwire
