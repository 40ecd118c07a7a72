import Fleetwire.Proofs.Actions
import Fleetwire.Proofs.Lifecycle.Bystanders

namespace Fleetwire

open Fleetwire.System

namespace Accepting

variable {s : System} {c : ConnectionId} {t : TaskId} {connection : Connection}
  {announced : Announcement}

abbrev Goes (s : System) (c : ConnectionId) (t : TaskId) (phase : Accepting)
    (out : Accepting × System) : Prop :=
  Task.Goes s t (.accept c phase) out.2 (.accept c out.1)

theorem announcement_ok {response : Except LinkError Bytes}
    (h : announcement response = .ok announced) :
    announced.identity ≠ "" ∧ ∃ payload, response = .ok payload := by
  cases response with
  | error error => cases h
  | ok payload =>
    refine ⟨fun empty => ?_, payload, rfl⟩
    simp only [announcement, bind, Except.bind] at h
    split at h
    · cases h
    · split at h
      · cases h
      · split at h
        · cases h
        next named =>
          cases h
          rw [empty] at named
          exact named rfl

theorem goes_quiet {phase phase' : Accepting} {s' : System}
    (found : s.tasks[t]? = some (.accept c phase)) (quiet : s.Quiet s')
    (closing : (Task.accept c phase').closing? = none) (errand : (Task.accept c phase').errand? = none)
    (relies : ∀ other ∈ (Task.accept c phase').relies, s.serves other)
    (same : phase'.stance = phase.stance) : Goes s c t phase (phase', s') := by
  have proper : (Task.accept c phase').Proper s' :=
    Task.proper_of_plain closing errand fun other member => quiet.serves other (relies other member)
  apply Task.Goes.quiet found quiet proper
  exact congrArg (Duty.accept c) same

theorem goes_sharing {phase phase' : Accepting} {s' : System} {deed : Deed} {l : Lifecycle}
    (found : s.tasks[t]? = some (.accept c phase)) (here : s.connections[c]? = some connection)
    (keeps : s.Keeps s') (proper : (Task.accept c phase').Proper s')
    (step : phase.stance.Step t connection.life deed connection.life phase'.stance)
    (does : s.lifecycle.Does s.collaborators.mayFail t c deed l) (lifecycle : s'.lifecycle = l) :
    Goes s c t phase (phase', s') :=
  Task.Goes.sharing here keeps proper lifecycle does.life
    (.accept (duty_of_task found) (life_of_connection here) step does)

theorem goes_alone {phase phase' : Accepting} {f : Connection → Connection}
    (found : s.tasks[t]? = some (.accept c phase)) (here : s.connections[c]? = some connection)
    (keeps : s.Keeps (s.update c f)) (proper : (Task.accept c phase').Proper (s.update c f))
    (step : phase.stance.Step t connection.life .nothing (f connection).life phase'.stance) :
    Goes s c t phase (phase', s.update c f) :=
  Task.Goes.move keeps proper (lifecycle_update here)
    (Lifecycle.Move.accept (duty_of_task found) (life_of_connection here) step .nothing)

theorem introduce_goes {call : Call} {response : Except LinkError Bytes} {s₁ : System} (proper : s.Proper)
    (found : s.tasks[t]? = some (.accept c (.handshake call))) (here : s.connections[c]? = some connection)
    (called : (.ended response, s₁) ∈ call.next s c t) :
    Goes s c t (.handshake call) (introduce s₁ c connection response) := by
  have quiet : s.Quiet s₁ := Call.next_quiet called
  have found₁ := quiet.tasks t _ found
  obtain ⟨connection₁, here₁⟩ := quiet.connection here
  apply Task.Goes.before_quiet quiet
  dsimp only [introduce]
  split
  next error failed =>
    apply Task.Goes.after_quiet ?_ (Quiet.log ..)
    exact goes_sharing found₁ here₁ (Keeps.refl s₁) (Task.proper_of_nobody rfl rfl rfl) .refuse .nothing rfl
  next announced known =>
    obtain ⟨named, payload, rfl⟩ := announcement_ok known
    have keeps : s₁.Keeps (s₁.update c fun x => { x with announced := some announced }) :=
      Keeps.update (fun _ h => h) fun _ _ _ h => h
    have served : s₁.serves c := quiet.serves c (Call.next_ok proper called)
    apply Task.Goes.after_quiet ?_ (Quiet.log ..)
    exact goes_alone found₁ here₁ keeps
      (Task.proper_of_serves rfl rfl rfl (keeps.serves c served)) (.introduce announced named)

theorem enter_goes (proper : s.Proper) (found : s.tasks[t]? = some (.accept c .awaitIdentity))
    (here : s.connections[c]? = some connection) (known : connection.announced = some announced)
    (held : s.holdsIdentity announced.identity t) :
    Goes s c t .awaitIdentity (enter s c connection announced) := by
  have served : s.serves c := (proper.tasks t _ found).relies c (List.mem_singleton_self c)
  have known' : connection.life.identity? = some announced.identity := congrArg _ known
  have put : s.Keeps { s with directory := (s.directory.put announced.identity c).2 } := by
    refine Keeps.of_same rfl rfl rfl ?_
    intro identity other entry
    rw [Directory.get?_put] at entry
    split at entry
    · cases entry
      exact Or.inr served
    · exact Or.inl entry
  unfold enter
  split
  next evict =>
    have policy : connection.life.policy = .evict := evict
    refine goes_sharing found here put (Task.proper_of_errand rfl rfl rfl rfl ?_) (.enter known')
      (.enter held ?_) lifecycle_put
    · intro other member
      rcases List.mem_cons.1 member with rfl | displaced
      · exact put.serves _ served
      · have old := (Option.filter_eq_some_iff.1 (Option.mem_toList.1 displaced)).1
        exact put.serves _ (proper.entries announced.identity other old)
    · intro reject
      rw [policy] at reject
      cases reject
  next reject =>
    split
    next directory entered =>
      unfold Directory.putIfFree at entered
      split at entered
      · cases entered
      next free =>
        cases entered
        refine goes_sharing found here put (Task.proper_of_errand rfl rfl rfl rfl ?_) (.enter known')
          (.enter held fun _ => free) lifecycle_put
        intro other member
        exact List.mem_singleton.1 member ▸ put.serves c served
    next holder taken =>
      apply Task.Goes.after_quiet ?_ (Quiet.log ..)
      exact goes_sharing found here (Keeps.refl s) (Task.proper_of_serves rfl rfl rfl served)
        (.yield known') (.yield held) rfl

theorem marking_goes {displaced : Option ConnectionId} {errand : Errand} {failure : Option (List String)} {s₁ : System}
    (proper : s.Proper) (found : s.tasks[t]? = some (.accept c (.marking displaced errand)))
    (here : s.connections[c]? = some connection) (known : connection.announced = some announced)
    (delivered : s.deliver? errand = some (failure, s₁)) :
    Goes s c t (.marking displaced errand) (.announcing displaced
      (s₁.errand c (.publish (.connected announced.identity announced.version connection.addr))), s₁) := by
  have before := proper.tasks t _ found
  obtain ⟨source, transition⟩ := before.errands c errand true rfl
  obtain ⟨keeps, told, excused⟩ := deliver?_tells transition delivered
  rw [source] at told
  have relies : ∀ other ∈ (Task.accept c (.marking displaced errand)).relies, s₁.serves other :=
    fun other member => keeps.serves other (before.relies other member)
  exact goes_sharing found here keeps (Task.proper_of_errand rfl rfl rfl rfl relies) (.markOnline known)
    (.tell errand.report failure.isSome excused) told

theorem conclude_goes {verdict : Verdict} (proper : s.Proper)
    (found : s.tasks[t]? = some (.accept c (.releaseLifecycle verdict)))
    (here : s.connections[c]? = some connection) :
    Goes s c t (.releaseLifecycle verdict)
      (conclude (s.releaseLifecycle c t) connection announced verdict) := by
  have before := proper.tasks t _ found
  have keeps : s.Keeps (s.releaseLifecycle c t) := Keeps.update (fun _ h => h) fun _ _ _ h => h
  cases verdict with
  | gone | refused =>
    exact goes_alone found here keeps (Task.proper_of_nobody rfl rfl rfl) .conclude
  | admitted displaced =>
    cases displaced with
    | none => exact goes_alone found here keeps (Task.proper_of_nobody rfl rfl rfl) .conclude
    | some old =>
      refine Task.Goes.after_quiet ?_ (Quiet.log (s.releaseLifecycle c t) _ _ _)
      exact goes_alone found here keeps (Task.proper_of_closing rfl rfl rfl fun other member =>
        keeps.serves other (before.relies other member)) .conclude

theorem replace_goes {old : ConnectionId} {closing : Closing} {progress : Progress Closing Unit} {s₁ : System}
    (proper : s.Proper) (found : s.tasks[t]? = some (.accept c (.replace old closing)))
    (closed : (progress, s₁) ∈ closing.next s old) :
    match progress with
    | .going later => Goes s c t (.replace old closing) (.replace old later, s₁)
    | .ended () => ∀ announced, Goes s c t (.replace old closing) (.finished (.ok announced), s₁) := by
  have before := proper.tasks t _ found
  have served : s.serves old := before.relies old (List.mem_cons_of_mem _ (List.mem_singleton_self old))
  obtain ⟨quiet, waits⟩ := Closing.next_quiet served (before.waits closing rfl) closed
  cases progress with
  | going closing =>
    refine Task.Goes.quiet found quiet ?_ rfl
    exact Task.proper_of_closing rfl (waits closing rfl) rfl fun other member =>
      quiet.serves other (before.relies other member)
  | ended result => exact fun announced => goes_quiet found quiet rfl rfl (fun c member => nomatch member) rfl

theorem refuse_goes {error : LinkError} {closing : Closing} {progress : Progress Closing Unit} {s₁ : System}
    (found : s.tasks[t]? = some (.accept c (.refuse error closing))) (here : s.connections[c]? = some connection)
    (closed : (progress, s₁) ∈ closing.next s c) :
    match progress with
    | .going later => Goes s c t (.refuse error closing) (.refuse error later, s₁)
    | .ended () => Goes s c t (.refuse error closing) (.finished (.error error), s₁) := by
  cases Closing.action_of_next closed with
  | halt =>
    exact Task.Goes.quiet found (quiet_update_exchange (fun _ => rfl) (fun _ => rfl) fun _ _ h => h)
      (Task.proper_of_nobody rfl rfl rfl) rfl
  | look =>
    dsimp only
    split <;> exact Task.Goes.quiet found (Quiet.refl s) (Task.proper_of_nobody rfl rfl rfl) rfl
  | forgo | wait => exact Task.Goes.quiet found (Quiet.refl s) (Task.proper_of_nobody rfl rfl rfl) rfl
  | claim there isOpen =>
    cases here.symm.trans there
    exact goes_alone found here (Keeps.update (fun _ h => h) fun _ _ _ h => h)
      (Task.proper_of_nobody rfl rfl rfl) (.seize isOpen)
  | failAll =>
    exact Task.Goes.quiet found (quiet_update_exchange (fun _ => rfl) (fun _ => rfl) fun _ _ h => h.failAll)
      (Task.proper_of_nobody rfl rfl rfl) rfl
  | publish =>
    exact goes_alone found here (Keeps.update (fun _ h => h) fun _ _ _ h => h)
      (Task.proper_of_nobody rfl rfl rfl) .closeInPlace

theorem Action.goes {phase : Accepting} {out : Accepting × System} (proper : s.Proper)
    (found : s.tasks[t]? = some (.accept c phase)) (here : s.connections[c]? = some connection)
    (action : Action s c t connection phase out) : Goes s c t phase out := by
  have before := proper.tasks t _ found
  have named {announced : Announcement} (known : connection.announced = some announced) :
      connection.life.identity? = some announced.identity := congrArg _ known
  have goOn : ∀ {phase' : Accepting} {s' : System}, s.Keeps s' →
      (Task.accept c phase').closing? = none → (Task.accept c phase').errand? = none →
      (Task.accept c phase').relies = (Task.accept c phase).relies →
      (Task.accept c phase').Proper s' := by
    intro phase' s' keeps closing errand relies
    apply Task.proper_of_plain closing errand
    rw [relies]
    exact fun other member => keeps.serves other (before.relies other member)
  cases action with
  | ask called => exact goes_quiet found (Call.next_quiet called) rfl rfl (fun c member => nomatch member) rfl
  | introduce called => exact introduce_goes proper found here called
  | refuse closed | refused closed => exact refuse_goes found here closed
  | queueLifecycle =>
    have keeps : s.Keeps (s.queueLifecycle c t) := Keeps.update (fun _ h => h) fun _ _ _ h => h
    exact goes_alone found here keeps (goOn keeps rfl rfl rfl) .queueLifecycle
  | awaitLifecycle held =>
    have stay := Keeps.refl s
    cases closed : connection.closed with
    | true => exact goes_sharing found here stay (goOn stay rfl rfl rfl) (.findClosed held closed) .nothing rfl
    | false => exact goes_sharing found here stay (goOn stay rfl rfl rfl) (.findOpen held closed) .nothing rfl
  | @queueIdentity announced known =>
    have keeps : s.Keeps (s.queueIdentity announced.identity t) :=
      Keeps.of_same rfl rfl rfl fun _ _ entry => Or.inl entry
    exact goes_sharing found here keeps (goOn keeps rfl rfl rfl) (.queueIdentity (named known)) (.join _)
      lifecycle_queueIdentity
  | enter known held => exact enter_goes proper found here known held
  | mark known delivered => exact marking_goes proper found here known delivered
  | complain known delivered =>
    exact Task.Goes.after_quiet (marking_goes proper found here known delivered) (Quiet.log ..)
  | @announce displaced errand s₁ published =>
    obtain ⟨source, transition⟩ := before.errands c errand true rfl
    obtain ⟨failed, keeps, told, excused⟩ := publish?_tells transition published
    rw [source] at told
    exact goes_sharing found here keeps (goOn keeps rfl rfl rfl) .announce (.tell errand.report failed excused) told
  | activate =>
    have keeps : s.Keeps (s.update c fun x => { x with stage := .active }) :=
      Keeps.update (fun _ h => h) fun _ _ _ h => h
    exact goes_alone found here keeps (goOn keeps rfl rfl rfl) .activate
  | @releaseIdentity announced verdict known =>
    have keeps : s.Keeps (s.releaseIdentity announced.identity t) :=
      Keeps.of_same rfl rfl rfl fun _ _ entry => Or.inl entry
    have relies : (Task.accept c (.releaseLifecycle verdict)).relies =
        (Task.accept c (.releaseIdentity verdict)).relies := by
      cases verdict <;> rfl
    exact goes_sharing found here keeps (goOn keeps rfl rfl relies) (.releaseIdentity (named known)) (.leave _)
      lifecycle_releaseIdentity
  | conclude => exact conclude_goes proper found here
  | replace closed => exact replace_goes proper found closed
  | @replaced announced old closing s₁ _ closed => exact replace_goes proper found closed announced

theorem next_goes {phase : Accepting} {out : Accepting × System} (proper : s.Proper)
    (found : s.tasks[t]? = some (.accept c phase)) (h : out ∈ phase.next s c t) :
    Goes s c t phase out := by
  obtain ⟨connection, here, action⟩ := action_of_next h
  exact action.goes proper found here

end Accepting

end Fleetwire
