import Fleetwire.Proofs.Actions
import Fleetwire.Proofs.Lifecycle.Bystanders

namespace Fleetwire

open Fleetwire.System

namespace Supervising

variable {s : System} {c : ConnectionId} {t : TaskId} {connection : Connection}

abbrev Goes (s : System) (c : ConnectionId) (t : TaskId) (phase : Supervising)
    (out : Supervising × System) : Prop :=
  Task.Goes s t (.supervise c phase) out.2 (.supervise c out.1)

theorem quiet_update_served {f : Connection → Connection} (served : s.serves c)
    (life : ∀ x, (f x).life = x.life) (supervised : ∀ x, (f x).supervised = x.supervised) :
    s.Quiet (s.update c f) := by
  apply Quiet.update life supervised
  intro x found unserved _
  obtain ⟨y, here, isServed⟩ := serves_iff.1 served
  rw [found] at here
  cases here
  rw [supervised, isServed] at unserved
  cases unserved

theorem leave_quiet (served : s.serves c) (departure : Departure) :
    s.Quiet (leave s c departure).2 :=
  quiet_update_served served (fun _ => rfl) fun _ => rfl

theorem receive_quiet {payload : Bytes} {inbox : FrameBuffer} (served : s.serves c) :
    s.Quiet (receive s c connection payload inbox) := by
  unfold receive
  split
  · have kept : s.Quiet (s.update c fun x => { x with inbox }) :=
      quiet_update_served served (fun _ => rfl) fun _ => rfl
    exact kept.trans (Quiet.logs ..)
  next message _ =>
    obtain ⟨fate, lines, router⟩ := connection.router.route message
    have routed : s.Quiet (s.update c fun x =>
        { x with inbox, router, routed := x.routed ++ [message] }) :=
      quiet_update_served served (fun _ => rfl) fun _ => rfl
    have logged := routed.trans (Quiet.logs _ lines)
    dsimp only
    split
    · exact logged.trans ⟨Keeps.spawn (Task.proper_of_serves rfl rfl rfl (logged.serves c served)),
        lifecycle_spawn_none rfl⟩
    · exact logged

theorem goes_sharing {phase phase' : Supervising} {s' : System} {deed : Deed} {l : Lifecycle}
    (found : s.tasks[t]? = some (.supervise c phase)) (here : s.connections[c]? = some connection)
    (keeps : s.Keeps s') (proper : (Task.supervise c phase').Proper s')
    (step : phase.stance.Step t connection.life deed connection.life phase'.stance)
    (does : s.lifecycle.Does s.collaborators.mayFail t c deed l) (lifecycle : s'.lifecycle = l) :
    Goes s c t phase (phase', s') :=
  Task.Goes.sharing here keeps proper lifecycle does.life
    (.supervise (duty_of_task found) (life_of_connection here) step does)

theorem goes_alone {phase phase' : Supervising} {f : Connection → Connection}
    (found : s.tasks[t]? = some (.supervise c phase)) (here : s.connections[c]? = some connection)
    (keeps : s.Keeps (s.update c f)) (proper : (Task.supervise c phase').Proper (s.update c f))
    (step : phase.stance.Step t connection.life .nothing (f connection).life phase'.stance) :
    Goes s c t phase (phase', s.update c f) :=
  Task.Goes.move keeps proper (lifecycle_update here)
    (Lifecycle.Move.supervise (duty_of_task found) (life_of_connection here) step .nothing)

theorem unregister_goes {failed : Nat} {identity : String} (served : s.serves c)
    (found : s.tasks[t]? = some (.supervise c (.awaitIdentity failed identity)))
    (here : s.connections[c]? = some connection) (held : s.holdsIdentity identity t) :
    Goes s c t (.awaitIdentity failed identity) (unregister s c failed identity) := by
  by_cases holder : s.directory.get? identity = some c
  · have removed : s.Keeps { s with directory := (s.directory.remove identity).2 } := by
      refine Keeps.of_same rfl rfl rfl ?_
      intro other x entry
      rw [Directory.get?_remove] at entry
      split at entry
      · cases entry
      · exact Or.inl entry
    simp only [unregister, Directory.removeIfHolder, holder, if_true]
    exact goes_sharing found here removed (Task.proper_of_errand rfl rfl rfl rfl fun other member =>
      List.mem_singleton.1 member ▸ served) .remove (.remove held holder) lifecycle_remove
  · simp only [unregister, Directory.removeIfHolder, holder, if_false]
    exact goes_sharing found here (Keeps.refl s) (Task.proper_of_serves rfl rfl rfl served) .pass
      (.pass held holder) rfl

theorem marking_goes {failed : Nat} {identity : String} {errand : Errand} {failure : Option (List String)} {s₁ : System}
    (proper : s.Proper) (found : s.tasks[t]? = some (.supervise c (.marking failed identity errand)))
    (here : s.connections[c]? = some connection) (delivered : s.deliver? errand = some (failure, s₁)) :
    Goes s c t (.marking failed identity errand) (.announcing failed identity
      (s₁.errand c (.publish (.disconnected identity connection.addr))), s₁) := by
  have before := proper.tasks t _ found
  obtain ⟨source, transition⟩ := before.errands c errand true rfl
  obtain ⟨keeps, told, excused⟩ := deliver?_tells transition delivered
  rw [source] at told
  have relies : ∀ other ∈ [c], s₁.serves other := fun other member =>
    keeps.serves other (before.relies other member)
  exact goes_sharing found here keeps (Task.proper_of_errand rfl rfl rfl rfl relies) .markOffline
    (.tell errand.report failure.isSome excused) told

theorem proper_plain {phase : Supervising} (served : s.serves c)
    (errand : (Task.supervise c phase).errand? = none) : (Task.supervise c phase).Proper s := by
  apply Task.proper_of_plain rfl errand
  intro other member
  cases phase with
  | spawned => cases member
  | _ => exact List.mem_singleton.1 member ▸ served

theorem spawned_goes (found : s.tasks[t]? = some (.supervise c .spawned))
    (here : s.connections[c]? = some connection) :
    Goes s c t .spawned (.serving, s.update c fun x => { x with supervised := true }) := by
  have begins : s.Quiet (s.update c fun x => { x with supervised := true }) :=
    ⟨Keeps.update (fun _ _ => rfl) (fun _ _ unserved => by cases unserved),
      lifecycle_update_same fun _ => rfl⟩
  have served : (s.update c fun x => { x with supervised := true }).serves c := by
    simp [serves_iff, System.update, here]
  exact Task.Goes.quiet found begins (proper_plain served rfl) rfl

theorem Action.goes {phase : Supervising} {out : Supervising × System} (proper : s.Proper)
    (found : s.tasks[t]? = some (.supervise c phase)) (here : s.connections[c]? = some connection)
    (action : Action s c t connection phase out) : Goes s c t phase out := by
  have before := proper.tasks t _ found
  have update : ∀ f : Connection → Connection, (∀ x, (f x).supervised = x.supervised) →
      (∀ x, (f x).router = x.router) → s.Keeps (s.update c f) := fun f supervised router =>
    Keeps.update (fun x h => (supervised x).trans h) fun x _ _ h => h.of_slots (by rw [router x])
  have stay := Keeps.refl s
  by_cases new : phase = .spawned
  · subst new
    cases action
    exact spawned_goes found here
  have served : s.serves c := by
    cases phase with
    | spawned => exact absurd rfl new
    | _ => exact before.relies c (List.mem_singleton_self c)
  have quiet : ∀ {phase' : Supervising} {s' : System}, s.Quiet s' → phase'.stance = phase.stance →
      (Task.supervise c phase').errand? = none → Goes s c t phase (phase', s') :=
    fun quiet same errand => Task.Goes.quiet found quiet
      (proper_plain (quiet.serves c served) errand) (congrArg (Duty.supervise c) same)
  cases action with
  | start => exact absurd rfl new
  | receive => exact quiet (receive_quiet served) rfl rfl
  | fetch | load | write | halt | failAll =>
    exact quiet (quiet_update_served served (fun _ => rfl) fun _ => rfl) rfl rfl
  | @reject envelope outbox error =>
    have taken : s.Quiet (s.update c fun x => { x with outbox }) :=
      quiet_update_served served (fun _ => rfl) fun _ => rfl
    exact quiet (taken.trans (leave_quiet (taken.serves c served) (.unsent error))) rfl rfl
  | @leave departure => exact quiet (leave_quiet served departure) rfl rfl
  | remark => exact quiet (Quiet.logs ..) rfl rfl
  | forgo closed => exact goes_sharing found here stay (proper_plain served rfl) (.forgo closed) .nothing rfl
  | claim isOpen =>
    have keeps : s.Keeps (s.update c fun x => { x with closed := true }) := update _ (fun _ => rfl) fun _ => rfl
    exact goes_alone found here keeps (proper_plain (keeps.serves c served) rfl) (.close isOpen)
  | queueLifecycle =>
    have keeps : s.Keeps (s.queueLifecycle c t) := update _ (fun _ => rfl) fun _ => rfl
    exact goes_alone found here keeps (proper_plain (keeps.serves c served) rfl) .queueLifecycle
  | skip held unknown =>
    exact goes_sharing found here stay (proper_plain served rfl) (.skip held unknown) .nothing rfl
  | @queueIdentity failed identity held known =>
    have keeps : s.Keeps (s.queueIdentity identity t) :=
      Keeps.of_same rfl rfl rfl fun _ _ entry => Or.inl entry
    exact goes_sharing found here keeps (proper_plain (keeps.serves c served) rfl)
      (.queueIdentity held known) (.join identity) lifecycle_queueIdentity
  | unregister held => exact unregister_goes served found here held
  | mark delivered => exact marking_goes proper found here delivered
  | complain delivered => exact Task.Goes.after_quiet (marking_goes proper found here delivered) (Quiet.log ..)
  | @announce failed identity errand s₁ published =>
    obtain ⟨source, transition⟩ := before.errands c errand true rfl
    obtain ⟨failed, keeps, told, excused⟩ := publish?_tells transition published
    rw [source] at told
    exact goes_sharing found here keeps (proper_plain (keeps.serves c served) rfl) .announce
      (.tell errand.report failed excused) told
  | @releaseIdentity failed identity authoritative =>
    have keeps : s.Keeps (s.releaseIdentity identity t) :=
      Keeps.of_same rfl rfl rfl fun _ _ entry => Or.inl entry
    exact goes_sharing found here keeps (proper_plain (keeps.serves c served) rfl) .releaseIdentity
      (.leave identity) lifecycle_releaseIdentity
  | releaseLifecycle =>
    have keeps : s.Keeps (s.releaseLifecycle c t) := update _ (fun _ => rfl) fun _ => rfl
    exact goes_alone found here keeps (proper_plain (keeps.serves c served) rfl) .releaseLifecycle
  | farewell => exact quiet (Quiet.log ..) rfl rfl
  | publish =>
    have keeps : s.Keeps (s.update c fun x => { x with stage := .closed }) :=
      update _ (fun _ => rfl) fun _ => rfl
    exact goes_alone found here keeps (proper_plain (keeps.serves c served) rfl) .expire

theorem next_goes {phase : Supervising} {out : Supervising × System} (proper : s.Proper)
    (found : s.tasks[t]? = some (.supervise c phase)) (h : out ∈ phase.next s c t) :
    Goes s c t phase out := by
  obtain ⟨connection, here, action⟩ := action_of_next h
  exact action.goes proper found here

end Supervising

end Fleetwire
