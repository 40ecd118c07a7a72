import Fleetwire.Proofs.Calls

namespace Fleetwire

structure Call.Holds (call : Call) (id : MessageId) (slot : SlotId) : Prop where
  request : ∃ request, call.phase.request? = some request ∧ request.id = id
  slot : call.phase.slot? = some slot ∨ call.phase.slot? = none

namespace Traffic

/-- The id is one of a call in progress, or of one that was broken off. -/
inductive Owned (l : Traffic) (past : List Traffic) (id : MessageId) (slot : SlotId) : Prop where
  | calling {t : TaskId} {call : Call} (calls : l.part t = .calling call) (holds : call.Holds id slot)
  | dropped {t : TaskId} {former : Traffic} {call : Call} (dropped : l.part t = .dropped)
    (earlier : former ∈ past) (called : former.part t = .calling call) (holds : call.Holds id slot)

variable {l l' : Traffic} {past : List Traffic} {t u : TaskId} {p p' : Part} {e e' : Exchange} {id : MessageId}
  {slot : SlotId} {call : Call}

theorem Owned.act (owned : l.Owned past id slot) (same : l'.part = l.part) (was : l.part t = p)
    (own : ∀ call, p = .calling call → call.Holds id slot →
      (∃ call', p' = .calling call' ∧ call'.Holds id slot) ∨ p' = .dropped)
    (dropped : p = .dropped → p' = .dropped) : (l'.setPart t p').Owned (l :: past) id slot := by
  have other : ∀ {u}, u ≠ t → (l'.setPart t p').part u = l.part u := by
    intro u different
    simp only [setPart, if_neg different, same]
  have acting : (l'.setPart t p').part t = p' := by simp [setPart]
  cases owned with
  | @calling u call calls holds =>
    by_cases mine : u = t
    · subst mine
      rcases own call (was.symm.trans calls) holds with ⟨call', result, holds'⟩ | result
      · exact .calling (acting.trans result) holds'
      · exact .dropped (acting.trans result) (List.mem_cons_self ..) calls holds
    · exact .calling ((other mine).trans calls) holds
  | @dropped u former call isDropped earlier called holds =>
    by_cases mine : u = t
    · subst mine
      exact .dropped (acting.trans (dropped (was.symm.trans isDropped))) (List.mem_cons_of_mem _ earlier)
        called holds
    · exact .dropped ((other mine).trans isDropped) (List.mem_cons_of_mem _ earlier) called holds

theorem holds_of_act {now n n' : Nat} {phase : Calling} {progress : Progress Calling (Except LinkError Bytes)}
    (tidy : e.router.Tidy) (current : call.phase = phase)
    (act : Calling.Act now n e call phase progress n' e') (pending : e.router.pending.get? id = some slot)
    (pending' : e'.router.pending.get? id = some slot) (holds : call.Holds id slot) :
    ∃ call', Part.ofProgress call progress = .calling call' ∧ call'.Holds id slot := by
  obtain ⟨kind, payload, timeout, _⟩ := call
  cases current
  obtain ⟨⟨request, requested, own⟩, held⟩ := holds
  cases act with
  | register => cases requested
  | goOn | sent => exact ⟨_, rfl, ⟨request, requested, own⟩, held⟩
  | fail | expire | expireWaiting | lose => exact ⟨_, rfl, ⟨request, requested, own⟩, .inr rfl⟩
  | answer filled =>
    rcases held with mine | none
    · cases mine
      exact absurd filled (tidy.unfilled id slot _ pending)
    · cases none
  | forget =>
    cases requested
    rw [Router.get?_pending_cancel, if_pos own.symm] at pending'
    cases pending'

theorem Move.owned (move : l.Move l') (tidy : ∀ e, l.exchange = some e → e.router.Tidy)
    (owned : ∀ e id slot, l.exchange = some e → e.router.pending.get? id = some slot → l.Owned past id slot)
    (after : l'.exchange = some e') (pending' : e'.router.pending.get? id = some slot) :
    l'.Owned (l :: past) id slot := by
  cases move with
  | @act t p p' l' was act =>
    rcases act.pending_cases after pending' with ⟨e, here, pending⟩ | ⟨_, _, call, request, rfl, named, own, held⟩
    · refine (owned e id slot here pending).act act.part_eq was (fun call calls holds => ?_) fun dropped => ?_
      · subst calls
        cases act with
        | mild => exact .inl ⟨call, rfl, holds⟩
        | quit => exact .inr rfl
        | deal here' step =>
          cases here.symm.trans here'
          cases after
          cases step with
          | call current act => exact .inl (holds_of_act (tidy e here) current act pending pending' holds)
          | drop => exact .inr rfl
      · subst dropped
        cases act with
        | mild | quit => rfl
        | deal _ step => cases step
    · have calls : (l'.setPart t (.calling call)).part t = .calling call := by simp [setPart]
      exact .calling calls ⟨⟨request, named, own⟩, .inl held⟩
  | arrive absent idle new calls =>
    cases after
    rw [calls.1] at pending'
    cases pending'
  | elapse =>
    cases owned e' id slot after pending' with
    | calling calls holds => exact .calling calls holds
    | dropped dropped earlier called holds =>
      exact .dropped dropped (List.mem_cons_of_mem _ earlier) called holds

theorem Course.owned (course : Course (l :: past)) (here : l.exchange = some e)
    (pending : e.router.pending.get? id = some slot) : l.Owned past id slot := by
  generalize all : l :: past = states at course
  induction course generalizing l past e id slot with
  | start none =>
    cases all
    cases none.symm.trans here
  | move course move ih =>
    cases all
    exact move.owned (course.tidy _ (List.mem_cons_self ..)) (fun _ _ _ here pending => ih here pending rfl)
      here pending

end Traffic

namespace System

variable {s : System} {past : List System} {c : ConnectionId} {x : Connection}

theorem aborted_of_dropped {t : TaskId} (h : (s.traffic c).part t = .dropped) :
    s.tasks[t]? = some (.operate c .aborted) := by
  unfold traffic at h
  dsimp only at h
  cases found : s.tasks[t]? with
  | none =>
    rw [found] at h
    cases h
  | some task =>
    rw [found] at h
    change task.part c = .dropped at h
    have closing : ∀ phase : Closing, phase.part ≠ .dropped := by
      intro phase dropped
      cases phase <;> cases dropped
    cases task with
    | operate own phase =>
      simp only [Task.part] at h
      split at h
      next same =>
        subst same
        cases phase with
        | aborted => rfl
        | closing phase => exact absurd h (closing phase)
        | _ => cases h
      · cases h
    | accept own phase =>
      cases phase with
      | handshake call =>
        simp only [Task.part, Accepting.part] at h
        split at h <;> cases h
      | refuse error phase | replace old phase =>
        simp only [Task.part, Accepting.part] at h
        split at h
        · exact absurd h (closing phase)
        · cases h
      | _ => cases h
    | supervise own phase =>
      simp only [Task.part] at h
      split at h
      · cases phase <;> cases h
      · cases h
    | handle own job phase =>
      simp only [Task.part] at h
      split at h
      · cases phase with
        | acting left doing =>
          cases doing with
          | closing phase => exact absurd h (closing phase)
          | _ => cases h
        | _ => cases h
      · cases h
    | listen phase =>
      cases phase with
      | closing agents phase =>
        cases agents with
        | nil => cases h
        | cons agent agents =>
          simp only [Task.part, Listening.part] at h
          split at h
          · exact absurd h (closing phase)
          · cases h
      | _ => cases h

/-- Every id in the table of a connection is one of a call in progress, or of one that was broken off; so the table
is empty when no call is in progress and none was ever broken off. -/
theorem pending_ids_have_callers (run : Run Genuine (s :: past)) (found : s.connections[c]? = some x) :
    (∀ id, x.router.pending.get? id ≠ none →
      (∃ t call request, s.call? c t = some call ∧ call.phase.request? = some request ∧ request.id = id) ∨
      ∃ t former call request, s.tasks[t]? = some (.operate c .aborted) ∧ former ∈ past ∧
        former.call? c t = some call ∧ call.phase.request? = some request ∧ request.id = id) ∧
    ((∀ t, s.call? c t = none) → (∀ t : TaskId, s.tasks[t]? ≠ some (.operate c .aborted)) →
      x.router.pendingCount = 0) := by
  have owners : ∀ id, x.router.pending.get? id ≠ none →
      (∃ t call request, s.call? c t = some call ∧ call.phase.request? = some request ∧ request.id = id) ∨
      ∃ t former call request, s.tasks[t]? = some (.operate c .aborted) ∧ former ∈ past ∧
        former.call? c t = some call ∧ call.phase.request? = some request ∧ request.id = id := by
    intro id pending
    obtain ⟨slot, pending⟩ := Option.ne_none_iff_exists'.1 pending
    cases (run.course c).owned (exchange_of_connection found) pending with
    | @calling t call calls holds =>
      obtain ⟨request, named, own⟩ := holds.request
      exact .inl ⟨t, call, request, call?_eq_some.2 calls, named, own⟩
    | @dropped t former call dropped earlier called holds =>
      obtain ⟨request, named, own⟩ := holds.request
      obtain ⟨state, member, rfl⟩ := List.mem_map.1 earlier
      exact .inr ⟨t, state, call, request, aborted_of_dropped dropped, member, call?_eq_some.2 called, named, own⟩
  refine ⟨owners, fun none unbroken => ?_⟩
  cases entries : x.router.pending.entries with
  | nil => exact congrArg List.length entries
  | cons entry rest =>
    have pending : x.router.pending.get? entry.1 = some entry.2 :=
      Assoc.get?_of_mem (by rw [entries]; exact List.mem_cons_self ..)
    rcases owners entry.1 (by rw [pending]; exact Option.some_ne_none _) with
      ⟨t, call, _, calls, _⟩ | ⟨t, _, _, _, broken, _⟩
    · cases (none t).symm.trans calls
    · exact absurd broken (unbroken t)

/-- An agent is asked a question, and the call is broken off before the agent has answered. -/
def withdrawal : List Choice :=
  admission 0 (.v4 10 0 0 1 4000) .evict "host" ++
    .react (.operate 0 (.calling none { question 0 0 with phase := .register })) :: .replicate 4 (.act 2 0) ++
    [.react (.abort 2)]

theorem pending_ids_have_callers_after_withdrawal :
    let s := (replay {} [] withdrawal).1
    let past := (replay {} [] withdrawal).2
    (∃ t call request, s.call? 0 t = some call ∧ call.phase.request? = some request ∧ request.id = .fresh 1) ∨
      ∃ t former call request, s.tasks[t]? = some (.operate 0 .aborted) ∧ former ∈ past ∧
        former.call? 0 t = some call ∧ call.phase.request? = some request ∧ request.id = .fresh 1 := by
  have run : Run Genuine _ := (run_replay_empty withdrawal).mono fun _ _ => Ordinary.genuine
  have pending : ((replay {} [] withdrawal).1.connections[0]?).any
      (fun x => decide (x.router.pending.get? (.fresh 1) ≠ none)) := by decide +kernel
  obtain ⟨x, found, pending⟩ := (Option.any_eq_true _ _).1 pending
  exact (pending_ids_have_callers run found).1 (.fresh 1) (of_decide_eq_true pending)

/-- The id of a call that was broken off stays in the table of an open connection on which no call is in
progress. -/
theorem withdrawn_call_stays_pending :
    let s := (replay {} [] withdrawal).1
    Run Genuine (s :: (replay {} [] withdrawal).2) ∧ (∀ task ∈ s.tasks, task.call? 0 = none) ∧
    ((s.connections[0]?).map fun x => (x.stage, x.closed, x.router.pendingCount)) = some (.active, false, 1) := by
  refine ⟨(run_replay_empty withdrawal).mono fun _ _ => Ordinary.genuine, ?_, ?_⟩
  · decide +kernel
  · decide +kernel

end System

end Fleetwire
