import Fleetwire.Proofs.Traffic.Sound

namespace Fleetwire.Traffic

variable {l l' : Traffic} {past states : List Traffic} {t u : TaskId} {p p' : Part} {call : Call}
  {request request' : Message}

theorem Move.becomes (move : l.Move l') (calls : l.part t = .calling call) :
    l'.part t = .calling call ∨ l'.part t = .dropped ∨
      ∃ e e' progress, l.exchange = some e ∧ l'.exchange = some e' ∧
        (∃ n, Calling.Act l.now l.nextId e call call.phase progress n e') ∧
          l'.part t = .ofProgress call progress := by
  cases move with
  | @act u p p' l' was act =>
    by_cases own : t = u
    · subst own
      simp only [setPart, if_pos]
      obtain rfl := was.symm.trans calls
      cases act with
      | mild => exact .inl rfl
      | quit => exact .inr (.inl rfl)
      | deal here step =>
        cases step with
        | call current act =>
          subst current
          exact .inr (.inr ⟨_, _, _, here, rfl, ⟨_, act⟩, rfl⟩)
        | drop => exact .inr (.inl rfl)
    · simp only [setPart, if_neg own, act.part_eq]
      exact .inl calls
  | @arrive u e new absent idle =>
    have other : t ≠ u := fun same => by cases (same ▸ calls).symm.trans idle
    simp only [setPart, if_neg other]
    exact .inl calls
  | elapse => exact .inl calls

theorem Move.origin (move : l.Move l') (calls : l'.part t = .calling call) :
    l.part t = .calling call ∨ call.phase = .register ∨
      ∃ e e' n phase, l.exchange = some e ∧ l'.exchange = some e' ∧ l'.nextId = n ∧
        l.part t = .calling { call with phase } ∧
          Calling.Act l.now l.nextId e { call with phase } phase (.going call.phase) n e' := by
  cases move with
  | @act u p p' l' was act =>
    rcases setPart_calling calls act.part_eq with ⟨rfl, rfl⟩ | ⟨-, before⟩
    · cases act with
      | mild => exact .inl was
      | begin _ new => exact .inr (.inl new)
      | deal here step =>
        generalize result : Part.calling call = p' at step
        cases step with
        | @call was' _ progress _ _ current act =>
          obtain ⟨kind, payload, timeout, phase⟩ := was'
          cases current
          cases progress with
          | ended => cases result
          | going later =>
            cases result
            exact .inr (.inr ⟨_, _, _, phase, here, rfl, rfl, was, act⟩)
        | _ => cases result
    · exact .inl before
  | arrive absent idle new =>
    rcases setPart_calling calls rfl with ⟨-, result⟩ | ⟨-, before⟩
    · cases result
      exact .inr (.inl new)
    · exact .inl before
  | elapse => exact .inl calls

theorem Move.routes (move : l.Move l') :
    l'.routed = l.routed ∨ ∃ message, l'.routed = l.routed ++ [message] ∧ ∀ t, l'.part t = l.part t := by
  have mild (l' : Traffic) (same : l.Mild l') : l'.routed = l.routed := by
    have related := same.exchange
    unfold routed
    generalize l.exchange = before, l'.exchange = after at related
    cases related with
    | none => rfl
    | some mild => exact mild.routed
  cases move with
  | @act u p p' l' was act =>
    cases act with
    | mild same | rest same => exact .inl (mild l' same)
    | begin | quit => exact .inl rfl
    | deal here step =>
      cases step with
      | receive message =>
        refine .inr ⟨message, ?_, fun t => ?_⟩
        · simp [routed, here, setPart]
        · by_cases own : t = u <;> simp [setPart, own, was]
      | call _ act => cases act <;> exact .inl (by simp [routed, here, setPart, Exchange.abandon])
      | _ => exact .inl (by simp [routed, here, setPart, Exchange.abandon])
  | arrive absent _ _ _ none => exact .inl (by simp [routed, absent, none, setPart])
  | elapse => exact .inl rfl

def Requested (states : List Traffic) (t : TaskId) (request : Message) : Prop :=
  ∃ l ∈ states, ∃ call, l.part t = .calling call ∧ call.phase.request? = some request

theorem Move.requested (move : l.Move l') (calls : l'.part t = .calling call)
    (named : call.phase.request? = some request) :
    (∃ call, l.part t = .calling call ∧ call.phase.request? = some request) ∨
      request.id = .fresh l.nextId ∧ l.nextId < l'.nextId := by
  obtain ⟨kind, payload, timeout, later⟩ := call
  rcases move.origin calls with before | new | ⟨e, e', n, phase, here, -, next, before, act⟩
  · exact .inl ⟨_, before, named⟩
  · cases new
    cases named
  · dsimp only at act
    generalize going : Progress.going later = progress at act
    cases act with
    | register =>
      dsimp only at going
      cases going
      cases named
      exact .inr ⟨rfl, next ▸ Nat.lt_succ_self _⟩
    | answer | forget => cases going
    | expire | expireWaiting =>
      dsimp only at going
      cases going
      exact .inl ⟨_, before, named⟩
    | goOn | sent | fail | lose =>
      cases going
      exact .inl ⟨_, before, named⟩

theorem Course.requested_numbered (course : Course (l :: past)) (distinct : Distinct l.nextId)
    (requested : Requested (l :: past) t request) : ∃ k < l.nextId, request.id = .fresh k := by
  obtain ⟨former, member, call, calls, named⟩ := requested
  obtain ⟨names, bounded⟩ := course.named distinct former member
  obtain ⟨k, less, rfl⟩ := names.request t call request calls named
  exact ⟨k, Nat.lt_of_lt_of_le less bounded, rfl⟩

/-- No two calls that there ever were have had requests with one id. -/
theorem Course.requested_unique (course : Course (l :: past)) (distinct : Distinct l.nextId)
    (first : Requested (l :: past) t request) (second : Requested (l :: past) u request')
    (same : request.id = request'.id) : t = u ∧ request = request' := by
  generalize all : l :: past = states at course first second
  induction course generalizing l past t u request request' with
  | start none idle =>
    obtain ⟨former, member, call, calls, -⟩ := first
    rw [List.mem_singleton.1 member, idle t] at calls
    cases calls
  | @move before after earlier course move ih =>
    cases all
    have smaller : Distinct before.nextId := fun i j less less' =>
      distinct i j (Nat.lt_of_lt_of_le less move.nextId_le) (Nat.lt_of_lt_of_le less' move.nextId_le)
    -- A request was made before, or has just got an id that was never given out.
    have origin {t : TaskId} {request : Message} (requested : Requested (after :: before :: earlier) t request) :
        Requested (before :: earlier) t request ∨ (request.id = .fresh before.nextId ∧ before.nextId < after.nextId) ∧
          ∃ call, after.part t = .calling call ∧ call.phase.request? = some request := by
      obtain ⟨former, member, call, calls, named⟩ := requested
      rcases List.mem_cons.1 member with rfl | member
      · rcases move.requested calls named with ⟨call', before', named'⟩ | new
        · exact .inl ⟨before, List.mem_cons_self, call', before', named'⟩
        · exact .inr ⟨new, call, calls, named⟩
      · exact .inl ⟨former, member, call, calls, named⟩
    have apart {t : TaskId} {request request' : Message} (old : Requested (before :: earlier) t request)
        (new : request'.id = .fresh before.nextId ∧ before.nextId < after.nextId) : request.id ≠ request'.id := by
      obtain ⟨k, less, numbered⟩ := course.requested_numbered smaller old
      rw [numbered, new.1]
      intro same
      exact absurd (distinct k before.nextId (Nat.lt_trans less new.2) new.2 same) (Nat.ne_of_lt less)
    rcases origin first with old | ⟨new, call, calls, named⟩
    · rcases origin second with old' | ⟨new', -⟩
      · exact ih smaller same rfl old old'
      · exact absurd same (apart old new')
    · rcases origin second with old' | ⟨-, call', calls', named'⟩
      · exact absurd same.symm (apart old' new)
      · have names := ((course.move move).named distinct after List.mem_cons_self).1
        obtain rfl := names.ids t u call call' request request' calls calls' named named' same
        cases calls.symm.trans calls'
        exact ⟨rfl, Option.some.inj (named.symm.trans named')⟩

end Fleetwire.Traffic
