import Fleetwire.System.Step
import Mathlib.Data.List.Forall2

namespace Fleetwire

variable {α β : Type}

/-- The outcomes of an action on two servers are the same one by one, and lead to servers that are related. -/
def Agree (R : System → System → Prop) : List (α × System) → List (α × System) → Prop :=
  List.Forall₂ fun out out' => out.1 = out'.1 ∧ R out.2 out'.2

namespace Agree

variable {R : System → System → Prop} {outs outs' more more' : List (α × System)} {a : α} {s s' : System}

theorem nothing : Agree R ([] : List (α × System)) [] := .nil

theorem one (h : R s s') : Agree R [(a, s)] [(a, s')] := .cons ⟨rfl, h⟩ .nil

theorem append (h : Agree R outs outs') (h' : Agree R more more') : Agree R (outs ++ more) (outs' ++ more') :=
  List.rel_append h h'

theorem map (h : Agree R outs outs') {f g : α × System → β × System}
    (each : ∀ a s s', R s s' → (f (a, s)).1 = (g (a, s')).1 ∧ R (f (a, s)).2 (g (a, s')).2) :
    Agree R (outs.map f) (outs'.map g) := by
  refine List.forall₂_map_left_iff.2 (List.forall₂_map_right_iff.2 (h.imp ?_))
  rintro ⟨a, s⟩ ⟨a', s'⟩ ⟨same, related⟩
  cases same
  exact each a s s' related

theorem eq_nil_iff (h : Agree R outs outs') : outs = [] ↔ outs' = [] := by
  cases h <;> simp

end Agree

namespace System

/-- By `R`, two servers are alike to the connection `c`. -/
structure Likeness (R : System → System → Prop) (c : ConnectionId) : Prop where
  connection : ∀ {s s' : System}, R s s' → s'.connections[c]? = s.connections[c]?
  now : ∀ {s s' : System}, R s s' → s'.now = s.now
  update : ∀ {s s' : System} (f : Connection → Connection), R s s' → R (s.update c f) (s'.update c f)
  logs : ∀ {s s' : System} (lines : List LogLine), R s s' →
    R { s with logs := s.logs ++ lines } { s' with logs := s'.logs ++ lines }
  spawn : ∀ {s s' : System} (task : Task), R s s' → R (s.spawn task) (s'.spawn task)

end System

variable {R : System → System → Prop} {c : ConnectionId} {s s' : System} {t : TaskId} {connection : Connection}

theorem Sending.next_agree (alike : System.Likeness R c) (h : R s s') (message : Message) (phase : Sending) :
    Agree R (phase.next s c t message) (phase.next s' c t message) := by
  have same := alike.connection h
  cases phase with
  | check =>
    simp only [Sending.next, same]
    cases s.connections[c]? with
    | none => exact .nothing
    | some connection =>
      dsimp only
      repeat' split
      all_goals exact .one h
  | queue envelope => exact .one (alike.update _ h)
  | wait envelope =>
    simp only [Sending.next, same]
    cases s.connections[c]? with
    | none => exact .nothing
    | some connection =>
      dsimp only
      split
      · exact .one (alike.update _ h)
      · refine .append ?_ ?_
        · split
          · exact .one (alike.update _ h)
          · exact .nothing
        · split
          · exact .one (alike.update _ h)
          · exact .nothing

namespace Call

theorem expire_agree (alike : System.Likeness R c) (h : R s s') (request : Message) (slot : SlotId)
    (deadline : Nat) (timeout : Duration) :
    Agree R (expire s c t request slot deadline timeout) (expire s' c t request slot deadline timeout) := by
  simp only [expire, alike.now h]
  split
  · exact .one (alike.update _ h)
  · exact .nothing

theorem next_agree_of_begun (alike : System.Likeness R c) (h : R s s') (call : Call) (begun : call.phase ≠ .register) :
    Agree R (call.next s c t) (call.next s' c t) := by
  have same := alike.connection h
  simp only [next, same]
  cases s.connections[c]? with
  | none => exact .nothing
  | some connection =>
    dsimp only
    split
    next phaseEq => exact absurd phaseEq begun
    next request slot deadline phase phaseEq =>
      have sends := Sending.next_agree (t := t) alike h request phase
      split
      next nothing =>
        rw [sends.eq_nil_iff.1 nothing]
        exact expire_agree alike h request slot deadline call.timeout
      next some =>
        split
        next nothing => exact absurd (sends.eq_nil_iff.2 nothing) some
        · refine sends.map fun progress s₁ s₁' h₁ => ?_
          cases progress with
          | going phase => exact ⟨rfl, h₁⟩
          | ended result =>
            cases result with
            | ok => exact ⟨rfl, h₁⟩
            | error error => exact ⟨rfl, alike.update _ h₁⟩
    next request slot deadline phaseEq =>
      split
      · exact .one h
      · exact expire_agree alike h request slot deadline call.timeout
      · exact .one h
    next request error phaseEq =>
      have forgotten := alike.update (fun x => { x with router := (x.router.cancel request.id).2 }) h
      split
      · exact .one (alike.logs [timedOut connection request _] forgotten)
      · exact .one forgotten

end Call

theorem Closing.next_agree (alike : System.Likeness R c) (h : R s s') (phase : Closing) :
    Agree R (phase.next s c) (phase.next s' c) := by
  have same := alike.connection h
  cases phase with
  | halt | failAll | publish => exact .one (alike.update _ h)
  | look =>
    simp only [Closing.next, same]
    cases s.connections[c]? with
    | none => exact .nothing
    | some connection => exact .one h
  | claim =>
    simp only [Closing.next, same]
    cases s.connections[c]? with
    | none => exact .nothing
    | some connection =>
      dsimp only
      split
      · exact .one h
      · exact .one (alike.update _ h)
  | wait =>
    simp only [Closing.next, same]
    cases s.connections[c]? with
    | none => exact .nothing
    | some connection =>
      dsimp only
      split
      · exact .one h
      · exact .nothing

namespace Supervising

theorem leave_agree (alike : System.Likeness R c) (h : R s s') (departure : Departure) :
    Agree R [leave s c departure] [leave s' c departure] := .one (alike.update _ h)

theorem receive_alike (alike : System.Likeness R c) (h : R s s') (payload : Bytes) (inbox : FrameBuffer) :
    R (receive s c connection payload inbox) (receive s' c connection payload inbox) := by
  unfold receive
  split
  · exact alike.logs [_] (alike.update _ h)
  next message _ =>
    obtain ⟨fate, lines, router⟩ := connection.router.route message
    have logged := alike.logs lines
      (alike.update (fun x => { x with inbox, router, routed := x.routed ++ [message] }) h)
    dsimp only
    split
    · exact alike.spawn _ logged
    · exact logged

theorem inbound_agree (alike : System.Likeness R c) (h : R s s') :
    Agree R (inbound s c connection) (inbound s' c connection) := by
  unfold inbound
  split
  · exact leave_agree alike h _
  · exact .one (receive_alike alike h _ _)
  · split
    · exact .nothing
    · exact leave_agree alike h _
    · exact leave_agree alike h _
    · exact .one (alike.update _ h)

theorem outbound_agree (alike : System.Likeness R c) (h : R s s') :
    Agree R (outbound s c connection) (outbound s' c connection) := by
  unfold outbound
  split
  · split
    · exact .nothing
    · split
      · exact leave_agree alike (alike.update _ h) _
      · exact .one (alike.update _ h)
  · split
    · exact leave_agree alike h _
    · exact .nothing
    · exact .one (alike.update _ h)

theorem serve_agree (alike : System.Likeness R c) (h : R s s') :
    Agree R (serve s c connection) (serve s' c connection) := by
  have leaves (departure : Departure) (condition : Bool) :
      Agree R (if condition then [leave s c departure] else []) (if condition then [leave s' c departure] else []) := by
    split
    · exact leave_agree alike h departure
    · exact .nothing
  exact (((inbound_agree alike h).append (outbound_agree alike h)).append (leaves _ _)).append (leaves _ _)

end Supervising

end Fleetwire
