import Fleetwire.Proofs.Flow.Simulation

namespace Fleetwire

namespace Lane

variable {x x' : Lane} {sent : List Message} {p p' : Station} {posted : Option Message}

theorem Act.goesOn (act : x.Act p posted p' x') (serving : p = .serving) (isOpen : x'.isOpen) : p' = .serving := by
  cases act with
  | leave | refuse => cases isOpen
  | fetch | receive | load | write => rfl
  | begin | check | queue | stop | post => cases serving

theorem Act.reopens (act : x.Act p posted p' x') (isOpen : x'.isOpen) : x.isOpen := by
  cases act with
  | leave | refuse => cases isOpen
  | _ => exact isOpen

theorem Act.writes (act : x.Act p posted p' x') (sound : x.Sound sent) (isOpen : x'.isOpen)
    (writes : ∃ count part, x.Writes count part) : ∃ count part, x'.Writes count part := by
  obtain ⟨count, part, writes⟩ := writes
  cases act with
  | begin | check | queue | stop => exact ⟨count, part, writes⟩
  | fetch | receive => exact ⟨count, part, writes.split, writes.rest⟩
  | post => exact ⟨count, part, writes.post sound.taken _⟩
  | load idle next encoded => exact ⟨_, [], writes.load idle next (encode_of_encodeWithin encoded)⟩
  | write size => exact writes.write size
  | leave | refuse => cases isOpen

end Lane

namespace Flow

variable {l l' : Flow} {sent : List Message} {posted : Option Message}

/-- While there is a writer, someone serves the connection, and only frames were written. -/
structure Kept (l : Flow) : Prop where
  serves : ∀ x, l.lane = some x → x.isOpen → ∃ t, l.station t = .serving
  writes : ∀ x, l.lane = some x → x.isOpen → ∃ count part, x.Writes count part

theorem Kept.move (kept : l.Kept) (sound : l.Sound sent) (move : l.Move posted l') : l'.Kept := by
  cases move with
  | act station act =>
    cases act with
    | rest =>
      rw [setStation_of_station station]
      exact kept
    | act here act =>
      refine ⟨?_, ?_⟩
      · rintro _ ⟨⟩ isOpen
        obtain ⟨u, serving⟩ := kept.serves _ here (act.reopens isOpen)
        refine ⟨u, ?_⟩
        rw [station_setStation]
        split
        next same =>
          rw [same, station] at serving
          exact act.goesOn serving isOpen
        · exact serving
      · rintro _ ⟨⟩ isOpen
        exact act.writes (sound.lane _ here) isOpen (kept.writes _ here (act.reopens isOpen))
  | @come x here bytes =>
    refine ⟨?_, ?_⟩
    · rintro _ ⟨⟩ isOpen
      exact kept.serves x here isOpen
    · rintro _ ⟨⟩ isOpen
      obtain ⟨count, part, writes⟩ := kept.writes x here isOpen
      exact ⟨count, part, writes.split, writes.rest⟩
  | @arrive t absent settings came =>
    refine ⟨?_, ?_⟩
    · rintro _ ⟨⟩ -
      exact ⟨t, by rw [station_setStation, if_pos rfl]⟩
    · rintro _ ⟨⟩ -
      exact ⟨0, [], ⟨[], .nil, rfl⟩, .inl ⟨rfl, rfl, rfl⟩⟩

end Flow

namespace System

variable {s : System} {past : List System}

theorem Streaming.kept (run : Streaming (s :: past)) (c : ConnectionId) : (s.flow c).Kept := by
  induction past generalizing s with
  | nil =>
    cases run with
    | start initial untouched =>
      have absent : ∀ x, (s.flow c).lane ≠ some x := by simp [System.flow, initial.connections]
      exact ⟨fun x here => absurd here (absent x), fun x here => absurd here (absent x)⟩
  | cons before past ih =>
    obtain ⟨posted, move, -⟩ := run.flows.move c
    exact (ih run.earlier).move (run.earlier.sound c) move

end System

end Fleetwire
