import Fleetwire.Proofs.Flow.Simulation

namespace Fleetwire

/-- How the reading of a stream ends, when `rest` is left of it and this arrives next. -/
inductive Ends (limit : Nat) (rest : Bytes) (arrival : Arrival) : Except StreamError Unit → Prop where
  | whole (stops : arrival = .bytes []) (empty : rest = []) : Ends limit rest arrival (.ok ())
  | inside (stops : arrival = .bytes []) (begun : rest ≠ [])
    (within : ∀ length, Frame.announced? rest = some length → length ≤ limit) :
    Ends limit rest arrival (.error (.truncatedFrame rest.length))
  | oversize (length : Nat) (announced : Frame.announced? rest = some length) (excess : limit < length) :
    Ends limit rest arrival (.error (.frameTooLarge length limit))
  | failed (reason : String) (fault : arrival = .fault reason)
    (within : ∀ length, Frame.announced? rest = some length → length ≤ limit) :
    Ends limit rest arrival (.error (.io reason))

namespace System

/-- From the one state to the other only this task has acted. -/
inductive Alone (t : TaskId) : System → System → Prop where
  | refl (s : System) : Alone t s s
  | step {s s' s'' : System} (acts : s' ∈ s.next t) (alone : Alone t s' s'') : Alone t s s''

end System

namespace FrameBuffer

variable {buffer : FrameBuffer} {arrival : Arrival} {result : Except StreamError Unit}

end FrameBuffer

namespace Supervising

variable {s : System} {c : ConnectionId} {x : Connection} {result : Except StreamError Unit}

end Supervising

namespace System

variable {s s' : System} {past : List System} {c : ConnectionId} {t : TaskId} {x : Connection}

end System

end Fleetwire
