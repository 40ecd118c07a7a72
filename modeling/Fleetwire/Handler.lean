import Fleetwire.Bytes
import Fleetwire.Message.Kind

namespace Fleetwire

inductive Action where
  | noteHeartbeat
  | noteAnnouncement
  | recordFile
  | reportFile
  | pass
  | reply (payload : Bytes)
  | refuse (error : String)
  /-- Ask the agent the same under another kind, and answer with what it says. -/
  | relay (ask : MessageKind)
  | close
  | stall
  | fail (causes : List String)
  | panic (text : Option String)
deriving DecidableEq, Repr

inductive Ending where
  | finished
  | failed (causes : List String)
  | panicked (text : Option String)
deriving DecidableEq, Repr

structure Handler where
  tag : Option String := none
  actions : List Action
deriving DecidableEq, Repr

inductive Moment where
  | start
  | finish
deriving DecidableEq, Repr

end Fleetwire
