import Fleetwire.Duration
import Fleetwire.StreamError

namespace Fleetwire

inductive LinkError where
  | stream (error : StreamError)
  | remote (kind : MessageKind) (text : String)
  | decode (reason : String)
  | timeout (after : Duration)
  | disconnected
  | handshake (reason : String)
  | duplicateIdentity (identity : String)
  | config (reason : String)
  | collaborator (causes : List String)
  | io (reason : String)
deriving DecidableEq, Repr

namespace LinkError

def message : LinkError → String
  | stream error => s!"Protocol error: {error.message}"
  | remote kind text => s!"Agent reported failure for {kind.display}: {text}"
  | decode reason => s!"Decode error: {reason}"
  | timeout after => s!"Timeout after {after.display}"
  | disconnected => "Agent disconnected"
  | handshake reason => s!"Handshake error: {reason}"
  | duplicateIdentity identity => s!"Agent {identity} is already connected"
  | config reason => s!"Configuration error: {reason}"
  | collaborator causes => "Collaborator error: " ++ String.intercalate ": " causes
  | io reason => s!"I/O error: {reason}"

/-- The operation may succeed when tried again, on this connection or on another. -/
def isTransient : LinkError → Bool
  | timeout _ | disconnected => true
  | _ => false

end LinkError

end Fleetwire
