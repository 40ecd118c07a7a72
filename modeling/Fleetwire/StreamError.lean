import Fleetwire.Bytes
import Fleetwire.Message.Kind

namespace Fleetwire

inductive StreamError where
  | serialization (reason : String)
  | payloadDecode (kind : MessageKind) (reason : String)
  | frameTooLarge (size limit : Nat)
  | truncatedFrame (buffered : Nat)
  | io (reason : String)
deriving DecidableEq, Repr

namespace StreamError

def message : StreamError → String
  | serialization reason => s!"Serialization error: {reason}"
  | payloadDecode kind reason => s!"Payload decode error for {kind.display}: {reason}"
  | frameTooLarge size limit => s!"Frame too large: {size} bytes (max: {limit})"
  | truncatedFrame buffered => s!"Stream ended mid-frame with {buffered} bytes buffered"
  | io reason => s!"I/O error: {reason}"

/-- After every error but that of a single payload the stream can no longer be trusted. -/
def isFatal : StreamError → Bool
  | payloadDecode _ _ => false
  | _ => true

end StreamError

end Fleetwire
