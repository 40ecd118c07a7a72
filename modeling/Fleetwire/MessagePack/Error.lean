import Fleetwire.MessagePack.Marker
import Fleetwire.Text.Utf8
import Fleetwire.Text.Quoted
import Fleetwire.Text.Binary64

namespace Fleetwire.MessagePack

inductive Found where
  | boolean (b : Bool)
  | integer (i : Int)
  | float (x : Binary64)
  | text (s : String)
  | bytes
  | unit
  | sequence
  | map
  | extension
deriving DecidableEq, Repr

def Found.describe : Found → String
  | boolean b => "boolean `" ++ toString b ++ "`"
  | integer i => "integer `" ++ toString i ++ "`"
  | float x => "floating point `" ++ x.display ++ "`"
  | text s => "string " ++ Text.quote s
  | bytes => "byte array"
  | unit => "unit value"
  | sequence => "sequence"
  | map => "map"
  | extension => "newtype struct"

inductive DecodeError where
  | noMarker
  | cutField
  | cutContents
  | wrongMarker (marker : Marker)
  | wrongType (found : Found) (wanted : String)
  | wrongValue (found : Found) (wanted : String)
  | notText (fault : Utf8.Fault)
  | lengthMismatch (wanted : Nat)
  | tooShort (length : Nat) (record : String) (fields : Nat)
  | duplicateField (name : String)
  | missingField (name : String)
  | unknownVariant (name : String)
  | idLength (found : Nat)
  | depthLimit
deriving DecidableEq, Repr

namespace DecodeError

def code (name : String) : String := "`" ++ name ++ "`"

def message : DecodeError → String
  | noMarker => "IO error while reading marker: failed to fill whole buffer"
  | cutField => "IO error while reading data: failed to fill whole buffer"
  | cutContents => "IO error while reading data: unexpected end of file"
  | wrongMarker marker => s!"wrong msgpack marker {marker.name}"
  | wrongType found wanted => s!"invalid type: {found.describe}, expected {wanted}"
  | wrongValue found wanted => s!"invalid value: {found.describe}, expected {wanted}"
  | notText fault => s!"string found to be invalid utf8: {fault.message}"
  | lengthMismatch wanted => s!"array had incorrect length, expected {wanted}"
  | tooShort length record 1 => s!"invalid length {length}, expected struct {record} with 1 element"
  | tooShort length record fields =>
    s!"invalid length {length}, expected struct {record} with {fields} elements"
  | duplicateField name => s!"duplicate field {code name}"
  | missingField name => s!"missing field {code name}"
  | unknownVariant name =>
    s!"unknown variant {code name}, expected " ++ code "Success" ++ " or " ++ code "Failure"
  | idLength found => s!"UUID parsing failed: invalid length: expected 16 bytes, found {found}"
  | depthLimit => "depth limit exceeded"

end DecodeError

end Fleetwire.MessagePack
