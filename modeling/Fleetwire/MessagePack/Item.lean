import Fleetwire.MessagePack.Error

namespace Fleetwire.MessagePack

/-- Takes a value off the front of bytes and leaves the rest. -/
abbrev Reader := StateT Bytes (Except DecodeError)

def depthLimit : Nat := 1024

namespace Reader

def marker : Reader Marker
  | [] => .error .noMarker
  | b :: rest => .ok (.ofByte b, rest)

def take (n : Nat) (short : DecodeError) : Reader Bytes := fun bytes =>
  if bytes.length < n then .error short else .ok (bytes.take n, bytes.drop n)

def natural (width : Nat) : Reader Nat := do
  return Bytes.toNat (← take width .cutField)

def signed (width : Nat) : Reader Int := do
  return Bytes.toInt (← take width .cutField)

def contents (length : Nat) : Reader Bytes := take length .cutContents

end Reader

inductive Number where
  | natural (n : Nat)
  | signed (i : Int)
  | float (x : Binary64)
deriving DecidableEq, Repr

inductive Item where
  | null
  | bool (b : Bool)
  | number (n : Number)
  | str (bytes : Bytes)
  | bin (bytes : Bytes)
  | array (length : Nat)
  | map (length : Nat)
  | ext (length : Nat)
deriving DecidableEq, Repr

namespace Item

def number? : Marker → Option (Reader Number)
  | .fixPos n => some (pure (.natural n))
  | .u8 => some (.natural <$> Reader.natural 1)
  | .u16 => some (.natural <$> Reader.natural 2)
  | .u32 => some (.natural <$> Reader.natural 4)
  | .u64 => some (.natural <$> Reader.natural 8)
  | .fixNeg n => some (pure (.signed (Int.ofNat n - 32)))
  | .i8 => some (.signed <$> Reader.signed 1)
  | .i16 => some (.signed <$> Reader.signed 2)
  | .i32 => some (.signed <$> Reader.signed 4)
  | .i64 => some (.signed <$> Reader.signed 8)
  | .f32 => some ((.float <| .ofBinary32 ·) <$> Reader.natural 4)
  | .f64 => some ((.float ⟨UInt64.ofNat ·⟩) <$> Reader.natural 8)
  | _ => none

def body (marker : Marker) : Reader Item :=
  match number? marker with
  | some read => .number <$> read
  | none =>
    match marker with
    | .null => pure .null
    | .false => pure (.bool false)
    | .true => pure (.bool true)
    | .fixStr n => .str <$> Reader.contents n
    | .str8 => do return .str (← Reader.contents (← Reader.natural 1))
    | .str16 => do return .str (← Reader.contents (← Reader.natural 2))
    | .str32 => do return .str (← Reader.contents (← Reader.natural 4))
    | .bin8 => do return .bin (← Reader.contents (← Reader.natural 1))
    | .bin16 => do return .bin (← Reader.contents (← Reader.natural 2))
    | .bin32 => do return .bin (← Reader.contents (← Reader.natural 4))
    | .fixArray n => pure (.array n)
    | .array16 => .array <$> Reader.natural 2
    | .array32 => .array <$> Reader.natural 4
    | .fixMap n => pure (.map n)
    | .map16 => .map <$> Reader.natural 2
    | .map32 => .map <$> Reader.natural 4
    | .fixExt1 => pure (.ext 1)
    | .fixExt2 => pure (.ext 2)
    | .fixExt4 => pure (.ext 4)
    | .fixExt8 => pure (.ext 8)
    | .fixExt16 => pure (.ext 16)
    | .ext8 => .ext <$> Reader.natural 1
    | .ext16 => .ext <$> Reader.natural 2
    | .ext32 => .ext <$> Reader.natural 4
    | marker => throw (.wrongMarker marker)

def isContainer : Item → Bool
  | array _ | map _ | ext _ => true
  | _ => false

/-- The next item, inside containers that leave `depth` levels. -/
def read (depth : Nat) : Reader Item := do
  let item ← body (← Reader.marker)
  if item.isContainer ∧ depth ≤ 1 then throw .depthLimit
  return item

def Number.found : Number → Found
  | .natural n => .integer n
  | .signed i => .integer i
  | .float x => .float x

/-- The error for an item of a type that is not wanted. Bytes that only claim to be text are
refused for that first. -/
def reject (item : Item) (wanted : String) : DecodeError :=
  match item with
  | null => .wrongType .unit wanted
  | bool b => .wrongType (.boolean b) wanted
  | number n => .wrongType (Number.found n) wanted
  | str bytes =>
    match Utf8.decode? bytes with
    | some text => .wrongType (.text text) wanted
    | none => .notText (Utf8.fault bytes)
  | bin _ => .wrongType .bytes wanted
  | array _ => .wrongType .sequence wanted
  | map _ => .wrongType .map wanted
  | ext _ => .wrongType .extension wanted

end Item

def Reader.times (read : Reader Unit) : Nat → Reader Unit
  | 0 => pure ()
  | n + 1 => do read; times read n

def skip : (depth : Nat) → Reader Unit
  | 0 => throw .depthLimit
  | depth + 1 => do
    match ← Item.read (depth + 1) with
    | .array n => Reader.times (skip depth) n
    | .map n => Reader.times (do skip depth; skip depth) n
    | .ext n =>
      let _ ← Reader.take 1 .cutField
      let _ ← Reader.contents n
    | _ => pure ()

end Fleetwire.MessagePack
