import Fleetwire.MessagePack.Shape

namespace Fleetwire.MessagePack

structure Wire (α : Type) where
  wanted : String
  write : α → Bytes
  read : (depth : Nat) → Reader α
  ofByte : UInt8 → Except DecodeError α

namespace Wire

def naturalBytes (n : Nat) : Bytes :=
  if n < 0x80 then [Marker.byte (.fixPos n)]
  else if n < 0x100 then Marker.u8.byte :: Bytes.bigEndian 1 n
  else if n < 0x10000 then Marker.u16.byte :: Bytes.bigEndian 2 n
  else if n < 0x100000000 then Marker.u32.byte :: Bytes.bigEndian 4 n
  else Marker.u64.byte :: Bytes.bigEndian 8 n

def intBytes (i : Int) : Bytes :=
  if 0 ≤ i then naturalBytes i.toNat
  else if -32 ≤ i then [Marker.byte (.fixNeg (i + 32).toNat)]
  else if -0x80 ≤ i then Marker.i8.byte :: Bytes.ofInt 1 i
  else if -0x8000 ≤ i then Marker.i16.byte :: Bytes.ofInt 2 i
  else if -0x80000000 ≤ i then Marker.i32.byte :: Bytes.ofInt 4 i
  else Marker.i64.byte :: Bytes.ofInt 8 i

def strHeader (length : Nat) : Bytes :=
  if length < 32 then [Marker.byte (.fixStr length)]
  else if length < 0x100 then Marker.str8.byte :: Bytes.bigEndian 1 length
  else if length < 0x10000 then Marker.str16.byte :: Bytes.bigEndian 2 length
  else Marker.str32.byte :: Bytes.bigEndian 4 length

def binHeader (length : Nat) : Bytes :=
  if length < 0x100 then Marker.bin8.byte :: Bytes.bigEndian 1 length
  else if length < 0x10000 then Marker.bin16.byte :: Bytes.bigEndian 2 length
  else Marker.bin32.byte :: Bytes.bigEndian 4 length

def arrayHeader (length : Nat) : Bytes :=
  if length < 16 then [Marker.byte (.fixArray length)]
  else if length < 0x10000 then Marker.array16.byte :: Bytes.bigEndian 2 length
  else Marker.array32.byte :: Bytes.bigEndian 4 length

def mapHeader (length : Nat) : Bytes :=
  if length < 16 then [Marker.byte (.fixMap length)]
  else if length < 0x10000 then Marker.map16.byte :: Bytes.bigEndian 2 length
  else Marker.map32.byte :: Bytes.bigEndian 4 length

def strBytes (text : String) : Bytes :=
  let bytes := Utf8.encode text
  strHeader bytes.length ++ bytes

def refuseByte (wanted : String) (b : UInt8) : DecodeError :=
  .wrongType (.integer b.toNat) wanted

def unit : Wire Unit where
  wanted := "unit"
  write _ := [Marker.null.byte]
  read depth := do
    match ← Item.read depth with
    | .null => return ()
    | item => throw (item.reject "unit")
  ofByte b := .error (refuseByte "unit" b)

def text : Wire String where
  wanted := "a string"
  write := strBytes
  read depth := do
    match ← Item.read depth with
    | .str bytes =>
      match Utf8.decode? bytes with
      | some text => return text
      | none => throw (.notText (Utf8.fault bytes))
    | .bin bytes =>
      match Utf8.decode? bytes with
      | some text => return text
      | none => throw (.wrongValue .bytes "a string")
    | item => throw (item.reject "a string")
  ofByte b := .error (refuseByte "a string" b)

/-- Reads a number; a marker of another family is refused by itself, with nothing after it read. -/
def readNumber (wanted : String) : Reader Number := do
  let marker ← Reader.marker
  match Item.number? marker with
  | some read => read
  | none =>
    match marker with
    | .null => throw (.wrongType .unit wanted)
    | .false => throw (.wrongType (.boolean false) wanted)
    | .true => throw (.wrongType (.boolean true) wanted)
    | marker => throw (.wrongMarker marker)

def intOfNumber (t : IntType) : Number → Except DecodeError t.Value
  | .float x => .error (.wrongType (.float x) t.name)
  | .natural n => inRange n
  | .signed i => inRange i
where
  inRange (i : Int) : Except DecodeError t.Value :=
    match t.ofInt? i with
    | some value => .ok value
    | none => .error (.wrongValue (.integer i) t.name)

def int (t : IntType) : Wire t.Value where
  wanted := t.name
  write i := intBytes i.val
  read _ := do intOfNumber t (← readNumber t.name)
  ofByte b := intOfNumber t (.natural b.toNat)

def floatOfNumber : Number → Binary64
  | .float x => x
  | .natural n => .ofNat n
  | .signed i => .ofInt i

def float : Wire Binary64 where
  wanted := "f64"
  write x := Marker.f64.byte :: Bytes.bigEndian 8 x.bits.toNat
  read _ := do return floatOfNumber (← readNumber "f64")
  ofByte b := .ok (.ofNat b.toNat)

def many (read : Reader α) : Nat → Reader (List α)
  | 0 => pure []
  | n + 1 => do
    let value ← read
    return value :: (← many read n)

def list (item : Wire α) : Wire (List α) where
  wanted := "a sequence"
  write values := arrayHeader values.length ++ values.flatMap item.write
  read depth := do
    match ← Item.read depth with
    | .array n => many (item.read (depth - 1)) n
    | .bin bytes => bytes.mapM (fun b => item.ofByte b)
    | found => throw (found.reject "a sequence")
  ofByte b := .error (refuseByte "a sequence" b)

/-- Bytes are a binary; a text gives its bytes and a sequence of small numbers the numbers. -/
def bytes : Wire Bytes where
  wanted := "byte array"
  write bytes := binHeader bytes.length ++ bytes
  read depth := do
    match ← Item.read depth with
    | .bin bytes => return bytes
    | .str bytes => return bytes
    | .array n =>
      let values ← many ((int .u8).read (depth - 1)) n
      return values.map fun v => UInt8.ofNat v.val.toNat
    | item => throw (item.reject "byte array")
  ofByte b := .error (refuseByte "byte array" b)

/-- An id is a binary of sixteen bytes; bytes that only claim to be text are taken as they are. -/
def id : Wire MessageId where
  wanted := "a 16 byte array"
  write id := binHeader id.bytes.length ++ id.bytes
  read depth := do
    match ← Item.read depth with
    | .bin bytes =>
      match MessageId.ofBytes? bytes with
      | some id => return id
      | none => throw (.idLength bytes.length)
    | .str bytes =>
      match Utf8.decode? bytes, MessageId.ofBytes? bytes with
      | none, some id => return id
      | _, _ => throw (Item.reject (.str bytes) "a 16 byte array")
    | item => throw (item.reject "a 16 byte array")
  ofByte b := .error (refuseByte "a formatted UUID string" b)

def readVariant (depth : Nat) : Reader Status := do
  match ← Item.read depth with
  | .str bytes =>
    match Utf8.decode? bytes with
    | some name => named name
    | none => throw (.notText (Utf8.fault bytes))
  | .bin bytes =>
    match Utf8.decode? bytes with
    | some name => named name
    | none => throw (.unknownVariant (Utf8.decodeLossy bytes))
  | .number (.natural n) =>
    match Status.ofIndex? n with
    | some status => return status
    | none => throw (.wrongValue (.integer n) "variant index 0 <= i < 2")
  | item => throw (item.reject "variant identifier")
where
  named (name : String) : Reader Status :=
    match Status.ofName? name with
    | some status => return status
    | none => throw (.unknownVariant name)

/-- The number of entries that a map marker at the front announces, if one stands there whole. -/
def mapLength? (bytes : Bytes) : Option (Nat × Bytes) :=
  match Reader.marker bytes with
  | .ok (.fixMap n, rest) => some (n, rest)
  | .ok (.map16, rest) => (Reader.natural 2 rest).toOption
  | .ok (.map32, rest) => (Reader.natural 4 rest).toOption
  | _ => none

/-- A status is its name or its index, or a single entry of one of them with nothing. -/
def status : Wire Status where
  wanted := "enum Status"
  write status := strBytes status.name
  read depth := fun bytes =>
    match mapLength? bytes with
    | some (1, rest) => entry depth rest
    | some (n, _) => .error (.lengthMismatch n)
    | none => readVariant depth bytes
  ofByte b := .error (refuseByte "enum Status" b)
where
  entry (depth : Nat) : Reader Status := do
    let status ← readVariant depth
    match ← Reader.marker with
    | .null => return status
    | marker => throw (.wrongMarker marker)

def field : (t : FieldType) → Wire t.Value
  | .text => text
  | .int t => int t
  | .float => float
  | .bytes => bytes
  | .id => id
  | .status => status
  | .texts => list text

/-- Reads `n` entries; of two with one key the later one stays. -/
def readEntries (depth : Nat) : Nat → Table → Reader Table
  | 0, table => return table
  | n + 1, table => do
    let key ← text.read depth
    let value ← text.read depth
    readEntries depth n (table.insert key value)

def table : Wire Table where
  wanted := "a map"
  write table :=
    mapHeader table.entries.length ++
      table.entries.flatMap fun (key, value) => strBytes key ++ strBytes value
  read depth := do
    match ← Item.read depth with
    | .map n => readEntries (depth - 1) n .empty
    | item => throw (item.reject "a map")
  ofByte b := .error (refuseByte "a map" b)

def Slots : List Field → Type
  | [] => Unit
  | field :: fields => Option field.type.Value × Slots fields

def Slots.empty : (fields : List Field) → Slots fields
  | [] => ()
  | _ :: fields => (none, Slots.empty fields)

def Slots.fill (depth : Nat) : (fields : List Field) → (index : Nat) → Slots fields →
    Reader (Slots fields)
  | [], _, slots => return slots
  | f :: _, 0, (none, slots) => do return (some (← (field f.type).read depth), slots)
  | f :: _, 0, (some _, _) => throw (.duplicateField f.name)
  | _ :: fields, index + 1, (value, slots) => do return (value, ← fill depth fields index slots)

def Slots.finish : (fields : List Field) → Slots fields → Except DecodeError (FieldValues fields)
  | [], () => .ok ()
  | f :: fields, (value, slots) =>
    match value <|> f.absent with
    | none => .error (.missingField f.name)
    | some value => do return (value, ← finish fields slots)

/-- The field that a key names: by name in a text or a binary, by index in a number without a sign.
`none` stands for a field that this record does not have. -/
def readKey (fields : List Field) (depth : Nat) : Reader (Option Nat) := do
  match ← Item.read depth with
  | .str bytes => return named bytes
  | .bin bytes => return named bytes
  | .number (.natural n) => return if n < fields.length then some n else none
  | item => throw (item.reject "field identifier")
where
  named (bytes : Bytes) : Option Nat := fields.findIdx? fun f => Utf8.encode f.name = bytes

/-- Reads `n` entries; those of unknown fields are passed over. -/
def readFields (fields : List Field) (depth : Nat) : Nat → Slots fields → Reader (Slots fields)
  | 0, slots => return slots
  | n + 1, slots => do
    match ← readKey fields depth with
    | some index => readFields fields depth n (← slots.fill depth fields index)
    | none =>
      skip depth
      readFields fields depth n slots

def readPositions (record : Record) (depth : Nat) : (fields : List Field) → (left : Nat) →
    Reader (FieldValues fields × Nat)
  | [], left => return ((), left)
  | f :: fields, 0 =>
    match f.absent with
    | none =>
      throw (.tooShort (record.fields.length - (fields.length + 1)) record.name record.fields.length)
    | some value => do
      let (values, left) ← readPositions record depth fields 0
      return ((value, values), left)
  | f :: fields, left + 1 => do
    let value ← (field f.type).read depth
    let (values, left) ← readPositions record depth fields left
    return ((value, values), left)

/-- The fields by position from the bytes of a binary; bytes that are over count for nothing. -/
def ofBytes (record : Record) : (fields : List Field) → Bytes → Except DecodeError (FieldValues fields)
  | [], _ => .ok ()
  | f :: fields, [] =>
    match f.absent with
    | none =>
      .error (.tooShort (record.fields.length - (fields.length + 1)) record.name record.fields.length)
    | some value => do return (value, ← ofBytes record fields [])
  | f :: fields, b :: rest => do
    let value ← (field f.type).ofByte b
    return (value, ← ofBytes record fields rest)

def fieldBytes : (fields : List Field) → FieldValues fields → Bytes
  | [], () => []
  | f :: fields, (value, values) =>
    strBytes f.name ++ (field f.type).write value ++ fieldBytes fields values

def record (r : Record) : Wire r.Value where
  wanted := "struct " ++ r.name
  write values := mapHeader r.fields.length ++ fieldBytes r.fields values
  read depth := do
    match ← Item.read depth with
    | .map n => Slots.finish r.fields (← readFields r.fields (depth - 1) n (Slots.empty r.fields))
    | .array n =>
      let (values, surplus) ← readPositions r (depth - 1) r.fields n
      if surplus = 0 then return values else throw (.lengthMismatch (n - surplus))
    | .bin bytes => ofBytes r r.fields bytes
    | item => throw (item.reject ("struct " ++ r.name))
  ofByte b := .error (refuseByte ("struct " ++ r.name) b)

end Wire

def Shape.wire : (shape : Shape) → Wire shape.Value
  | unit => Wire.unit
  | plain t => Wire.field t
  | table => Wire.table
  | record r => Wire.record r
  | records r => Wire.list (Wire.record r)

namespace Shape

def encode (shape : Shape) (value : shape.Value) : Bytes := shape.wire.write value

/-- Reads one value; what follows it is not looked at. -/
def decode (shape : Shape) (bytes : Bytes) : Except DecodeError shape.Value :=
  match shape.wire.read depthLimit bytes with
  | .ok (value, _) => .ok value
  | .error e => .error e

end Shape

end Fleetwire.MessagePack
