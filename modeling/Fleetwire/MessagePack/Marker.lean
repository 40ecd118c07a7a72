import Fleetwire.Bytes

namespace Fleetwire.MessagePack

inductive Marker where
  | fixPos (value : Nat)
  | fixMap (length : Nat)
  | fixArray (length : Nat)
  | fixStr (length : Nat)
  | null
  | reserved
  | false
  | true
  | bin8
  | bin16
  | bin32
  | ext8
  | ext16
  | ext32
  | f32
  | f64
  | u8
  | u16
  | u32
  | u64
  | i8
  | i16
  | i32
  | i64
  | fixExt1
  | fixExt2
  | fixExt4
  | fixExt8
  | fixExt16
  | str8
  | str16
  | str32
  | array16
  | array32
  | map16
  | map32
  /-- A small negative number, by the distance from -32. -/
  | fixNeg (above : Nat)
deriving DecidableEq, Repr

namespace Marker

def ofByte (b : UInt8) : Marker :=
  let n := b.toNat
  if n < 0x80 then fixPos n
  else if n < 0x90 then fixMap (n - 0x80)
  else if n < 0xa0 then fixArray (n - 0x90)
  else if n < 0xc0 then fixStr (n - 0xa0)
  else
    match n with
    | 0xc0 => null
    | 0xc1 => reserved
    | 0xc2 => false
    | 0xc3 => true
    | 0xc4 => bin8
    | 0xc5 => bin16
    | 0xc6 => bin32
    | 0xc7 => ext8
    | 0xc8 => ext16
    | 0xc9 => ext32
    | 0xca => f32
    | 0xcb => f64
    | 0xcc => u8
    | 0xcd => u16
    | 0xce => u32
    | 0xcf => u64
    | 0xd0 => i8
    | 0xd1 => i16
    | 0xd2 => i32
    | 0xd3 => i64
    | 0xd4 => fixExt1
    | 0xd5 => fixExt2
    | 0xd6 => fixExt4
    | 0xd7 => fixExt8
    | 0xd8 => fixExt16
    | 0xd9 => str8
    | 0xda => str16
    | 0xdb => str32
    | 0xdc => array16
    | 0xdd => array32
    | 0xde => map16
    | 0xdf => map32
    | n => fixNeg (n - 0xe0)

def byte : Marker → UInt8
  | fixPos n => UInt8.ofNat n
  | fixMap n => UInt8.ofNat (0x80 + n)
  | fixArray n => UInt8.ofNat (0x90 + n)
  | fixStr n => UInt8.ofNat (0xa0 + n)
  | null => 0xc0
  | reserved => 0xc1
  | false => 0xc2
  | true => 0xc3
  | bin8 => 0xc4
  | bin16 => 0xc5
  | bin32 => 0xc6
  | ext8 => 0xc7
  | ext16 => 0xc8
  | ext32 => 0xc9
  | f32 => 0xca
  | f64 => 0xcb
  | u8 => 0xcc
  | u16 => 0xcd
  | u32 => 0xce
  | u64 => 0xcf
  | i8 => 0xd0
  | i16 => 0xd1
  | i32 => 0xd2
  | i64 => 0xd3
  | fixExt1 => 0xd4
  | fixExt2 => 0xd5
  | fixExt4 => 0xd6
  | fixExt8 => 0xd7
  | fixExt16 => 0xd8
  | str8 => 0xd9
  | str16 => 0xda
  | str32 => 0xdb
  | array16 => 0xdc
  | array32 => 0xdd
  | map16 => 0xde
  | map32 => 0xdf
  | fixNeg n => UInt8.ofNat (0xe0 + n)

theorem byte_ofByte (b : UInt8) : (ofByte b).byte = b := by
  have h : ∀ n : Fin 256, (ofByte (UInt8.ofFin n)).byte = UInt8.ofFin n := by decide +kernel
  simpa using h b.toFin

def name : Marker → String
  | fixPos n => s!"FixPos({n})"
  | fixMap n => s!"FixMap({n})"
  | fixArray n => s!"FixArray({n})"
  | fixStr n => s!"FixStr({n})"
  | null => "Null"
  | reserved => "Reserved"
  | false => "False"
  | true => "True"
  | bin8 => "Bin8"
  | bin16 => "Bin16"
  | bin32 => "Bin32"
  | ext8 => "Ext8"
  | ext16 => "Ext16"
  | ext32 => "Ext32"
  | f32 => "F32"
  | f64 => "F64"
  | u8 => "U8"
  | u16 => "U16"
  | u32 => "U32"
  | u64 => "U64"
  | i8 => "I8"
  | i16 => "I16"
  | i32 => "I32"
  | i64 => "I64"
  | fixExt1 => "FixExt1"
  | fixExt2 => "FixExt2"
  | fixExt4 => "FixExt4"
  | fixExt8 => "FixExt8"
  | fixExt16 => "FixExt16"
  | str8 => "Str8"
  | str16 => "Str16"
  | str32 => "Str32"
  | array16 => "Array16"
  | array32 => "Array32"
  | map16 => "Map16"
  | map32 => "Map32"
  | fixNeg n => "FixNeg(" ++ toString (Int.ofNat n - 32) ++ ")"

end Marker

end Fleetwire.MessagePack
