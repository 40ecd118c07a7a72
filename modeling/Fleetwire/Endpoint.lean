namespace Fleetwire

inductive Endpoint where
  | v4 (a b c d : UInt8) (port : UInt16)
  | v6 (groups : List UInt16) (zone : UInt32) (port : UInt16)
deriving DecidableEq, Repr

namespace Endpoint

abbrev Scan (α : Type) := StateT (List Char) Option α

def char (c : Char) : Scan Unit
  | d :: rest => if c = d then some ((), rest) else none
  | [] => none

def digitValue? (radix : Nat) (c : Char) : Option Nat :=
  let n := c.toNat
  let value :=
    if '0'.toNat ≤ n ∧ n ≤ '9'.toNat then some (n - '0'.toNat)
    else if 'a'.toNat ≤ n ∧ n ≤ 'f'.toNat then some (n - 'a'.toNat + 10)
    else if 'A'.toNat ≤ n ∧ n ≤ 'F'.toNat then some (n - 'A'.toNat + 10)
    else none
  value.filter (· < radix)

/-- A number below `bound`, of at most `width` digits if there is a width. Zeros in front of it count
as digits, and stand only where they are `padded`. -/
def number (radix bound : Nat) (width : Option Nat) (padded : Bool) : Scan Nat := fun cs =>
  let digits := (cs.takeWhile fun c => (digitValue? radix c).isSome).filterMap (digitValue? radix)
  let value := digits.foldl (fun n d => n * radix + d) 0
  let tooWide := match width with
    | none => false
    | some width => width < digits.length
  if digits.isEmpty || tooWide || bound ≤ value then none
  else if !padded && digits.head? == some 0 && digits.length > 1 then none
  else some (value, cs.drop digits.length)

def address4 : Scan (UInt8 × UInt8 × UInt8 × UInt8) := do
  let octet : Scan UInt8 := UInt8.ofNat <$> number 10 256 (some 3) false
  let a ← octet
  char '.'
  let b ← octet
  char '.'
  let c ← octet
  char '.'
  let d ← octet
  return (a, b, c, d)

def groups : (room : Nat) → (first : Bool) → List Char → List UInt16 × Bool × List Char
  | 0, _, cs => ([], false, cs)
  | room + 1, first, cs =>
    let apart {α : Type} (scan : Scan α) : Scan α := do
      if !first then char ':'
      scan
    match if room = 0 then none else apart address4 cs with
    | some ((a, b, c, d), rest) =>
      let pair (x y : UInt8) : UInt16 := UInt16.ofNat (x.toNat * 256 + y.toNat)
      ([pair a b, pair c d], true, rest)
    | none =>
      match apart (number 16 UInt16.size (some 4) true) cs with
      | none => ([], false, cs)
      | some (group, rest) =>
        let (more, asOctets, rest) := groups room false rest
        (UInt16.ofNat group :: more, asOctets, rest)

def address6 : Scan (List UInt16) := fun cs =>
  let (head, asOctets, rest) := groups 8 true cs
  if head.length = 8 then some (head, rest)
  else if asOctets then none
  else do
    let ((), rest) ← (do char ':'; char ':' : Scan Unit) rest
    let (tail, _, rest) := groups (7 - head.length) true rest
    return (head ++ List.replicate (8 - head.length - tail.length) 0 ++ tail, rest)

def port : Scan UInt16 := do
  char ':'
  return UInt16.ofNat (← number 10 UInt16.size none true)

def zone : Scan UInt32 := do
  char '%'
  return UInt32.ofNat (← number 10 UInt32.size none true)

def endpoint4 : Scan Endpoint := do
  let (a, b, c, d) ← address4
  return .v4 a b c d (← port)

def endpoint6 : Scan Endpoint := do
  char '['
  let groups ← address6
  let zone ← (fun cs => some ((zone cs).getD (0, cs)) : Scan UInt32)
  char ']'
  return .v6 groups zone (← port)

def ofString? (text : String) : Option Endpoint :=
  let whole (scan : Scan Endpoint) : Option Endpoint :=
    match scan text.toList with
    | some (endpoint, []) => some endpoint
    | _ => none
  whole endpoint4 <|> whole endpoint6

def octets (a b c d : Nat) : String :=
  s!"{a}.{b}.{c}.{d}"

def hex (group : UInt16) : String := String.ofList (Nat.toDigits 16 group.toNat)

def longestZeros (position : Nat) : List UInt16 → Nat × Nat
  | [] => (position, 0)
  | group :: rest =>
    let later := longestZeros (position + 1) rest
    let run := ((group :: rest).takeWhile (· = 0)).length
    if later.2 ≤ run then (position, run) else later

def displayGroups (groups : List UInt16) : String :=
  match groups with
  | [0, 0, 0, 0, 0, 0xffff, high, low] =>
    "::ffff:" ++ octets (high.toNat / 256) (high.toNat % 256) (low.toNat / 256) (low.toNat % 256)
  | _ =>
    let join (groups : List UInt16) : String := String.intercalate ":" (groups.map hex)
    let (start, length) := longestZeros 0 groups
    if length < 2 then join groups
    else join (groups.take start) ++ "::" ++ join (groups.drop (start + length))

def display : Endpoint → String
  | v4 a b c d port => octets a.toNat b.toNat c.toNat d.toNat ++ s!":{port.toNat}"
  | v6 groups zone port =>
    let zone := if zone = 0 then "" else s!"%{zone.toNat}"
    "[" ++ displayGroups groups ++ zone ++ s!"]:{port.toNat}"

end Endpoint

end Fleetwire
