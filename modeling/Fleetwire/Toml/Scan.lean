import Fleetwire.Toml.Node

namespace Fleetwire.Toml

abbrev Scan (α : Type) := StateT (List Char) Option α

namespace Scan

def ahead : Scan (List Char) := get

def char (c : Char) : Scan Unit
  | d :: rest => if c = d then some ((), rest) else none
  | [] => none

def literal (text : String) : Scan Unit := fun cs =>
  if text.toList.isPrefixOf cs then some ((), cs.drop text.toList.length) else none

def span (p : Char → Bool) : Scan (List Char) := fun cs => some (cs.takeWhile p, cs.dropWhile p)

def span1 (p : Char → Bool) : Scan (List Char) := do
  let cs ← span p
  if cs.isEmpty then failure else return cs

def optional (scan : Scan α) : Scan (Option α) := fun cs =>
  match scan cs with
  | some (value, rest) => some (some value, rest)
  | none => some (none, cs)

def either (first second : Scan α) : Scan α := fun cs =>
  match first cs with
  | some found => some found
  | none => second cs

def isBlank (c : Char) : Bool := c = ' ' ∨ c = '\t'

def blanks : Scan Unit := do let _ ← span isBlank

def isVisible (c : Char) : Bool := c = '\t' ∨ (' ' ≤ c ∧ c ≠ '\x7f')

def newline : Scan Unit := either (char '\n') (literal "\r\n")

def comment : Scan Unit := do
  char '#'
  let _ ← span isVisible

def lineEnd : Scan Unit
  | [] => some ((), [])
  | cs => newline cs

def lineRest : Scan Unit := do
  blanks
  let _ ← optional comment
  lineEnd

def gaps : (fuel : Nat) → Scan Unit
  | 0 => failure
  | fuel + 1 => do
    blanks
    match ← ahead with
    | '#' :: _ =>
      comment
      newline
      gaps fuel
    | '\n' :: _ | '\r' :: _ =>
      newline
      gaps fuel
    | _ => return ()

def hexValue? (c : Char) : Option Nat :=
  let n := c.toNat
  if '0'.toNat ≤ n ∧ n ≤ '9'.toNat then some (n - '0'.toNat)
  else if 'a'.toNat ≤ n ∧ n ≤ 'f'.toNat then some (n - 'a'.toNat + 10)
  else if 'A'.toNat ≤ n ∧ n ≤ 'F'.toNat then some (n - 'A'.toNat + 10)
  else none

def codePoint (width : Nat) : Scan Char := fun cs => do
  let digits ← (cs.take width).mapM hexValue?
  if digits.length ≠ width then none
  else
    let n := digits.foldl (fun n d => n * 16 + d) 0
    if n.isValidChar then some (Char.ofNat n, cs.drop width) else none

def escaped : Scan Char
  | 'b' :: rest => some ('\x08', rest)
  | 't' :: rest => some ('\t', rest)
  | 'n' :: rest => some ('\n', rest)
  | 'f' :: rest => some ('\x0c', rest)
  | 'r' :: rest => some ('\r', rest)
  | '"' :: rest => some ('"', rest)
  | '\\' :: rest => some ('\\', rest)
  | 'u' :: rest => codePoint 4 rest
  | 'U' :: rest => codePoint 8 rest
  | _ => none

def basicBody : (fuel : Nat) → Scan (List Char)
  | 0 => failure
  | fuel + 1 => fun cs =>
    match cs with
    | '"' :: rest => some ([], rest)
    | '\\' :: rest => do
      let (c, rest) ← escaped rest
      let (more, rest) ← basicBody fuel rest
      return (c :: more, rest)
    | c :: rest =>
      if isVisible c then do
        let (more, rest) ← basicBody fuel rest
        return (c :: more, rest)
      else none
    | [] => none

def literalBody : Scan (List Char) := do
  let text ← span fun c => isVisible c ∧ c ≠ '\''
  char '\''
  return text

/-- Closing quotes of a long string: three, with up to two more that belong to the text. -/
def closing? (quoteMark : Char) (cs : List Char) : Option (List Char × List Char) :=
  let run := (cs.takeWhile (· = quoteMark)).length
  if run < 3 then none
  else
    let own := min (run - 3) 2
    some (List.replicate own quoteMark, cs.drop (own + 3))

def folded : Scan Unit := do
  blanks
  newline
  fun cs => some ((), cs.dropWhile fun c => isBlank c ∨ c = '\n' ∨ c = '\r')

def longBasicBody : (fuel : Nat) → Scan (List Char)
  | 0 => failure
  | fuel + 1 => fun cs =>
    match closing? '"' cs with
    | some found => some found
    | none =>
      match cs with
      | '\\' :: rest =>
        match folded rest with
        | some ((), rest) => longBasicBody fuel rest
        | none => do
          let (c, rest) ← escaped rest
          let (more, rest) ← longBasicBody fuel rest
          return (c :: more, rest)
      | '\r' :: '\n' :: rest | '\n' :: rest => do
        let (more, rest) ← longBasicBody fuel rest
        return ('\n' :: more, rest)
      | c :: rest =>
        if isVisible c then do
          let (more, rest) ← longBasicBody fuel rest
          return (c :: more, rest)
        else none
      | [] => none

def longLiteralBody : (fuel : Nat) → Scan (List Char)
  | 0 => failure
  | fuel + 1 => fun cs =>
    match closing? '\'' cs with
    | some found => some found
    | none =>
      match cs with
      | '\r' :: '\n' :: rest | '\n' :: rest => do
        let (more, rest) ← longLiteralBody fuel rest
        return ('\n' :: more, rest)
      | c :: rest =>
        if isVisible c then do
          let (more, rest) ← longLiteralBody fuel rest
          return (c :: more, rest)
        else none
      | [] => none

def string : Scan String := fun cs => do
  let fuel := cs.length + 1
  let body : Scan (List Char) := do
    match ← ahead with
    | '"' :: '"' :: '"' :: _ =>
      literal "\"\"\""
      let _ ← optional newline
      longBasicBody fuel
    | '\'' :: '\'' :: '\'' :: _ =>
      literal "'''"
      let _ ← optional newline
      longLiteralBody fuel
    | '"' :: _ =>
      char '"'
      basicBody fuel
    | _ =>
      char '\''
      literalBody
  let (text, rest) ← body cs
  return (String.ofList text, rest)

def isBare (c : Char) : Bool := c.isAlphanum ∨ c = '_' ∨ c = '-'

def simpleKey : Scan String := fun cs =>
  match cs with
  | '"' :: rest => do
    let (text, rest) ← basicBody (rest.length + 1) rest
    return (String.ofList text, rest)
  | '\'' :: rest => do
    let (text, rest) ← literalBody rest
    return (String.ofList text, rest)
  | _ => do
    let (text, rest) ← span1 isBare cs
    return (String.ofList text, rest)

/-- Keys and values may be nested less deep than this. -/
def nesting : Nat := 80

def keyParts : (fuel : Nat) → Scan (List String × String)
  | 0 => failure
  | fuel + 1 => do
    blanks
    let part ← simpleKey
    blanks
    match ← ahead with
    | '.' :: _ =>
      char '.'
      let (path, last) ← keyParts fuel
      return (part :: path, last)
    | _ => return ([], part)

def key : Scan (List String × String) := keyParts (nesting - 1)

def digit (c : Char) : Bool := '0' ≤ c ∧ c ≤ '9'

def digits (p : Char → Bool) : (fuel : Nat) → Scan (List Char)
  | 0 => failure
  | fuel + 1 => fun cs =>
    match cs with
    | c :: '_' :: rest => if p c then (digits p fuel rest).map fun (more, rest) => (c :: more, rest) else none
    | c :: d :: rest =>
      if p c then
        if p d then (digits p fuel (d :: rest)).map fun (more, rest) => (c :: more, rest)
        else some ([c], d :: rest)
      else none
    | [c] => if p c then some ([c], []) else none
    | [] => none

def digitRun (p : Char → Bool) : Scan (List Char) := fun cs => digits p (cs.length + 1) cs

def valueOf (radix : Nat) (cs : List Char) : Nat :=
  cs.foldl (fun n c => n * radix + (hexValue? c).getD 0) 0

def sign : Scan Bool
  | '-' :: rest => some (true, rest)
  | '+' :: rest => some (false, rest)
  | cs => some (false, cs)

def wholeDigits : Scan (List Char)
  | '0' :: rest => some (['0'], rest)
  | cs => digitRun digit cs

def inRange (i : Int) : Scan Node :=
  if Int64.minValue.toInt ≤ i ∧ i ≤ Int64.maxValue.toInt then return .integer i else failure

def integer : Scan Node := do
  let radix (mark : String) (n : Nat) (p : Char → Bool) : Scan Node := do
    literal mark
    inRange (valueOf n (← digitRun p))
  match ← ahead with
  | '0' :: 'x' :: _ => radix "0x" 16 fun c => (hexValue? c).isSome
  | '0' :: 'o' :: _ => radix "0o" 8 fun c => '0' ≤ c ∧ c ≤ '7'
  | '0' :: 'b' :: _ => radix "0b" 2 fun c => c = '0' ∨ c = '1'
  | _ =>
    let negative ← sign
    let n := valueOf 10 (← wholeDigits)
    inRange (if negative then -n else n)

def exponent : Scan Int := do
  match ← ahead with
  | 'e' :: _ => char 'e'
  | _ => char 'E'
  let negative ← sign
  let n := valueOf 10 (← digitRun digit)
  return if negative then -n else n

/-- A number with a fraction or an exponent. One too large is refused, except below zero. -/
def decimal : Scan Node := do
  let negative ← sign
  let whole ← wholeDigits
  let fraction ← optional (do char '.'; digitRun digit)
  let power ← if fraction.isSome then optional exponent else some <$> exponent
  let fraction := fraction.getD []
  let d : Binary64.Decimal := ⟨valueOf 10 (whole ++ fraction), power.getD 0 - fraction.length⟩
  let x := Binary64.ofDecimal d negative
  if x = .infinity false then failure else return .float x

def namedFloat : Scan Node := do
  let negative ← sign
  either (do literal "inf"; return .float (.infinity negative))
    (do literal "nan"; return .float .nan)

def fixed (width least greatest : Nat) : Scan Nat := fun cs =>
  let digits := cs.take width
  let n := valueOf 10 digits
  if digits.length = width ∧ digits.all digit ∧ least ≤ n ∧ n ≤ greatest then some (n, cs.drop width)
  else none

def daysIn (year month : Nat) : Nat :=
  if month = 2 then if year % 4 = 0 ∧ (year % 100 ≠ 0 ∨ year % 400 = 0) then 29 else 28
  else if month ∈ [4, 6, 9, 11] then 30
  else 31

def date : Scan Unit := do
  let year ← fixed 4 0 9999
  char '-'
  let month ← fixed 2 1 12
  char '-'
  let _ ← fixed 2 1 (daysIn year month)

def time : Scan Unit := do
  let _ ← fixed 2 0 23
  char ':'
  let _ ← fixed 2 0 59
  char ':'
  let _ ← fixed 2 0 60
  let _ ← optional (do char '.'; span1 digit)

def offset : Scan Unit := do
  match ← ahead with
  | 'Z' :: _ => char 'Z'
  | 'z' :: _ => char 'z'
  | '+' :: _ | '-' :: _ =>
    let _ ← sign
    let _ ← fixed 2 0 23
    char ':'
    let _ ← fixed 2 0 59
  | _ => failure

def datetime : Scan Node := do
  let delimiter : Scan Unit := do
    match ← ahead with
    | 'T' :: _ => char 'T'
    | 't' :: _ => char 't'
    | _ => char ' '
  either
    (do
      date
      let _ ← optional (do
        delimiter
        time
        let _ ← optional offset)
      return .datetime)
    (do time; return .datetime)

/-- Items between commas, with gaps around each and a comma after the last allowed, up to and with the
closing bracket. -/
def items (item : Scan Node) : (fuel : Nat) → Scan (List Node)
  | 0 => failure
  | fuel + 1 => do
    gaps (fuel + 1)
    match ← ahead with
    | ']' :: _ =>
      char ']'
      return []
    | _ =>
      let first ← item
      gaps (fuel + 1)
      match ← ahead with
      | ',' :: _ =>
        char ','
        return first :: (← items item fuel)
      | _ =>
        char ']'
        return [first]

def pairs (item : Scan Node) : (fuel : Nat) → Entries → Scan Entries
  | 0, _ => failure
  | fuel + 1, entries => do
    let (path, last) ← key
    char '='
    blanks
    let node ← item
    blanks
    let entries ← (entries.addInline? path last node : Option Entries)
    match ← ahead with
    | ',' :: _ =>
      char ','
      pairs item fuel entries
    | _ =>
      char '\x7d'
      return entries

def scalar : Scan Node := do
  match ← ahead with
  | '"' :: _ | '\'' :: _ => Node.string <$> string
  | 't' :: _ =>
    literal "true"
    return .boolean true
  | 'f' :: _ =>
    literal "false"
    return .boolean false
  | _ => either datetime (either decimal (either namedFloat integer))

def value : (depth : Nat) → Scan Node
  | 0 => scalar
  | depth + 1 => fun cs =>
    match cs with
    | '[' :: rest => (Node.array <$> items (value depth) (rest.length + 1)) rest
    | '\x7b' :: rest =>
      match (do blanks; char '\x7d' : Scan Unit) rest with
      | some ((), rest) => some (.table .inline [], rest)
      | none => (Node.table .inline <$> pairs (value depth) (rest.length + 1) []) rest
    | _ => scalar cs

end Scan

end Fleetwire.Toml
