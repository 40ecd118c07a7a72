import Fleetwire.Bytes

namespace Fleetwire

structure Binary64 where
  bits : UInt64
deriving DecidableEq, Repr

namespace Binary64

def isNegative (x : Binary64) : Bool := x.bits.toNat ≥ 1 <<< 63

def exponentField (x : Binary64) : Nat := (x.bits.toNat >>> 52) % 2048

def fractionField (x : Binary64) : Nat := x.bits.toNat % (1 <<< 52)

def isFinite (x : Binary64) : Bool := x.exponentField ≠ 2047

def isNaN (x : Binary64) : Bool := x.exponentField = 2047 ∧ x.fractionField ≠ 0

def ofFields (negative : Bool) (exponent fraction : Nat) : Binary64 :=
  ⟨UInt64.ofNat ((if negative then 1 <<< 63 else 0) + (exponent <<< 52) + fraction)⟩

/-- The quotient, to the nearest whole number and from the middle to the even one. -/
def divRound (n d : Nat) : Nat :=
  let q := n / d
  let r := n % d
  if 2 * r < d then q else if d < 2 * r then q + 1 else if q % 2 = 0 then q else q + 1

def ofNat (n : Nat) (negative : Bool := false) : Binary64 :=
  if n = 0 then ofFields negative 0 0
  else
    let top := n.log2
    -- A significand rounded up to 2^53 carries into the exponent by itself.
    let significand := if top ≤ 52 then n <<< (52 - top) else divRound n (1 <<< (top - 52))
    ofFields negative (1022 + top) significand

def ofInt (i : Int) : Binary64 := if i < 0 then ofNat i.natAbs true else ofNat i.toNat

/-- The number that 32 bits stand for. A NaN keeps its leading bits and is made quiet. -/
def ofBinary32 (bits : Nat) : Binary64 :=
  let negative := bits ≥ 1 <<< 31
  let exponent := (bits >>> 23) % 256
  let fraction := bits % (1 <<< 23)
  if exponent = 255 then
    if fraction = 0 then ofFields negative 2047 0
    else ofFields negative 2047 (fraction <<< 29 ||| 1 <<< 51)
  else if exponent = 0 then
    if fraction = 0 then ofFields negative 0 0
    else
      let top := fraction.log2
      ofFields negative (1022 - 149 + top) (fraction <<< (52 - top))
  else ofFields negative (exponent + 1023 - 127) (fraction <<< 29)

def infinity (negative : Bool) : Binary64 := ofFields negative 2047 0

def nan : Binary64 := ofFields false 2047 (1 <<< 51)

def ofRatio (n d : Nat) (negative : Bool := false) : Binary64 :=
  if n = 0 then ofFields negative 0 0
  else
    let guess : Int := n.log2 - d.log2
    let reached := d <<< guess.toNat ≤ n <<< (-guess).toNat
    -- Below the least normal number the grid gets no finer.
    let top := max (if reached then guess else guess - 1) (-1022)
    let shift := 52 - top
    let significand := divRound (n <<< shift.toNat) (d <<< (-shift).toNat)
    let fields := ((1022 + top).toNat <<< 52) + significand
    if fields ≥ 2047 <<< 52 then infinity negative else ofFields negative 0 fields

structure Decimal where
  digits : Nat
  exponent : Int
deriving DecidableEq, Repr

/-- The number nearest to a decimal. Far outside of the range the power of ten is not formed. -/
def ofDecimal (d : Decimal) (negative : Bool := false) : Binary64 :=
  let places := (Nat.toDigits 10 d.digits).length + d.exponent
  if d.digits = 0 ∨ places < -400 then ofFields negative 0 0
  else if places > 400 then infinity negative
  else ofRatio (d.digits * Nat.pow 10 d.exponent.toNat) (Nat.pow 10 (-d.exponent).toNat) negative

/-- Four times the magnitude and the two ends of the interval that rounds to it, each over `den`. -/
structure Interval where
  low : Nat
  value : Nat
  high : Nat
  den : Nat
  closed : Bool

def interval (x : Binary64) : Interval :=
  let normal := x.exponentField ≠ 0
  let m := x.fractionField + if normal then 1 <<< 52 else 0
  let q : Int := (if normal then (x.exponentField : Int) else 1) - 1077
  -- Below a power of two the neighbours lie twice as close.
  let below := if normal ∧ x.fractionField = 0 ∧ x.exponentField > 1 then 1 else 2
  let up := 1 <<< q.toNat
  { low := (4 * m - below) * up
    value := 4 * m * up
    high := (4 * m + 2) * up
    den := 1 <<< (-q).toNat
    closed := m % 2 = 0 }

def floorLog10 (n d : Nat) : Int :=
  if d ≤ n then (Nat.toDigits 10 (n / d)).length - 1
  else
    let rec below : Nat → Nat → Int
      | 0, k => -k
      | fuel + 1, k => if d ≤ n * Nat.pow 10 k then -k else below fuel (k + 1)
    below 400 1

def Interval.onGrid? (i : Interval) (exponent : Int) : Option Decimal :=
  let up := Nat.pow 10 (-exponent).toNat
  let step := i.den * Nat.pow 10 exponent.toNat
  let low := i.low * up
  let value := i.value * up
  let high := i.high * up
  let inside (c : Nat) : Bool :=
    if i.closed then low ≤ c * step ∧ c * step ≤ high else low < c * step ∧ c * step < high
  let below := value / step
  let above := below + 1
  if inside below then
    if inside above ∧ above * step - value < value - below * step then some ⟨above, exponent⟩
    else some ⟨below, exponent⟩
  else if inside above then some ⟨above, exponent⟩
  else none

/-- The decimal with the fewest digits that reads back as a finite number other than zero. -/
def shortest (x : Binary64) : Decimal :=
  let i := x.interval
  let top := floorLog10 i.value i.den
  let grids := (List.range 17).map fun (n : Nat) => top - Int.ofNat n
  (grids.findSome? i.onGrid?).getD ⟨0, 0⟩

def Decimal.positional (d : Decimal) : String :=
  let digits := Nat.toDigits 10 d.digits
  if d.exponent ≥ 0 then
    String.ofList (digits ++ List.replicate d.exponent.toNat '0') ++ ".0"
  else
    let places := (-d.exponent).toNat
    let padded := List.replicate (places + 1 - digits.length) '0' ++ digits
    let whole := padded.take (padded.length - places)
    let fraction := (padded.drop (padded.length - places)).reverse.dropWhile (· = '0')
    let fraction := if fraction.isEmpty then ['0'] else fraction.reverse
    String.ofList (whole ++ ['.'] ++ fraction)

def display (x : Binary64) : String :=
  if x.isNaN then "NaN"
  else
    let sign := if x.isNegative then "-" else ""
    if !x.isFinite then sign ++ "inf"
    else if x.exponentField = 0 ∧ x.fractionField = 0 then sign ++ "0.0"
    else sign ++ x.shortest.positional

end Binary64

end Fleetwire
