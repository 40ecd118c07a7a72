namespace Fleetwire

structure Duration where
  nanoseconds : Nat
deriving DecidableEq, Repr

namespace Duration

def ofSeconds (seconds : Nat) : Duration := ⟨seconds * 1_000_000_000⟩

def ofMilliseconds (milliseconds : Nat) : Duration := ⟨milliseconds * 1_000_000⟩

def decimal (count places : Nat) : String :=
  let unit := Nat.pow 10 places
  let whole := toString (count / unit)
  let digits := Nat.toDigits 10 (count % unit)
  let padded := List.replicate (places - digits.length) '0' ++ digits
  let fraction := (padded.reverse.dropWhile (· = '0')).reverse
  if fraction.isEmpty then whole else whole ++ "." ++ String.ofList fraction

def display (d : Duration) : String :=
  if d.nanoseconds ≥ 1_000_000_000 then decimal d.nanoseconds 9 ++ "s"
  else if d.nanoseconds ≥ 1_000_000 then decimal d.nanoseconds 6 ++ "ms"
  else if d.nanoseconds ≥ 1_000 then decimal d.nanoseconds 3 ++ "µs"
  else decimal d.nanoseconds 0 ++ "ns"

end Duration

end Fleetwire
