namespace Fleetwire

abbrev Bytes := List UInt8

namespace Bytes

def bigEndian : (width : Nat) → (n : Nat) → Bytes
  | 0, _ => []
  | width + 1, n => bigEndian width (n / 256) ++ [UInt8.ofNat n]

def span : (width : Nat) → Nat
  | 0 => 1
  | width + 1 => span width * 256

def toNat (bs : Bytes) : Nat :=
  bs.foldl (fun n b => n * 256 + b.toNat) 0

theorem length_bigEndian (width n : Nat) : (bigEndian width n).length = width := by
  induction width generalizing n with
  | zero => rfl
  | succ w ih => simp [bigEndian, ih]

theorem toNat_append_singleton (bs : Bytes) (b : UInt8) :
    toNat (bs ++ [b]) = toNat bs * 256 + b.toNat := by
  simp [toNat]

theorem toNat_bigEndian {width n : Nat} (h : n < span width) : toNat (bigEndian width n) = n := by
  induction width generalizing n with
  | zero => simp [toNat, bigEndian]; rw [span] at h; omega
  | succ w ih =>
    have hq : n / 256 < span w := by
      rw [span] at h
      exact Nat.div_lt_of_lt_mul (by omega)
    rw [bigEndian, toNat_append_singleton, ih hq, UInt8.toNat_ofNat']
    omega

def toInt (bs : Bytes) : Int :=
  let n := toNat bs
  if 2 * n < span bs.length then n else (n : Int) - span bs.length

def ofInt (width : Nat) (i : Int) : Bytes :=
  bigEndian width (i % span width).toNat

def hexDigit (n : Nat) : Char :=
  if n < 10 then Char.ofNat ('0'.toNat + n) else Char.ofNat ('a'.toNat + (n - 10))

def hex (bs : Bytes) : String :=
  String.ofList (bs.flatMap fun b => [hexDigit (b.toNat / 16), hexDigit (b.toNat % 16)])

end Bytes

end Fleetwire
