/-! # The binary64 number nearest to a fraction

A positive finite binary64 number is `m · 2 ^ q` with `m < 2 ^ 53` and `q ≥ -1074`, and its bit
pattern as a number is `(q + 1074) · 2 ^ 52 + m` when `m ≥ 2 ^ 52` or `q = -1074`. Rounding
therefore needs exact natural arithmetic only: choose `q`, divide, round to nearest with ties to
even, and let a carry run into the exponent by itself.
-/

namespace VaultKeeper.Decimal

/-- The bit pattern of infinity, above every finite pattern. -/
def infinityBits : Nat := 0x7ff0000000000000

/-- The quotient rounded to the nearest natural number, a tie going to the even neighbour. -/
def roundEven (num den : Nat) : Nat :=
  let quotient := num / den
  let twice := 2 * (num % den)
  if twice < den then quotient
  else if twice = den then quotient + quotient % 2
  else quotient + 1

/-- `num / den / 2 ^ q` as a fraction of natural numbers. -/
def scaled (num den : Nat) (q : Int) : Nat × Nat :=
  if 0 ≤ q then (num, den <<< q.toNat) else (num <<< (-q).toNat, den)

/-- The exponent at which `num / den` has a significand of 53 bits, or -1074 if that is higher. -/
def exponentOf (num den : Nat) : Int :=
  let guess : Int := (Nat.log2 num : Int) - (Nat.log2 den : Int) - 52
  let (n, d) := scaled num den guess
  let exact := if n / d < 1 <<< 52 then guess - 1 else guess
  if exact < -1074 then -1074 else exact

/-- The bit pattern of the binary64 number nearest to `num / den`, a tie going to the even
pattern. -/
def nearestBits (num den : Nat) : Nat :=
  if num = 0 ∨ den = 0 then 0
  else
    let q := exponentOf num den
    let (n, d) := scaled num den q
    min infinityBits (((q + 1074).toNat <<< 52) + roundEven n d)

/-- The binary64 number nearest to a natural number. -/
def ofNat (n : Nat) : Float :=
  Float.ofBits (UInt64.ofNat (nearestBits n 1))

example : (nearestBits 1 1, nearestBits 3 2, nearestBits 1 10) =
    (0x3ff0000000000000, 0x3ff8000000000000, 0x3fb999999999999a) := by decide +kernel

/-- The parts of a binary64 number. -/
inductive Parts where
  | nan
  | infinite (negative : Bool)
  /-- The number `±significand · 2 ^ exponent`. -/
  | finite (negative : Bool) (significand : Nat) (exponent : Int)
deriving DecidableEq, Repr

/-- Take a bit pattern apart. -/
def Parts.ofBits (bits : Nat) : Parts :=
  let negative := decide (1 <<< 63 ≤ bits)
  let biased : Nat := (bits >>> 52) % (1 <<< 11)
  let fraction : Nat := bits % (1 <<< 52)
  if biased = 2047 then if fraction = 0 then .infinite negative else .nan
  else if biased = 0 then .finite negative fraction (-1074)
  else .finite negative ((1 <<< 52) + fraction) ((biased : Int) - 1075)

/-- The parts of a number. -/
def parts (x : Float) : Parts :=
  Parts.ofBits x.toBits.toNat

/-- The integer part of a number, at least 0 and at most `limit`; not-a-number counts as 0. -/
def truncate (limit : Nat) (x : Float) : Nat :=
  match parts x with
  | .nan | .infinite true | .finite true _ _ => 0
  | .infinite false => limit
  | .finite false significand exponent =>
    let (n, d) := scaled significand 1 (-exponent)
    min limit (n / d)

end VaultKeeper.Decimal
