import VaultKeeper.Decimal.Nearest
import VaultKeeper.Text.Basic

/-! # The shortest decimal that reads back

Of all decimals that round to a given binary64 number the one with the fewest digits is written, and
of several with that many digits the one nearest to the number. The decimals of a given number of
digits form a grid, and if the interval of numbers that round to `m · 2 ^ q` holds a grid point, it
holds one of the two next to `m · 2 ^ q`; so two candidates for each count of digits are enough.
-/

namespace VaultKeeper.Decimal

/-- A positive number as `digits · 10 ^ exponent`. -/
structure Digits where
  digits : Nat
  exponent : Int
deriving DecidableEq, Repr

/-- Does the fraction round to the number with this bit pattern? -/
def readsBack (bits num den : Nat) : Bool :=
  nearestBits num den == bits

/-- The fraction `digits · 10 ^ exponent`. -/
def Digits.fraction (d : Digits) : Nat × Nat :=
  if 0 ≤ d.exponent then (d.digits * Nat.pow 10 d.exponent.toNat, 1)
  else (d.digits, Nat.pow 10 (-d.exponent).toNat)

/-- The decimal exponent `k` with `10 ^ k ≤ num / den < 10 ^ (k + 1)`, found from a guess that is
too low by a few at most. -/
def magnitude (num den : Nat) : Int :=
  let guess : Int := ((Nat.log2 num : Int) - (Nat.log2 den : Int) - 1) * 1233 / 4096 - 1
  let atLeast (k : Int) : Bool :=
    if 0 ≤ k then den * Nat.pow 10 k.toNat ≤ num else den ≤ num * Nat.pow 10 (-k).toNat
  let step (k : Int) : Int := if atLeast (k + 1) then k + 1 else k
  step (step (step (step guess)))

/-- The grid points just below and above `num / den` with `count` digits, nearest first. -/
def neighbours (num den count : Nat) : List Digits :=
  let exponent := magnitude num den - (count : Int) + 1
  let (n, d) := if 0 ≤ exponent then (num, den * Nat.pow 10 exponent.toNat)
    else (num * Nat.pow 10 (-exponent).toNat, den)
  let below := n / d
  let lower : Digits := ⟨below, exponent⟩
  let upper : Digits := ⟨below + 1, exponent⟩
  let twice := 2 * (n % d)
  if twice < d ∨ (twice = d ∧ below % 2 = 0) then [lower, upper] else [upper, lower]

/-- The shortest decimal of the positive number with this bit pattern and value. -/
def shortest (bits num den : Nat) : Digits :=
  let candidates := (List.range 17).flatMap fun i => neighbours num den (i + 1)
  let reads (d : Digits) : Bool := readsBack bits d.fraction.1 d.fraction.2
  (candidates.find? reads).getD ⟨num / den, 0⟩

/-- `digits · 10 ^ exponent` without an exponent: zeros are filled in on either side. -/
def positional (d : Digits) : List Char :=
  let digits := Nat.toDigits 10 d.digits
  if 0 ≤ d.exponent then digits ++ List.replicate d.exponent.toNat '0'
  else
    let places := (-d.exponent).toNat
    let padded := Text.padDigits (places + 1) d.digits
    let whole := padded.take (padded.length - places)
    let fraction := Text.dropTrailing '0' (padded.drop (padded.length - places))
    if fraction.isEmpty then whole else whole ++ ['.'] ++ fraction

/-- The text of a number: the shortest decimal, never with an exponent. -/
def display (x : Float) : String :=
  match parts x with
  | .nan => "NaN"
  | .infinite negative => if negative then "-inf" else "inf"
  | .finite negative significand exponent =>
    let sign := if negative then "-" else ""
    if significand = 0 then sign ++ "0"
    else
      let (num, den) := scaled significand 1 (-exponent)
      let bits := x.toBits.toNat % (1 <<< 63)
      sign ++ String.ofList (positional (shortest bits num den))

end VaultKeeper.Decimal
