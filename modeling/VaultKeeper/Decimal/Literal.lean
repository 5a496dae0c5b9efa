import VaultKeeper.Decimal.Nearest

/-! # Reading decimal numbers

A number is an optional sign followed by digits with an optional point and an optional exponent, or
by the word `inf`, `infinity` or `nan` in any case. At least one digit stands before or after the
point. The value is the binary64 number nearest to what is written, so a number that is too large
reads as infinity.
-/

namespace VaultKeeper.Decimal

/-- Why a text is no number. -/
inductive LiteralError where
  | empty
  | malformed
deriving DecidableEq, Repr

/-- The wording of the error. -/
def LiteralError.message : LiteralError → String
  | empty => "cannot parse float from empty string"
  | malformed => "invalid float literal"

/-- The number `digits · 10 ^ exponent` as written. -/
structure Written where
  digits : Nat
  exponent : Int
deriving DecidableEq, Repr

/-- The bit pattern nearest to what is written. Far outside the range of binary64 the power of ten
is not computed: from `10 ^ 310` on every number is infinite, and below `10 ^ -330` every one is
zero. -/
def Written.bits (w : Written) : Nat :=
  let places : Int := (Nat.toDigits 10 w.digits).length
  if w.digits = 0 then 0
  else if w.exponent + places > 310 then infinityBits
  else if w.exponent + places < -330 then 0
  else if 0 ≤ w.exponent then nearestBits (w.digits * Nat.pow 10 w.exponent.toNat) 1
  else nearestBits w.digits (Nat.pow 10 (-w.exponent).toNat)

/-- The value of a run of decimal digits. -/
def digitsValue (digits : List Char) : Nat :=
  digits.foldl (fun value c => value * 10 + (c.toNat - '0'.toNat)) 0

/-- An optional sign: is it a minus, and what follows it. -/
def splitSign : List Char → Bool × List Char
  | '-' :: rest => (true, rest)
  | '+' :: rest => (false, rest)
  | text => (false, text)

/-- The exponent part: nothing, or `e` with an optional sign and at least one digit. -/
def readExponent : List Char → Option Int
  | [] => some 0
  | mark :: rest =>
    if mark = 'e' ∨ mark = 'E' then
      let (negative, digits) := splitSign rest
      if digits.isEmpty || !digits.all Char.isDigit then none
      else some (if negative then -(digitsValue digits : Int) else digitsValue digits)
    else none

/-- A number without its sign. -/
def readWritten (text : List Char) : Option Written := do
  let whole := text.takeWhile Char.isDigit
  let rest := text.dropWhile Char.isDigit
  let (fraction, tail) := match rest with
    | '.' :: after => (after.takeWhile Char.isDigit, after.dropWhile Char.isDigit)
    | _ => ([], rest)
  let exponent ← readExponent tail
  if whole.isEmpty && fraction.isEmpty then none
  else some ⟨digitsValue (whole ++ fraction), exponent - fraction.length⟩

/-- The bit pattern of not-a-number. -/
def nanBits : Nat := 0x7ff8000000000000

/-- A number without its sign, or one of the words. -/
def readMagnitude (text : List Char) : Option Nat :=
  let lower := text.map Char.toLower
  if lower = "inf".toList ∨ lower = "infinity".toList then some infinityBits
  else if lower = "nan".toList then some nanBits
  else (readWritten text).map Written.bits

/-- Read a whole text as a binary64 number. -/
def readFloat (text : List Char) : Except LiteralError Float :=
  if text.isEmpty then .error .empty
  else
    let (negative, rest) := splitSign text
    match readMagnitude rest with
    | none => .error .malformed
    | some bits => .ok (Float.ofBits (UInt64.ofNat (if negative then (1 <<< 63) + bits else bits)))

end VaultKeeper.Decimal
