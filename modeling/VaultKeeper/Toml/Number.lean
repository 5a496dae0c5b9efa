import VaultKeeper.Decimal.Literal
import VaultKeeper.Toml.Basic

/-! # Numbers

Digits may be grouped by single underscores between them. Integers have 63 bits and a sign. A float
has a point or an exponent, with digits on both sides of the point; one too large for binary64 is
refused, while one too small is minus infinity.
-/

namespace VaultKeeper.Toml

open Text (dropWord valueOf hexValue?)

/-- Digits without the underscores between them. -/
def readGroups (isDigit : Char → Bool) (text : List Char) : Option (List Char × List Char) :=
  let run := text.takeWhile fun c => isDigit c || c = '_'
  let rest := text.dropWhile fun c => isDigit c || c = '_'
  let lone := run.zip (run.drop 1) |>.any fun pair => pair.1 = '_' && pair.2 = '_'
  if run.isEmpty || run.head? == some '_' || run.getLast? == some '_' || lone then none
  else some (run.filter (· ≠ '_'), rest)

/-- An integer that fits. -/
def ofInteger (value : Int) : Option Toml :=
  if Int64.minValue.toInt ≤ value ∧ value ≤ Int64.maxValue.toInt then some (integer value) else none

/-- The digits after the mark of a base. -/
def readInBase (base : Nat) (text : List Char) : Option (Toml × List Char) := do
  let isDigit := fun c => (hexValue? c).any (· < base)
  let (digits, rest) ← readGroups isDigit text
  let number ← ofInteger (valueOf base (digits.filterMap hexValue?))
  pure (number, rest)

/-- A point with the digits after it, if there is one. -/
def readFraction : List Char → Option (List Char × List Char)
  | '.' :: rest => (readGroups Char.isDigit rest).map fun (digits, rest) => ('.' :: digits, rest)
  | text => some ([], text)

/-- A sign, if there is one. -/
def splitSign : List Char → List Char × List Char
  | '+' :: rest => (['+'], rest)
  | '-' :: rest => (['-'], rest)
  | text => ([], text)

/-- An exponent, if there is one. -/
def readExponent : List Char → Option (List Char × List Char)
  | mark :: rest =>
    if mark = 'e' ∨ mark = 'E' then
      let (sign, rest) := splitSign rest
      (readGroups Char.isDigit rest).map fun (digits, rest) => ('e' :: sign ++ digits, rest)
    else some ([], mark :: rest)
  | [] => some ([], [])

/-- The float that is written. -/
def ofFloatText (text : List Char) : Option Toml :=
  match Decimal.readFloat text with
  | .ok value => if value == Float.ofBits (UInt64.ofNat Decimal.infinityBits) then none
    else some (float value)
  | .error _ => none

/-- A decimal number without its sign: an integer, unless a fraction or an exponent follows. -/
def readDecimal (sign : List Char) (text : List Char) : Option (Toml × List Char) := do
  let (whole, rest) ← readGroups Char.isDigit text
  if whole.length > 1 && whole.head? == some '0' then none
  else
    let (fraction, rest) ← readFraction rest
    let (exponent, rest) ← readExponent rest
    let number ← if fraction.isEmpty && exponent.isEmpty then
        let magnitude : Int := Decimal.digitsValue whole
        ofInteger (if sign = ['-'] then -magnitude else magnitude)
      else ofFloatText (sign ++ whole ++ fraction ++ exponent)
    pure (number, rest)

/-- A word for a float that has no digits. -/
def readFloatWord (sign : List Char) (word : String) (text : List Char) :
    Option (Toml × List Char) := do
  let rest ← dropWord word text
  match Decimal.readFloat (sign ++ word.toList) with
  | .ok value => some (float value, rest)
  | .error _ => none

/-- A number at the start of a text. -/
def readNumber (text : List Char) : Option (Toml × List Char) :=
  match text with
  | '0' :: 'x' :: rest => readInBase 16 rest
  | '0' :: 'o' :: rest => readInBase 8 rest
  | '0' :: 'b' :: rest => readInBase 2 rest
  | _ =>
    let (sign, rest) := splitSign text
    ((readFloatWord sign "inf" rest).or (readFloatWord sign "nan" rest)).or (readDecimal sign rest)

end VaultKeeper.Toml
