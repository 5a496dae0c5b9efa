/-! # Reading amounts

The digits of an unsigned integer in base ten, or in the base that a leading `0x`, `0o` or `0b` in
either case chooses. Underscores are skipped, and no digits at all stand for zero. Letters are
digits from ten on, so a letter can be a digit that is too large for the base.
-/

namespace VaultKeeper.Text

/-- Why a text is no amount. -/
inductive AmountError where
  | badCharacter (c : Char)
  | outOfBase (digit base : Nat)
  | tooLarge
deriving DecidableEq, Repr

/-- The wording of the error. -/
def AmountError.message : AmountError → String
  | badCharacter c => "invalid digit: " ++ c.toString
  | outOfBase digit base => s!"digit {digit} is out of range for base {base}"
  | tooLarge => "the value is too large to fit the target type"

/-- The value of a digit or letter. -/
def alphanumeric? (c : Char) : Option Nat :=
  if '0' ≤ c ∧ c ≤ '9' then some (c.toNat - '0'.toNat)
  else if 'a' ≤ c ∧ c ≤ 'z' then some (c.toNat - 'a'.toNat + 10)
  else if 'A' ≤ c ∧ c ≤ 'Z' then some (c.toNat - 'A'.toNat + 10)
  else none

/-- Append the digits of `text` to `value`, staying below `bound`. -/
def readInBase (bound base : Nat) : (value : Nat) → (text : List Char) → Except AmountError Nat
  | value, [] => .ok value
  | value, c :: rest =>
    if c = '_' then readInBase bound base value rest
    else match alphanumeric? c with
      | none => .error (.badCharacter c)
      | some digit =>
        if base ≤ digit then .error (.outOfBase digit base)
        else if bound ≤ value * base + digit then .error .tooLarge
        else readInBase bound base (value * base + digit) rest

/-- The base that a text chooses, and its digits. -/
def splitBase : List Char → Nat × List Char
  | '0' :: mark :: rest =>
    if mark = 'x' ∨ mark = 'X' then (16, rest)
    else if mark = 'o' ∨ mark = 'O' then (8, rest)
    else if mark = 'b' ∨ mark = 'B' then (2, rest)
    else (10, '0' :: mark :: rest)
  | text => (10, text)

/-- Read a whole text as an amount below `bound`. -/
def readAmount (bound : Nat) (text : List Char) : Except AmountError Nat :=
  let (base, digits) := splitBase text
  readInBase bound base 0 digits

end VaultKeeper.Text
