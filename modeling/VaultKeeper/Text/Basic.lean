import VaultKeeper.Text.Printable

/-! # Words, numbers and quotes

What several formats have in common: words and blank characters, the digits of numbers, spans of
time, and texts between quotes.
-/

namespace VaultKeeper.Text

/-! ## Words -/

/-- `text` without a word at its start. -/
def dropWord (word : String) (text : List Char) : Option (List Char) :=
  if word.toList.isPrefixOf text then some (text.drop word.toList.length) else none

/-- The characters with the property `White_Space`. -/
def isBlank (c : Char) : Bool :=
  let n := c.toNat
  (decide (0x09 ≤ n) && decide (n ≤ 0x0d)) || n == 0x20 || n == 0x85 || n == 0xa0 || n == 0x1680
    || (decide (0x2000 ≤ n) && decide (n ≤ 0x200a)) || n == 0x2028 || n == 0x2029 || n == 0x202f
    || n == 0x205f || n == 0x3000

/-- Drop the blank characters at both ends. -/
def trimBlank (text : List Char) : List Char :=
  ((text.dropWhile isBlank).reverse.dropWhile isBlank).reverse

/-- A text of blank characters only, the empty text included. -/
def isAllBlank (text : List Char) : Bool :=
  text.all isBlank

/-! ## Digits -/

/-- The value of a hexadecimal digit. -/
def hexValue? (c : Char) : Option Nat :=
  if '0' ≤ c ∧ c ≤ '9' then some (c.toNat - '0'.toNat)
  else if 'a' ≤ c ∧ c ≤ 'f' then some (c.toNat - 'a'.toNat + 10)
  else if 'A' ≤ c ∧ c ≤ 'F' then some (c.toNat - 'A'.toNat + 10)
  else none

/-- The number that digits of a base stand for, most significant first. -/
def valueOf (base : Nat) (digits : List Nat) : Nat :=
  digits.foldl (fun value digit => value * base + digit) 0

/-- Exactly `count` hexadecimal digits as a number. -/
def readHexDigits (count : Nat) (text : List Char) : Option (Nat × List Char) := do
  let digits ← (text.take count).mapM hexValue?
  if digits.length = count then some (valueOf 16 digits, text.drop count) else none

/-! ## Unsigned integers

Decimal digits with an optional plus sign, read from the left: the first character that is no digit
is reported unless the digits before it are already too large.
-/

/-- Why a text is no integer of the wanted size. -/
inductive IntegerError where
  | empty
  | badDigit
  | tooLarge
deriving DecidableEq, Repr

namespace IntegerError

/-- The wording of the error. -/
def message : IntegerError → String
  | empty => "cannot parse integer from empty string"
  | badDigit => "invalid digit found in string"
  | tooLarge => "number too large to fit in target type"

end IntegerError

/-- The value of a decimal digit. -/
def digitValue? (c : Char) : Option Nat :=
  if '0' ≤ c ∧ c ≤ '9' then some (c.toNat - '0'.toNat) else none

/-- Append the digits of `text` to `value`, staying below `bound`. -/
def readDigits (bound : Nat) : (value : Nat) → (text : List Char) → Except IntegerError Nat
  | value, [] => .ok value
  | value, c :: rest =>
    match digitValue? c with
    | none => .error .badDigit
    | some digit =>
      if value * 10 + digit < bound then readDigits bound (value * 10 + digit) rest
      else .error .tooLarge

/-- Read a whole text as an integer below `bound`. -/
def readUnsigned (bound : Nat) (text : List Char) : Except IntegerError Nat :=
  match text with
  | [] => .error .empty
  | ['+'] => .error .badDigit
  | '+' :: digits => readDigits bound 0 digits
  | digits => readDigits bound 0 digits

/-! ## Spans of time

Spans are counted in milliseconds. A span of a second or more is shown in seconds with as many
decimals as it needs, a shorter one in milliseconds, and no time at all as `0ns`.
-/

/-- Drop the trailing occurrences of `c`. -/
def dropTrailing (c : Char) (text : List Char) : List Char :=
  (text.reverse.dropWhile (· == c)).reverse

/-- `value` with at least `width` decimal digits. -/
def padDigits (width value : Nat) : List Char :=
  let digits := Nat.toDigits 10 value
  List.replicate (width - digits.length) '0' ++ digits

/-- A span given in milliseconds. -/
def span (milliseconds : Nat) : String :=
  let seconds := milliseconds / 1000
  let rest := milliseconds % 1000
  if seconds = 0 then
    if rest = 0 then "0ns" else toString rest ++ "ms"
  else if rest = 0 then toString seconds ++ "s"
  else toString seconds ++ "." ++ String.ofList (dropTrailing '0' (padDigits 3 rest)) ++ "s"

example : (span 0, span 250, span 1000, span 1500, span 2050)
    = ("0ns", "250ms", "1s", "1.5s", "2.05s") := by
  decide +kernel

/-! ## Quotes

A quoted text is shown inside a message so that nothing in it can be mistaken for the message
itself: between quotes, with a backslash before the quote and the backslash, short escapes for the
common controls, and `\u` with the code point in braces for everything else that cannot be seen.
-/

/-- The digits of `n` in base sixteen, in lower case and without leading zeros. -/
def hexDigits (n : Nat) : List Char :=
  Nat.toDigits 16 n

/-- `\u` and the code point in braces. -/
def unicodeEscape (c : Char) : List Char :=
  ['\\', 'u', '\x7b'] ++ hexDigits c.toNat ++ ['\x7d']

/-- One character between the given quote marks. -/
def escapeChar (quote : Char) (c : Char) : List Char :=
  if c = '\x00' then ['\\', '0']
  else if c = '\t' then ['\\', 't']
  else if c = '\r' then ['\\', 'r']
  else if c = '\n' then ['\\', 'n']
  else if c = '\\' ∨ c = quote then ['\\', c]
  else if isExtending c then unicodeEscape c
  else if isPrintable c then [c]
  else unicodeEscape c

/-- A text between double quotes. -/
def quoted (text : String) : String :=
  String.ofList (['"'] ++ text.toList.flatMap (escapeChar '"') ++ ['"'])

/-- One character between single quotes. -/
def quotedChar (c : Char) : String :=
  String.ofList (['\''] ++ escapeChar '\'' c ++ ['\''])

/-- Items between square brackets, separated by a comma and a space. -/
def bracketed (items : List String) : String :=
  "[" ++ ", ".intercalate items ++ "]"

end VaultKeeper.Text
