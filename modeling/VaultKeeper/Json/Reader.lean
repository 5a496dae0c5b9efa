import VaultKeeper.Json.Basic
import VaultKeeper.Text.Basic

/-! # Reading JSON

A strict reader: nothing but white space may follow the value, numbers have no leading zeros, and
strings hold no control characters.
-/

namespace VaultKeeper.Json

open VaultKeeper.Text (dropWord readHexDigits)

/-- White space between the parts of a value. -/
def isSpace (c : Char) : Bool :=
  c = ' ' || c = '\n' || c = '\t' || c = '\r'

def skipSpace (text : List Char) : List Char :=
  text.dropWhile isSpace

/-- The character of an escape of one letter. -/
def shortEscape? : Char → Option Char
  | '"' => some '"'
  | '\\' => some '\\'
  | '/' => some '/'
  | 'b' => some '\x08'
  | 'f' => some '\x0c'
  | 'n' => some '\n'
  | 'r' => some '\r'
  | 't' => some '\t'
  | _ => none

/-- The code units and code points of a string, up to its closing quote. -/
def readUnits : (fuel : Nat) → List Char → Option (List Nat × List Char)
  | 0, _ => none
  | _ + 1, [] => none
  | _ + 1, '"' :: rest => some ([], rest)
  | fuel + 1, '\\' :: 'u' :: rest => do
    let (unit, rest) ← readHexDigits 4 rest
    let (units, rest) ← readUnits fuel rest
    pure (unit :: units, rest)
  | fuel + 1, '\\' :: letter :: rest => do
    let c ← shortEscape? letter
    let (units, rest) ← readUnits fuel rest
    pure (c.toNat :: units, rest)
  | fuel + 1, c :: rest =>
    if c.toNat < 0x20 ∨ c = '\\' then none
    else do
      let (units, rest) ← readUnits fuel rest
      pure (c.toNat :: units, rest)

/-- The characters of a list of units, where the two halves of a surrogate pair make one. -/
def joinUnits : List Nat → Option (List Char)
  | [] => some []
  | [unit] => if 0xd800 ≤ unit ∧ unit < 0xe000 then none else some [Char.ofNat unit]
  | unit :: next :: rest =>
    if 0xd800 ≤ unit ∧ unit < 0xdc00 then
      if 0xdc00 ≤ next ∧ next < 0xe000 then
        (joinUnits rest).map
          (Char.ofNat (0x10000 + (unit - 0xd800) * 0x400 + (next - 0xdc00)) :: ·)
      else none
    else if 0xdc00 ≤ unit ∧ unit < 0xe000 then none
    else (joinUnits (next :: rest)).map (Char.ofNat unit :: ·)

/-- A string after its opening quote. -/
def readString (text : List Char) : Option (Text × List Char) := do
  let (units, rest) ← readUnits (text.length + 1) text
  pure ((joinUnits units).map String.ofList, rest)

/-- One or more digits. -/
def readDigits (text : List Char) : Option (List Char × List Char) :=
  let digits := text.takeWhile Char.isDigit
  if digits.isEmpty then none else some (digits, text.dropWhile Char.isDigit)

/-- The point and the digits after it, if there is a point. -/
def readFraction : List Char → Option (List Char × List Char)
  | '.' :: rest => do
    let (digits, rest) ← readDigits rest
    pure ('.' :: digits, rest)
  | text => some ([], text)

/-- The exponent, if there is one. -/
def readExponent : List Char → Option (List Char × List Char)
  | mark :: rest =>
    if mark = 'e' ∨ mark = 'E' then
      match rest with
      | sign :: after =>
        if sign = '+' ∨ sign = '-' then do
          let (digits, rest) ← readDigits after
          pure (mark :: sign :: digits, rest)
        else do
          let (digits, rest) ← readDigits rest
          pure (mark :: digits, rest)
      | [] => none
    else some ([], mark :: rest)
  | [] => some ([], [])

/-- A number as it is written. -/
def readNumber (text : List Char) : Option (Json × List Char) := do
  let (sign, unsigned) := match text with
    | '-' :: rest => (['-'], rest)
    | _ => ([], text)
  let (whole, rest) ← readDigits unsigned
  if whole.length > 1 && whole.head? == some '0' then none
  else
    let (fraction, rest) ← readFraction rest
    let (exponent, rest) ← readExponent rest
    pure (.number (String.ofList (sign ++ whole ++ fraction ++ exponent)), rest)

mutual

/-- A value at the start of a text that begins with no white space. -/
def readValue : (fuel : Nat) → List Char → Option (Json × List Char)
  | 0, _ => none
  | _ + 1, [] => none
  | fuel + 1, c :: rest =>
    if c = '"' then do
      let (text, rest) ← readString rest
      pure (.string text, rest)
    else if c = '[' then
      match skipSpace rest with
      | ']' :: rest => some (.array [], rest)
      | rest => do
        let (items, rest) ← readItems fuel rest
        pure (.array items, rest)
    else if c = '\x7b' then
      match skipSpace rest with
      | '\x7d' :: rest => some (.object [], rest)
      | rest => do
        let (members, rest) ← readMembers fuel rest
        pure (.object members, rest)
    else if c = 'n' then (dropWord "null" (c :: rest)).map (Json.null, ·)
    else if c = 't' then (dropWord "true" (c :: rest)).map (Json.bool true, ·)
    else if c = 'f' then (dropWord "false" (c :: rest)).map (Json.bool false, ·)
    else readNumber (c :: rest)

/-- One or more items and the closing bracket. -/
def readItems : (fuel : Nat) → List Char → Option (List Json × List Char)
  | 0, _ => none
  | fuel + 1, text => do
    let (item, rest) ← readValue fuel text
    match skipSpace rest with
    | ']' :: rest => pure ([item], rest)
    | ',' :: rest => do
      let (items, rest) ← readItems fuel (skipSpace rest)
      pure (item :: items, rest)
    | _ => none

/-- One or more members and the closing brace. -/
def readMembers : (fuel : Nat) → List Char → Option (List (Text × Json) × List Char)
  | 0, _ => none
  | fuel + 1, text =>
    match text with
    | '"' :: rest => do
      let (key, rest) ← readString rest
      match skipSpace rest with
      | ':' :: rest => do
        let (value, rest) ← readValue fuel (skipSpace rest)
        match skipSpace rest with
        | '\x7d' :: rest => pure ([(key, value)], rest)
        | ',' :: rest => do
          let (members, rest) ← readMembers fuel (skipSpace rest)
          pure ((key, value) :: members, rest)
        | _ => none
      | _ => none
    | _ => none

end

/-- Read a whole text as one value. -/
def read (text : String) : Option Json := do
  let (value, rest) ← readValue (2 * text.length + 2) (skipSpace text.toList)
  if (skipSpace rest).isEmpty then some value else none

end VaultKeeper.Json
