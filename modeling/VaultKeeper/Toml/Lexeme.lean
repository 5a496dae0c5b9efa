import VaultKeeper.Text.Basic

/-! # Blanks, comments, strings and keys

The smallest parts of a TOML text. Control characters other than a tab stand nowhere, and a line
ends with a line feed that may have a carriage return before it.
-/

namespace VaultKeeper.Toml

open Text (readHexDigits)

/-- Blanks within a line. -/
def isBlank (c : Char) : Bool :=
  c = ' ' || c = '\t'

def skipBlanks (text : List Char) : List Char :=
  text.dropWhile isBlank

/-- The characters of comments and strings. -/
def isPlain (c : Char) : Bool :=
  c = '\t' || (decide (0x20 ≤ c.toNat) && c.toNat != 0x7f)

/-- The text after a line break. -/
def afterBreak : List Char → Option (List Char)
  | '\n' :: rest => some rest
  | '\r' :: '\n' :: rest => some rest
  | _ => none

/-- The text after a line break, if it starts with one. -/
def skipBreak (text : List Char) : List Char :=
  (afterBreak text).getD text

/-- Drop a comment. -/
def skipComment : List Char → List Char
  | '#' :: rest => rest.dropWhile isPlain
  | text => text

/-- What follows the end of a line: blanks and a comment may stand before it. -/
def afterLine (text : List Char) : Option (List Char) :=
  match skipComment (skipBlanks text) with
  | [] => some []
  | rest => afterBreak rest

/-- Drop blanks, line breaks and comments; `inside` tells that a comment has begun. -/
def skipLines : (inside : Bool) → List Char → List Char
  | _, [] => []
  | _, '\n' :: rest => skipLines false rest
  | _, '\r' :: '\n' :: rest => skipLines false rest
  | true, c :: rest => if isPlain c then skipLines true rest else c :: rest
  | false, c :: rest =>
    if isBlank c then skipLines false rest
    else if c = '#' then skipLines true rest
    else c :: rest

/-- The character with a code point of `count` hexadecimal digits. -/
def readCodePoint (count : Nat) (text : List Char) : Option (Char × List Char) := do
  let (code, rest) ← readHexDigits count text
  if valid : code.isValidChar then some (Char.ofNatAux code valid, rest) else none

/-- The character of an escape. -/
def readEscape : List Char → Option (Char × List Char)
  | 'b' :: rest => some ('\x08', rest)
  | 't' :: rest => some ('\t', rest)
  | 'n' :: rest => some ('\n', rest)
  | 'f' :: rest => some ('\x0c', rest)
  | 'r' :: rest => some ('\r', rest)
  | '"' :: rest => some ('"', rest)
  | '\\' :: rest => some ('\\', rest)
  | 'u' :: rest => readCodePoint 4 rest
  | 'U' :: rest => readCodePoint 8 rest
  | _ => none

/-- The rest of a string in one line, up to its closing quote. Escapes stand in double quotes
only. -/
def readShort (quote : Char) : (fuel : Nat) → List Char → Option (List Char × List Char)
  | 0, _ => none
  | _ + 1, [] => none
  | fuel + 1, c :: rest =>
    if c = quote then some ([], rest)
    else if c = '\\' ∧ quote = '"' then do
      let (c, rest) ← readEscape rest
      let (text, rest) ← readShort quote fuel rest
      pure (c :: text, rest)
    else if isPlain c then do
      let (text, rest) ← readShort quote fuel rest
      pure (c :: text, rest)
    else none

/-- Drop blanks and line breaks. -/
def skipSpace : List Char → List Char
  | [] => []
  | '\n' :: rest => skipSpace rest
  | '\r' :: '\n' :: rest => skipSpace rest
  | c :: rest => if isBlank c then skipSpace rest else c :: rest

/-- A break after a backslash is left out, with all blanks and breaks that follow. -/
def afterHiddenBreak (text : List Char) : Option (List Char) :=
  (afterBreak (skipBlanks text)).map skipSpace

/-- The rest of a string over several lines. Three quotes close it, and up to two more before them
belong to it; each line break reads as a line feed. -/
def readLong (quote : Char) : (fuel : Nat) → List Char → Option (List Char × List Char)
  | 0, _ => none
  | _ + 1, [] => none
  | fuel + 1, c :: rest =>
    if c = quote then
      let run := min 5 (1 + (rest.takeWhile (· = quote)).length)
      let rest := rest.drop (run - 1)
      if 3 ≤ run then some (List.replicate (run - 3) quote, rest)
      else do
        let (text, rest) ← readLong quote fuel rest
        pure (List.replicate run quote ++ text, rest)
    else if c = '\\' ∧ quote = '"' then
      match afterHiddenBreak rest with
      | some rest => readLong quote fuel rest
      | none => do
        let (c, rest) ← readEscape rest
        let (text, rest) ← readLong quote fuel rest
        pure (c :: text, rest)
    else
      match afterBreak (c :: rest) with
      | some rest => do
        let (text, rest) ← readLong quote fuel rest
        pure ('\n' :: text, rest)
      | none =>
        if isPlain c then do
          let (text, rest) ← readLong quote fuel rest
          pure (c :: text, rest)
        else none

def isQuote (c : Char) : Bool :=
  c = '"' || c = '\x27'

/-- A string of either kind; a line break right after its three opening quotes is left out. -/
def readString : List Char → Option (String × List Char)
  | a :: b :: c :: rest =>
    let read := if isQuote a ∧ b = a ∧ c = a then readLong a (rest.length + 1) (skipBreak rest)
      else if isQuote a then readShort a (rest.length + 3) (b :: c :: rest)
      else none
    read.map fun (text, rest) => (String.ofList text, rest)
  | a :: rest =>
    if isQuote a then (readShort a (rest.length + 1) rest).map fun (text, rest) =>
      (String.ofList text, rest)
    else none
  | [] => none

/-- The characters of a key that needs no quotes. -/
def isBare (c : Char) : Bool :=
  c.isAlphanum || c = '_' || c = '-'

/-- One part of a key. -/
def readKeyPart (text : List Char) : Option (String × List Char) :=
  match text with
  | c :: rest =>
    if isQuote c then (readShort c (rest.length + 1) rest).map fun (text, rest) =>
      (String.ofList text, rest)
    else if isBare c then
      some (String.ofList (text.takeWhile isBare), text.dropWhile isBare)
    else none
  | [] => none

/-- The parts of a key between dots; no key has more than `parts`. -/
def readKey : (parts : Nat) → List Char → Option (List String × List Char)
  | 0, _ => none
  | parts + 1, text => do
    let (part, rest) ← readKeyPart (skipBlanks text)
    match skipBlanks rest with
    | '.' :: rest => do
      let (key, rest) ← readKey parts rest
      pure (part :: key, rest)
    | rest => pure ([part], rest)

/-- No key has more parts than this, and no value is nested more deeply. -/
def depthLimit : Nat := 79

end VaultKeeper.Toml
