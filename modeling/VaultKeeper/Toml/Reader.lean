import VaultKeeper.Toml.Draft
import VaultKeeper.Toml.Lexeme
import VaultKeeper.Toml.Number

/-! # Reading TOML

Version 1.0 of the format. A value ends where its line ends, except that arrays go over several
lines; an inline table stands in one line and has no comma after its last pair.
-/

namespace VaultKeeper.Toml

open Text (dropWord)

/-- A value that is no array and no inline table. -/
def readScalar (text : List Char) : Option (Toml × List Char) :=
  match text with
  | [] => none
  | c :: _ =>
    if isQuote c then (readString text).map fun (value, rest) => (Toml.string value, rest)
    else if c = 't' then (dropWord "true" text).map fun rest => (boolean true, rest)
    else if c = 'f' then (dropWord "false" text).map fun rest => (boolean false, rest)
    else
      match Moment.read text with
      | some (value, rest) => some (moment value, rest)
      | none => readNumber text

/-- The path and the last part of a key. -/
def splitKey (key : List String) : Option (List String × String) :=
  key.getLast?.map fun last => (key.dropLast, last)

mutual

/-- A value at the start of a text, nested at most `depth` deep. -/
def readValue : (fuel depth : Nat) → List Char → Option (Toml × List Char)
  | fuel + 1, depth + 1, '[' :: rest => do
    let (items, rest) ← readItems fuel depth rest
    pure (array items, rest)
  | fuel + 1, depth + 1, '\x7b' :: rest =>
    match skipBlanks rest with
    | '\x7d' :: rest => some (table [], rest)
    | rest => do
      let (pairs, rest) ← readPairs fuel depth rest
      pure (← ofPairs pairs, rest)
  | _, _, text => readScalar text

/-- The items of an array and its closing bracket; a comma may stand after the last item. -/
def readItems : (fuel depth : Nat) → List Char → Option (List Toml × List Char)
  | 0, _, _ => none
  | fuel + 1, depth, text =>
    match skipLines false text with
    | ']' :: rest => some ([], rest)
    | text => do
      let (item, rest) ← readValue fuel depth text
      match skipLines false rest with
      | ',' :: rest => do
        let (items, rest) ← readItems fuel depth rest
        pure (item :: items, rest)
      | ']' :: rest => pure ([item], rest)
      | _ => none

/-- The pairs of an inline table and its closing brace. -/
def readPairs : (fuel depth : Nat) → List Char →
    Option (List (List String × String × Toml) × List Char)
  | 0, _, _ => none
  | fuel + 1, depth, text => do
    let (key, rest) ← readKey depthLimit text
    let (path, key) ← splitKey key
    match rest with
    | '=' :: rest => do
      let (value, rest) ← readValue fuel depth (skipBlanks rest)
      match skipBlanks rest with
      | ',' :: rest => do
        let (pairs, rest) ← readPairs fuel depth rest
        pure ((path, key, value) :: pairs, rest)
      | '\x7d' :: rest => pure ([(path, key, value)], rest)
      | _ => none
    | _ => none

end

/-- The text after a header's closing brackets and the end of its line. -/
def afterHeader (brackets : String) (text : List Char) : Option (List Char) := do
  let rest ← dropWord brackets text
  afterLine rest

/-- A line that is neither blank nor a comment. -/
def readStatement (text : List Char) : Option (Statement × List Char) :=
  match text with
  | '[' :: '[' :: rest => do
    let (key, rest) ← readKey depthLimit rest
    let (path, key) ← splitKey key
    let rest ← afterHeader "]]" rest
    pure (.item path key, rest)
  | '[' :: rest => do
    let (key, rest) ← readKey depthLimit rest
    let (path, key) ← splitKey key
    let rest ← afterHeader "]" rest
    pure (.header path key, rest)
  | _ => do
    let (key, rest) ← readKey depthLimit text
    let (path, key) ← splitKey key
    let rest ← dropWord "=" rest
    let rest := skipBlanks rest
    let (value, rest) ← readValue (2 * rest.length + 2) depthLimit rest
    let rest ← afterLine rest
    pure (.pair path key value, rest)

/-- All lines of a text. -/
def readStatements : (fuel : Nat) → List Char → Option (List Statement)
  | 0, _ => none
  | fuel + 1, text =>
    match skipLines false text with
    | [] => some []
    | text => do
      let (statement, rest) ← readStatement text
      let statements ← readStatements fuel rest
      pure (statement :: statements)

/-- A byte order mark at the start of a document is no part of it. -/
def skipMark : List Char → List Char
  | '\ufeff' :: rest => rest
  | text => text

/-- Read a document. -/
def read (text : String) : Option Toml := do
  let statements ← readStatements (text.length + 1) (skipMark text.toList)
  ofStatements statements

end VaultKeeper.Toml
