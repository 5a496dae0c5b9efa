import VaultKeeper.Environment.Basic
import VaultKeeper.Text.Alphanumeric

/-! # Files of variables

A file sets variables line by line, `NAME=value` with an optional `export` before it. A value may be
put in quotes, which may go over several lines; single quotes are taken as they stand, and elsewhere
a backslash escapes and `$NAME` or `$` with a name in braces stands for a variable. What is set
already is kept. A line that cannot be read ends the file, and what was set before it stays.
-/

namespace VaultKeeper.Environment

/-- Where a reader stands within the quotes and escapes of a line. -/
inductive Quoting where
  | plain
  /-- After a blank outside quotes: a comment may begin. -/
  | blank
  | escape
  | weak
  | weakEscape
  | strong
  | strongEscape
deriving DecidableEq, Repr

/-- A character outside quotes. -/
def Quoting.enter (c : Char) : Quoting :=
  if c = '\\' then escape
  else if c = '"' then weak
  else if c = '\x27' then strong
  else plain

/-- The next character. -/
def Quoting.step (quoting : Quoting) (c : Char) : Quoting :=
  match quoting with
  | plain =>
    if Text.isBlank c ∧ c ≠ '\n' ∧ c ≠ '\r' then blank else enter c
  | blank => enter c
  | escape => plain
  | weak => if c = '\\' then weakEscape else if c = '"' then plain else weak
  | weakEscape => weak
  | strong => if c = '\\' then strongEscape else if c = '\x27' then plain else strong
  | strongEscape => strong

/-- How a line ends. -/
inductive LineEnd where
  | within (quoting : Quoting)
  /-- A comment begins after so many characters. -/
  | comment (length : Nat)
deriving DecidableEq, Repr

/-- The end of a line of which `place` characters were read. -/
def lineEnd : (quoting : Quoting) → (place : Nat) → List Char → LineEnd
  | quoting, _, [] => .within quoting
  | quoting, place, c :: rest =>
    if quoting = .blank ∧ c = '#' then .comment place
    else lineEnd (quoting.step c) (place + 1) rest

/-- The lines of a text, each with its line feed. -/
def splitLines : List Char → List (List Char)
  | [] => []
  | c :: rest =>
    if c = '\n' then [c] :: splitLines rest
    else match splitLines rest with
      | [] => [[c]]
      | line :: lines => (c :: line) :: lines

/-- A line without its line break. -/
def dropBreak (line : List Char) : List Char :=
  match line.reverse with
  | '\n' :: '\r' :: rest => rest.reverse
  | '\n' :: rest => rest.reverse
  | _ => line

/-- Is the line a comment from its first character on? -/
def isComment (line : List Char) : Bool :=
  (line.dropWhile Text.isBlank).head? == some '#'

/-- The assignments of a file, each with all lines that its quotes go over; `none` where the file
ends within one. -/
def joinLines : (begun : List Char) → Quoting → List (List Char) → List (Option (List Char))
  | _, quoting, [] => if quoting = .plain then [] else [none]
  | begun, quoting, line :: rest =>
    if isComment (begun ++ line) then some [] :: joinLines [] .plain rest
    else
      match lineEnd quoting 0 line with
      | .comment length => some (begun ++ line.take length) :: joinLines [] .plain rest
      | .within .plain => some (dropBreak (begun ++ line)) :: joinLines [] .plain rest
      | .within quoting => joinLines (begun ++ line) quoting rest

/-- Where a reader stands within a value. -/
inductive ValueMode where
  | plain
  | strong
  | escape
  /-- After the value: nothing but blanks and a comment may follow. -/
  | ended
  /-- In the name of a variable, newest character first. -/
  | reference (braced : Bool) (name : List Char)
deriving DecidableEq, Repr

/-- A value as far as it was read. -/
structure ValueState where
  mode : ValueMode
  /-- Inside double quotes. -/
  weak : Bool
  /-- Newest character first. -/
  output : List Char

/-- Put the value of a variable, or nothing if it is not set, at the end. -/
def ValueState.substitute (environment : Environment) (name : List Char) (state : ValueState) :
    ValueState :=
  let value := (environment.get? (String.ofList name.reverse)).getD ""
  { state with output := value.toList.reverse ++ state.output }

/-- Put a character at the end. -/
def ValueState.push (c : Char) (state : ValueState) : ValueState :=
  { state with output := c :: state.output }

/-- The next character of a value; `none` if it cannot stand here. -/
def ValueState.step (environment : Environment) (state : ValueState) (c : Char) :
    Option ValueState :=
  match state.mode with
  | .ended => if c = ' ' ∨ c = '\t' then some state else none
  | .escape =>
    if c = '\\' ∨ c = '\x27' ∨ c = '"' ∨ c = '$' ∨ c = ' ' then
      some { state.push c with mode := .plain }
    else if c = 'n' then some { state.push '\n' with mode := .plain }
    else none
  | .strong => some (if c = '\x27' then { state with mode := .plain } else state.push c)
  | .reference true name =>
    some (if c = '\x7d' then { state.substitute environment name with mode := .plain }
      else { state with mode := .reference true (c :: name) })
  | .reference false name =>
    some (if Text.isAlphanumeric c then { state with mode := .reference false (c :: name) }
      else if c = '\x7b' ∧ name = [] then { state with mode := .reference true [] }
      else
        let state := state.substitute environment name
        if c = '$' then { state with mode := .reference false [] }
        else { state.push c with mode := .plain })
  | .plain =>
    some (if c = '$' then { state with mode := .reference false [] }
      else if c = '\\' then { state with mode := .escape }
      else if c = '"' then { state with weak := !state.weak }
      else if state.weak then state.push c
      else if c = '\x27' then { state with mode := .strong }
      else if c = ' ' ∨ c = '\t' then { state with mode := .ended }
      else state.push c)

/-- The value that was read, unless a quote or a brace is open. -/
def ValueState.finish (environment : Environment) (state : ValueState) : Option String :=
  let closed (state : ValueState) : Option String :=
    if state.weak then none else some (String.ofList state.output.reverse)
  match state.mode with
  | .strong | .reference true _ => none
  | .reference false name => closed (state.substitute environment name)
  | _ => closed state

/-- Read a value; after its end a comment may begin. -/
def readValue (environment : Environment) : ValueState → List Char → Option String
  | state, [] => state.finish environment
  | state, c :: rest =>
    if state.mode = .ended ∧ c = '#' then state.finish environment
    else match state.step environment c with
      | none => none
      | some state => readValue environment state rest

/-- A name at the start of a line. -/
def readName (line : List Char) : Option (String × List Char) :=
  match line with
  | c :: _ =>
    if c.isAlpha ∨ c = '_' then
      let isPart := fun c : Char => c.isAlphanum || c = '_' || c = '.'
      some (String.ofList (line.takeWhile isPart), (line.dropWhile isPart).dropWhile Text.isBlank)
    else none
  | [] => none

/-- The text after an equals sign. -/
def afterEquals : List Char → Option (List Char)
  | '=' :: rest => some rest
  | _ => none

/-- The name of an assignment and the text after its equals sign. -/
def readTarget (line : List Char) : Option (String × List Char) := do
  let (name, rest) ← readName line
  match afterEquals rest with
  | some rest => pure (name, rest)
  | none =>
    if name = "export" then
      let (name, rest) ← readName rest
      pure (name, ← afterEquals rest)
    else none

/-- Apply one line; `none` if it cannot be read. -/
def applyLine (environment : Environment) (line : List Char) : Option Environment :=
  match Text.trimBlank line with
  | [] => some environment
  | '#' :: _ => some environment
  | line => do
    let (name, rest) ← readTarget line
    match rest.dropWhile Text.isBlank with
    | [] => pure (environment.supply name "")
    | '#' :: _ => pure (environment.supply name "")
    | rest => do
      let value ← readValue environment ⟨.plain, false, []⟩ rest
      pure (environment.supply name value)

/-- Apply lines up to the first one that cannot be read. -/
def applyLines : Environment → List (Option (List Char)) → Environment
  | environment, [] => environment
  | environment, none :: _ => environment
  | environment, some line :: rest =>
    match applyLine environment line with
    | none => environment
    | some environment => applyLines environment rest

/-- Supply what a file sets; a byte order mark at its start is no part of it. -/
def supplyFile (environment : Environment) (content : String) : Environment :=
  let text := match content.toList with
    | '\ufeff' :: rest => rest
    | text => text
  applyLines environment (joinLines [] .plain (splitLines text))

end VaultKeeper.Environment
