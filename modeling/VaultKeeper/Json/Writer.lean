import VaultKeeper.Json.Basic
import VaultKeeper.Text.Basic

/-! # Writing JSON

Values without any white space. A character is escaped only where it has to be.
-/

namespace VaultKeeper.Json

/-- One character inside a string. -/
def writeChar (c : Char) : List Char :=
  if c = '"' then ['\\', '"']
  else if c = '\\' then ['\\', '\\']
  else if c = '\x08' then ['\\', 'b']
  else if c = '\x0c' then ['\\', 'f']
  else if c = '\n' then ['\\', 'n']
  else if c = '\r' then ['\\', 'r']
  else if c = '\t' then ['\\', 't']
  else if c.toNat < 0x20 then
    let digits := Text.hexDigits c.toNat
    ['\\', 'u'] ++ List.replicate (4 - digits.length) '0' ++ digits
  else [c]

/-- A text between quotes. -/
def writeText (text : String) : String :=
  String.ofList (['"'] ++ text.toList.flatMap writeChar ++ ['"'])

mutual

/-- A value. -/
def write : Json → String
  | null => "null"
  | bool value => if value then "true" else "false"
  | number literal => literal
  | string text => writeText (text.getD "")
  | array items => "[" ++ ",".intercalate (writeItems items) ++ "]"
  | object members => "\x7b" ++ ",".intercalate (writeMembers members) ++ "\x7d"

/-- The items of an array. -/
def writeItems : List Json → List String
  | [] => []
  | item :: rest => write item :: writeItems rest

/-- The members of an object. -/
def writeMembers : List (Text × Json) → List String
  | [] => []
  | (key, value) :: rest => (writeText (key.getD "") ++ ":" ++ write value) :: writeMembers rest

end

end VaultKeeper.Json
