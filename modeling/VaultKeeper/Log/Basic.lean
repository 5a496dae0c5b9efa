import VaultKeeper.Json.Writer
import VaultKeeper.Text.Basic

/-! # The log

An event has a level, the part of the program that it comes from, a message and fields. It is
written as one line, for people or as JSON.
-/

namespace VaultKeeper

/-- How much an event matters. -/
inductive LogLevel where
  | error
  | warn
  | info
  | debug
  | trace
deriving DecidableEq, Repr

namespace LogLevel

/-- The name of a level. -/
def name : LogLevel → String
  | error => "ERROR"
  | warn => "WARN"
  | info => "INFO"
  | debug => "DEBUG"
  | trace => "TRACE"

/-- How many levels matter at least as much. -/
def verbosity : LogLevel → Nat
  | error => 1
  | warn => 2
  | info => 3
  | debug => 4
  | trace => 5

end LogLevel

structure LogEvent where
  level : LogLevel
  /-- The part of the program that it comes from. -/
  target : String
  message : String
  fields : List (String × Json)
deriving Repr

/-- How events are written. -/
inductive LogFormat where
  | text
  | json
deriving DecidableEq, Repr

namespace LogEvent

/-- The message and the fields in one object. -/
def content (event : LogEvent) : Json :=
  .ofMembers (("message", .ofText event.message) :: event.fields)

/-- A field in a line for people. -/
def fieldText (field : String × Json) : String :=
  field.1 ++ "=" ++ (field.2.asText.getD field.2.write)

/-- The line of an event. -/
def line (format : LogFormat) (event : LogEvent) : String :=
  match format with
  | .json => Json.write (.ofMembers [("level", .ofText event.level.name), ("fields", event.content),
      ("target", .ofText event.target)])
  | .text => " ".intercalate (event.level.name :: (event.target ++ ":") :: event.message
      :: event.fields.map fieldText)

end LogEvent

end VaultKeeper
