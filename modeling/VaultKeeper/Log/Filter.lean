import VaultKeeper.Log.Basic
import VaultKeeper.Text.Basic

/-! # Which events are logged

A filter is a list of directives between commas: a level, a target, or a target with a level after
an equals sign. An event is logged if the directive with the longest target that its own target
starts with admits its level. A directive may name a span in square brackets; no event lies within
one.
-/

namespace VaultKeeper

/-- The levels up to `verbosity` for targets that start with `target`. -/
structure LogDirective where
  target : String
  verbosity : Nat
deriving DecidableEq, Repr

/-- Directives in their order. -/
abbrev LogFilter := List LogDirective

namespace LogDirective

/-- The verbosity that a word or a digit names. -/
def verbosityOf? (word : String) : Option Nat :=
  let lower := String.ofList (word.toList.map Char.toLower)
  if lower = "off" ∨ lower = "0" then some 0
  else if lower = "error" ∨ lower = "1" then some 1
  else if lower = "warn" ∨ lower = "2" then some 2
  else if lower = "info" ∨ lower = "3" then some 3
  else if lower = "debug" ∨ lower = "4" then some 4
  else if lower = "trace" ∨ lower = "5" then some 5
  else none

/-- The verbosity after an equals sign; without one every level is meant. -/
def readVerbosity (text : List Char) : Option Nat :=
  if text.isEmpty then some 5 else verbosityOf? (String.ofList text)

/-- May a directive begin with `c`? -/
def canBegin (c : Char) : Bool :=
  c.isAlphanum || c = '-' || c = ':' || c = '_' || c = '[' || decide (0x80 ≤ c.toNat)

/-- The verbosity after the name of a span. -/
def readSpan (text : List Char) : Option Nat :=
  match text.dropWhile (· ≠ ']') with
  | [']'] => some 5
  | ']' :: '=' :: rest => readVerbosity rest
  | _ => none

/-- A directive without a span. -/
def readTarget (text : List Char) : Option LogDirective :=
  let target := String.ofList (text.takeWhile (· ≠ '='))
  match text.dropWhile (· ≠ '=') with
  | '=' :: rest =>
    if text.head?.any Text.isBlank then none else (readVerbosity rest).map fun v => ⟨target, v⟩
  | _ =>
    match verbosityOf? target with
    | some verbosity => some ⟨"", verbosity⟩
    | none => some ⟨target, 5⟩

/-- Read a directive: `none` if it is malformed, and no directive if it is about a span. -/
def read (text : List Char) : Option (Option LogDirective) :=
  if (text.dropWhile Text.isBlank).head?.any canBegin then
    let before := text.takeWhile (· ≠ '=')
    if before.contains '[' then (readSpan text).map fun _ => none
    else (readTarget text).map some
  else none

/-- Does the directive apply to a target? -/
def appliesTo (directive : LogDirective) (target : String) : Bool :=
  directive.target.toList.isPrefixOf target.toList

end LogDirective

namespace LogFilter

/-- Everything that matters, and what the keeper's own parts say about details. -/
def default : LogFilter :=
  [⟨"", 3⟩, ⟨"keeper_core", 4⟩, ⟨"keeper_chain", 4⟩, ⟨"keeper_api", 4⟩]

/-- Errors only. -/
def errorsOnly : LogFilter :=
  [⟨"", 1⟩]

/-- The parts of a text between commas, without empty ones. -/
def parts (text : String) : List String :=
  (text.splitOn ",").filter fun part => !part.isEmpty

/-- Read a filter; a text without directives admits errors only. -/
def read (text : String) : Option LogFilter :=
  match parts text with
  | [] => some errorsOnly
  | parts => (parts.mapM fun part => LogDirective.read part.toList).map fun directives =>
    directives.filterMap id

/-- The more specific of two directives: of equal ones the later one. -/
def moreSpecific (best : Option LogDirective) (next : LogDirective) : Option LogDirective :=
  match best with
  | some directive => if next.target.length < directive.target.length then best else some next
  | none => some next

/-- The directive that decides about a target. -/
def find? (filter : LogFilter) (target : String) : Option LogDirective :=
  (filter.filter (·.appliesTo target)).foldl moreSpecific none

/-- Is an event logged? -/
def admits (filter : LogFilter) (event : LogEvent) : Bool :=
  (filter.find? event.target).any fun directive =>
    decide (event.level.verbosity ≤ directive.verbosity)

end LogFilter

end VaultKeeper
