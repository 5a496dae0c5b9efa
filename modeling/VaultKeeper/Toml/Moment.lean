import VaultKeeper.Text.Basic

/-! # Dates and times

A moment is a date, a time of day, or both with or without an offset. Between date and time stands a
`T` in either case or a space; in its normal form it is a capital `T`, and a fraction of a second
has at most nine digits and no zero at its end.
-/

namespace VaultKeeper

/-- A day of the calendar. -/
structure Date where
  year : Nat
  month : Nat
  day : Nat
deriving DecidableEq, Repr

/-- A time of day; a second may be a leap second. -/
structure DayTime where
  hour : Nat
  minute : Nat
  second : Nat
  nanosecond : Nat
deriving DecidableEq, Repr

/-- The distance from universal time: none, or minutes to the east. -/
inductive Offset where
  | zulu
  | east (minutes : Int)
deriving DecidableEq, Repr

inductive Moment where
  | dateOnly (date : Date)
  | timeOnly (time : DayTime)
  | dateTime (date : Date) (time : DayTime) (offset : Option Offset)
deriving DecidableEq, Repr

open Text (padDigits dropTrailing valueOf)

/-- The days of a month. -/
def Date.daysIn (year month : Nat) : Nat :=
  if month = 2 then
    if year % 4 = 0 ∧ (year % 100 ≠ 0 ∨ year % 400 = 0) then 29 else 28
  else if month = 4 ∨ month = 6 ∨ month = 9 ∨ month = 11 then 30
  else 31

namespace Moment

/-- Exactly `count` decimal digits. -/
def readDigits (count : Nat) (text : List Char) : Option (Nat × List Char) :=
  let digits := text.take count
  if digits.length = count ∧ digits.all Char.isDigit then
    some (valueOf 10 (digits.map fun c => c.toNat - '0'.toNat), text.drop count)
  else none

/-- Two digits for a number between `low` and `high`. -/
def readPart (low high : Nat) (text : List Char) : Option (Nat × List Char) := do
  let (value, rest) ← readDigits 2 text
  if low ≤ value ∧ value ≤ high then some (value, rest) else none

/-- The text after `mark`. -/
def after (mark : Char) : List Char → Option (List Char)
  | c :: rest => if c = mark then some rest else none
  | [] => none

def readDate (text : List Char) : Option (Date × List Char) := do
  let (year, rest) ← readDigits 4 text
  let (month, rest) ← readPart 1 12 (← after '-' rest)
  let (day, rest) ← readPart 1 (Date.daysIn year month) (← after '-' rest)
  pure (⟨year, month, day⟩, rest)

/-- The nanoseconds of a fraction: digits after the ninth are dropped. -/
def nanoseconds (digits : List Char) : Nat :=
  let kept := digits.take 9
  valueOf 10 (kept.map fun c => c.toNat - '0'.toNat) * Nat.pow 10 (9 - kept.length)

/-- A fraction of a second, if there is one. -/
def readFraction : List Char → Option (Nat × List Char)
  | '.' :: rest =>
    let digits := rest.takeWhile Char.isDigit
    if digits.isEmpty then none else some (nanoseconds digits, rest.dropWhile Char.isDigit)
  | text => some (0, text)

def readTime (text : List Char) : Option (DayTime × List Char) := do
  let (hour, rest) ← readPart 0 23 text
  let (minute, rest) ← readPart 0 59 (← after ':' rest)
  let (second, rest) ← readPart 0 60 (← after ':' rest)
  let (nanosecond, rest) ← readFraction rest
  pure (⟨hour, minute, second, nanosecond⟩, rest)

/-- Hours and minutes of an offset. -/
def readDistance (text : List Char) : Option (Nat × List Char) := do
  let (hours, rest) ← readPart 0 23 text
  let (minutes, rest) ← readPart 0 59 (← after ':' rest)
  pure (60 * hours + minutes, rest)

/-- An offset, if there is one. -/
def readOffset : List Char → Option (Option Offset × List Char)
  | 'Z' :: rest | 'z' :: rest => some (some .zulu, rest)
  | '+' :: rest => (readDistance rest).map fun (minutes, rest) => (some (.east minutes), rest)
  | '-' :: rest => (readDistance rest).map fun (minutes, rest) => (some (.east (-minutes)), rest)
  | text => some (none, text)

/-- May `c` stand between date and time? -/
def isSeparator (c : Char) : Bool :=
  c = 'T' || c = 't' || c = ' '

/-- The time and the offset after a date, if a time follows. -/
def readRest (date : Date) (text : List Char) : Option (Moment × List Char) :=
  match text with
  | [] => some (.dateOnly date, [])
  | c :: rest =>
    match if isSeparator c then readTime rest else none with
    | none => some (.dateOnly date, text)
    | some (time, rest) =>
      (readOffset rest).map fun (offset, rest) => (.dateTime date time offset, rest)

/-- A moment at the start of a text. -/
def read (text : List Char) : Option (Moment × List Char) :=
  match readDate text with
  | some (date, rest) => readRest date rest
  | none => (readTime text).map fun (time, rest) => (.timeOnly time, rest)

end Moment

def Date.text (date : Date) : String :=
  String.ofList (padDigits 4 date.year ++ '-' :: padDigits 2 date.month
    ++ '-' :: padDigits 2 date.day)

def DayTime.text (time : DayTime) : String :=
  let fraction := if time.nanosecond = 0 then []
    else '.' :: dropTrailing '0' (padDigits 9 time.nanosecond)
  String.ofList (padDigits 2 time.hour ++ ':' :: padDigits 2 time.minute
    ++ ':' :: padDigits 2 time.second ++ fraction)

def Offset.text : Offset → String
  | zulu => "Z"
  | east minutes =>
    let sign := if minutes < 0 then '-' else '+'
    String.ofList (sign :: padDigits 2 (minutes.natAbs / 60)
      ++ ':' :: padDigits 2 (minutes.natAbs % 60))

/-- The normal form of a moment. -/
def Moment.text : Moment → String
  | dateOnly date => date.text
  | timeOnly time => time.text
  | dateTime date time offset => date.text ++ "T" ++ time.text ++ (offset.map Offset.text).getD ""

end VaultKeeper
