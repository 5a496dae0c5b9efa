import VaultKeeper.Bytes
import VaultKeeper.Decimal.Nearest
import VaultKeeper.Hex
import VaultKeeper.Toml.Basic

/-! # Reading records from TOML

A record is a table with a key for each field, or an array of its fields in their order. Unknown
keys are ignored; an array with more items than fields is refused. Integers must fit and count as
floats where a float is wanted, while no float counts as an integer.
-/

namespace VaultKeeper.Toml

/-- Can the value be a record with `size` fields? -/
def isRecord (size : Nat) : Toml → Bool
  | table _ => true
  | array items => decide (items.length ≤ size)
  | _ => false

/-- The field of a record with a name and a place. -/
def item? (name : String) (place : Nat) : Toml → Option Toml
  | table entries => entries.lookup name
  | array items => items[place]?
  | _ => none

/-- Read a field that has to be there. -/
def required {α : Type} (record : Toml) (name : String) (place : Nat) (read : Toml → Option α) :
    Option α :=
  (record.item? name place).bind read

/-- Read a field that has a value of its own where it is left out. -/
def field {α : Type} (record : Toml) (name : String) (place : Nat) (read : Toml → Option α)
    (missing : α) : Option α :=
  match record.item? name place with
  | none => some missing
  | some value => read value

/-- Read a field that may be left out. -/
def optional {α : Type} (record : Toml) (name : String) (place : Nat) (read : Toml → Option α) :
    Option (Option α) :=
  record.field name place (fun value => (read value).map some) none

def asBool : Toml → Option Bool
  | boolean value => some value
  | _ => none

/-- An integer from zero up to a bound. -/
def asNatural (bound : Nat) : Toml → Option Nat
  | integer (.ofNat value) => if value < bound then some value else none
  | _ => none

def asUInt16 (value : Toml) : Option UInt16 :=
  (value.asNatural UInt16.size).map UInt16.ofNat

def asUInt32 (value : Toml) : Option UInt32 :=
  (value.asNatural UInt32.size).map UInt32.ofNat

def asUInt64 (value : Toml) : Option UInt64 :=
  (value.asNatural UInt64.size).map UInt64.ofNat

/-- A float, or an integer as the float nearest to it. -/
def asFloat : Toml → Option Float
  | float value => some value
  | integer (.ofNat value) => some (Decimal.ofNat value)
  | integer (.negSucc value) => some (-(Decimal.ofNat (value + 1)))
  | _ => none

/-- Text; a date or a time counts as the text of its normal form. -/
def asString : Toml → Option String
  | string value => some value
  | moment value => some value.text
  | _ => none

/-- A list of values of one kind. -/
def asList {α : Type} (read : Toml → Option α) : Toml → Option (List α)
  | array items => items.mapM read
  | _ => none

/-- Is there nothing in it? -/
def isEmpty : Toml → Bool
  | array items => items.isEmpty
  | table entries => entries.isEmpty
  | _ => false

/-- The name of a choice: a string, or the only key of a table, with nothing under it. -/
def asChoice : Toml → Option String
  | string name => some name
  | table [(name, value)] => if value.isEmpty then some name else none
  | _ => none

/-- A byte. -/
def asByte (value : Toml) : Option UInt8 :=
  (value.asNatural 256).map UInt8.ofNat

/-- An address of 40 hexadecimal digits, with or without `0x`, or of 20 bytes. A last item after the
bytes that is no byte itself is left out. -/
def asAddress : Toml → Option Address
  | string text =>
    match Hex.decodeMarked text with
    | .ok bytes => if bytes.length = 20 then some (Address.ofBytes bytes) else none
    | .error _ => none
  | array items => do
    let bytes ← (items.take 20).mapM asByte
    match items.drop 20 with
    | [] => if bytes.length = 20 then some (Address.ofBytes bytes) else none
    | [last] => if last.asByte.isNone then some (Address.ofBytes bytes) else none
    | _ => none
  | _ => none

end VaultKeeper.Toml
