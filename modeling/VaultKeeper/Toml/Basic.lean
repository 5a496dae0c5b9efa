import VaultKeeper.Toml.Moment

/-! # TOML values

A document is a table. Tables are laid over each other key by key: where both sides have a table the
two are merged, and everywhere else the upper side wins.
-/

namespace VaultKeeper

inductive Toml where
  | boolean (value : Bool)
  | integer (value : Int)
  | float (value : Float)
  | string (value : String)
  | moment (value : Moment)
  | array (items : List Toml)
  | table (entries : List (String × Toml))
deriving Repr

namespace Toml

/-- The value under a key of a table. -/
def get? (key : String) : Toml → Option Toml
  | table entries => entries.lookup key
  | _ => none

/-- The value at a path through tables. -/
def at? : (path : List String) → Toml → Option Toml
  | [], value => some value
  | key :: path, value => (value.get? key).bind fun inner => inner.at? path

def asText : Toml → Option String
  | string value => some value
  | _ => none

/-- The entries laid over a table whose keys it does not have. -/
def newEntries (base upper : List (String × Toml)) : List (String × Toml) :=
  upper.filter fun entry => (base.lookup entry.1).isNone

mutual

/-- Lay one value over another. -/
def merge : (base upper : Toml) → Toml
  | .table base, .table upper => .table (mergeEntries base upper ++ newEntries base upper)
  | _, upper => upper

/-- The entries of a table with what is laid over each of them. -/
def mergeEntries : (base upper : List (String × Toml)) → List (String × Toml)
  | [], _ => []
  | (key, value) :: rest, upper =>
    (key, match upper.lookup key with
      | some new => merge value new
      | none => value) :: mergeEntries rest upper

end

/-! ## Equality

Values nest through lists, so that their equality is decided by a function of its own.
-/

mutual

/-- Whether two values are the same. -/
def same : (first second : Toml) → Bool
  | boolean a, boolean b => a == b
  | integer a, integer b => a == b
  | float a, float b => decide (a = b)
  | string a, string b => a == b
  | moment a, moment b => a == b
  | array a, array b => sameItems a b
  | table a, table b => sameEntries a b
  | _, _ => false

def sameItems : (first second : List Toml) → Bool
  | [], [] => true
  | a :: first, b :: second => same a b && sameItems first second
  | _, _ => false

def sameEntries : (first second : List (String × Toml)) → Bool
  | [], [] => true
  | (key, a) :: first, (key', b) :: second => key == key' && same a b && sameEntries first second
  | _, _ => false

end

mutual

theorem same_iff : (first second : Toml) → (same first second = true ↔ first = second)
  | boolean _, second | integer _, second | float _, second | string _, second
  | moment _, second => by cases second <;> simp [same]
  | array items, second => by cases second <;> simp [same, sameItems_iff items]
  | table entries, second => by cases second <;> simp [same, sameEntries_iff entries]

theorem sameItems_iff :
    (first second : List Toml) → (sameItems first second = true ↔ first = second)
  | [], second => by cases second <;> simp [sameItems]
  | item :: first, second => by
    cases second <;> simp [sameItems, same_iff item, sameItems_iff first]

theorem sameEntries_iff :
    (first second : List (String × Toml)) → (sameEntries first second = true ↔ first = second)
  | [], second => by cases second <;> simp [sameEntries]
  | (key, value) :: first, second => by
    cases second <;> simp [sameEntries, same_iff value, sameEntries_iff first, Prod.ext_iff]

end

instance : DecidableEq Toml := fun first second => decidable_of_iff _ (same_iff first second)

end Toml

end VaultKeeper
