/-! # JSON values

A value keeps what a reader may still need: numbers as they are written, the members of an object in
their order with repetitions, and for a string that names half a surrogate pair the fact that it
denotes no text, since such a string is in order only where nobody looks at it.
-/

namespace VaultKeeper

/-- The text of a JSON string; `none` if it names half a surrogate pair. -/
abbrev Json.Text := Option String

inductive Json where
  | null
  | bool (value : Bool)
  | number (literal : String)
  | string (text : Json.Text)
  | array (items : List Json)
  | object (members : List (Json.Text × Json))
deriving Repr, Inhabited

namespace Json

/-- A string. -/
def ofText (text : String) : Json :=
  string (some text)

/-- A number. -/
def ofNat (n : Nat) : Json :=
  number (toString n)

/-- A number in decimal digits between quotes, for readers whose numbers are small. -/
def ofDecimal (n : Nat) : Json :=
  ofText (toString n)

/-- An object with the given members. -/
def ofMembers (members : List (String × Json)) : Json :=
  object (members.map fun (key, value) => (some key, value))

/-- The value, or null if there is none. -/
def ofOption {α : Type} (encode : α → Json) (value : Option α) : Json :=
  (value.map encode).getD null

/-- A string that denotes text. -/
def asText : Json → Option String
  | string text => text
  | _ => none

/-- A number written as plain digits, without sign, point or exponent. -/
def asNatural : Json → Option Nat
  | number literal => if literal.toList.all Char.isDigit then literal.toNat? else none
  | _ => none

def asBool : Json → Option Bool
  | bool value => some value
  | _ => none

def asArray : Json → Option (List Json)
  | array items => some items
  | _ => none

def isNull : Json → Bool
  | null => true
  | _ => false

/-- The members of an object whose key is one of `names`. -/
def membersNamed (names : List String) (members : List (Text × Json)) : List Json :=
  (members.filter fun member => names.any fun name => member.1 == some name).map Prod.snd

/-- The fields of a record, each known under one or more names: an object in which no field occurs
twice and every key is text, or an array of all fields in their order. -/
def fields (names : List (List String)) : Json → Option (List (Option Json))
  | object members =>
    if members.any fun member => member.1.isNone then none
    else names.mapM fun aliases =>
      match membersNamed aliases members with
      | [] => some none
      | [value] => some (some value)
      | _ => none
  | array items => if items.length = names.length then some (items.map some) else none
  | _ => none

/-- The last member of an object with a key. -/
def member? (key : String) : Json → Option Json
  | object members => (membersNamed [key] members).getLast?
  | _ => none

/-- The last member of an object with a key, unless it is null. -/
def present? (key : String) (json : Json) : Option Json :=
  (json.member? key).filter fun value => !value.isNull

/-! ## Equality

Values nest through lists, so that their equality is decided by a function of its own.
-/

mutual

/-- Whether two values are the same, with numbers as they are written. -/
def same : (first second : Json) → Bool
  | null, null => true
  | bool a, bool b => a == b
  | number a, number b => a == b
  | string a, string b => a == b
  | array a, array b => sameItems a b
  | object a, object b => sameMembers a b
  | _, _ => false

def sameItems : (first second : List Json) → Bool
  | [], [] => true
  | a :: first, b :: second => same a b && sameItems first second
  | _, _ => false

def sameMembers : (first second : List (Text × Json)) → Bool
  | [], [] => true
  | (key, a) :: first, (key', b) :: second => key == key' && same a b && sameMembers first second
  | _, _ => false

end

mutual

theorem same_iff : (first second : Json) → (same first second = true ↔ first = second)
  | null, second | bool _, second | number _, second | string _, second => by
    cases second <;> simp [same]
  | array items, second => by cases second <;> simp [same, sameItems_iff items]
  | object members, second => by cases second <;> simp [same, sameMembers_iff members]

theorem sameItems_iff :
    (first second : List Json) → (sameItems first second = true ↔ first = second)
  | [], second => by cases second <;> simp [sameItems]
  | item :: first, second => by
    cases second <;> simp [sameItems, same_iff item, sameItems_iff first]

theorem sameMembers_iff :
    (first second : List (Text × Json)) → (sameMembers first second = true ↔ first = second)
  | [], second => by cases second <;> simp [sameMembers]
  | (key, value) :: first, second => by
    cases second <;> simp [sameMembers, same_iff value, sameMembers_iff first, Prod.ext_iff]

end

instance : DecidableEq Json := fun first second => decidable_of_iff _ (same_iff first second)

end Json

end VaultKeeper
