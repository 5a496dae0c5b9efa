import VaultKeeper.Bytes

/-! # Contract arguments as byte strings

A list of values is written as a head of one word per value followed by a tail: a word stands in the
head itself, a byte string or an array stands in the tail and its place in the head holds the
distance from the start. `encode` writes this layout in its only canonical form; `decode` follows
the distances it finds and needs no more than that every word it asks for lies inside the data.
`decodeExact` accepts the canonical form alone.
-/

namespace VaultKeeper.Abi

/-- A value of one argument. -/
inductive Value where
  | word (value : Word)
  | bytes (value : Bytes)
  | words (values : List Word)
deriving DecidableEq, Repr

/-- What one word may hold. -/
inductive Element where
  | uint256
  | int24
  | address
  | bool
deriving DecidableEq, Repr

/-- The type of one argument that is read. -/
inductive Kind where
  | single (element : Element)
  | array (element : Element)
deriving DecidableEq, Repr

/-- A number as a word. -/
def wordOfNat (n : Nat) : Word :=
  BitVec.ofNat 256 n

/-- A truth value as a word. -/
def wordOfBool (b : Bool) : Word :=
  if b then 1 else 0

/-- Zeros that fill up the last word of a byte string. -/
def padding (length : Nat) : Bytes :=
  List.replicate ((32 - length % 32) % 32) 0

/-- What a value adds to the tail. -/
def tail : Value → Bytes
  | .word _ => []
  | .bytes value => (wordOfNat value.length).toBytes ++ value ++ padding value.length
  | .words values => (wordOfNat values.length).toBytes ++ values.flatMap Word.toBytes

/-- The word of a value in the head, where its tail starts at `offset`. -/
def head (offset : Nat) : Value → Word
  | .word value => value
  | .bytes _ | .words _ => wordOfNat offset

/-- The head of a list of values, the first tail starting at `offset`. -/
def heads : (offset : Nat) → List Value → Bytes
  | _, [] => []
  | offset, value :: rest =>
    (head offset value).toBytes ++ heads (offset + (tail value).length) rest

/-- A list of values in canonical form. -/
def encode (values : List Value) : Bytes :=
  heads (32 * values.length) values ++ values.flatMap tail

/-- The word at a position. -/
def wordAt (data : Bytes) (position : Nat) : Option Word :=
  if position + 32 ≤ data.length then some (Word.ofBytes ((data.drop position).take 32)) else none

/-- `count` consecutive words from a position on. -/
def wordsAt (data : Bytes) (position : Nat) : (count : Nat) → Option (List Word)
  | 0 => some []
  | count + 1 => do
    let word ← wordAt data position
    let rest ← wordsAt data (position + 32) count
    pure (word :: rest)

/-- Read the value whose place in the head is at `position`. -/
def decodeAt (data : Bytes) (position : Nat) : Kind → Option Value
  | .single _ => (wordAt data position).map .word
  | .array _ => do
    let start ← wordAt data position
    let length ← wordAt data start.toNat
    if start.toNat + 32 + 32 * length.toNat ≤ data.length then
      (wordsAt data (start.toNat + 32) length.toNat).map .words
    else none

/-- Read values of the given kinds, the first at `position`. -/
def decodeFrom (data : Bytes) : (position : Nat) → List Kind → Option (List Value)
  | _, [] => some []
  | position, kind :: rest => do
    let value ← decodeAt data position kind
    let values ← decodeFrom data (position + 32) rest
    pure (value :: values)

/-- Read values of the given kinds. -/
def decode (kinds : List Kind) (data : Bytes) : Option (List Value) :=
  decodeFrom data 0 kinds

/-- May the word stand for the element? An address has twelve zero bytes above it and a truth value
thirty-one. -/
def Element.allows (element : Element) (word : Word) : Bool :=
  match element with
  | .uint256 => true
  | .int24 => decide (word.toInt < 0x800000) && decide (-0x800000 ≤ word.toInt)
  | .address => decide (word.toNat < 1 <<< 160)
  | .bool => decide (word.toNat < 256)

/-- Does the value consist of words that its kind allows? -/
def Kind.allows : Kind → Value → Bool
  | .single element, .word word => element.allows word
  | .array element, .words words => words.all element.allows
  | _, _ => false

/-- Read values of the given kinds from their canonical form; anything else is refused. -/
def decodeExact (kinds : List Kind) (data : Bytes) : Option (List Value) := do
  let values ← decode kinds data
  if (kinds.zip values).all (fun (kind, value) => kind.allows value) && encode values == data then
    some values
  else none

end VaultKeeper.Abi
