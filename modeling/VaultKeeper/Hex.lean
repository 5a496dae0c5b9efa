import VaultKeeper.Bytes

/-! # Hexadecimal text

Byte strings are written in lower case with the prefix `0x` and read in any case. Reading works on
the bytes of the text, since that is what positions in its error messages count.
-/

namespace VaultKeeper.Hex

/-- The digit of a number below sixteen. -/
def digit (n : Nat) : Char :=
  if n < 10 then Char.ofNat ('0'.toNat + n) else Char.ofNat ('a'.toNat + (n - 10))

/-- The two digits of a byte. -/
def byteDigits (byte : UInt8) : List Char :=
  [digit (byte.toNat / 16), digit (byte.toNat % 16)]

/-- The digits of a byte string. -/
def digits (bytes : Bytes) : List Char :=
  bytes.flatMap byteDigits

/-- The digits of a byte string after `0x`. -/
def encode (bytes : Bytes) : String :=
  String.ofList ('0' :: 'x' :: digits bytes)

/-- The value of a hexadecimal digit in either case. -/
def digitValue? (byte : UInt8) : Option Nat :=
  let n := byte.toNat
  if 0x30 ≤ n ∧ n ≤ 0x39 then some (n - 0x30)
  else if 0x61 ≤ n ∧ n ≤ 0x66 then some (n - 0x61 + 10)
  else if 0x41 ≤ n ∧ n ≤ 0x46 then some (n - 0x41 + 10)
  else none

/-- Why a text is no byte string. -/
inductive Error where
  | oddLength
  | badDigit (byte : UInt8) (position : Nat)
deriving DecidableEq, Repr

/-- Read pairs of digits; `position` counts the digits read before. -/
def decodePairs (position : Nat) : Bytes → Except Error Bytes
  | [] => .ok []
  | [_] => .error .oddLength
  | high :: low :: rest =>
    match digitValue? high, digitValue? low with
    | none, _ => .error (.badDigit high position)
    | some _, none => .error (.badDigit low (position + 1))
    | some h, some l => (decodePairs (position + 2) rest).map (UInt8.ofNat (16 * h + l) :: ·)

/-- Read a text of hexadecimal digits; an odd number of them is reported before a wrong one. -/
def decode (text : Bytes) : Except Error Bytes :=
  if text.length % 2 = 1 then .error .oddLength else decodePairs 0 text

/-- The bytes of `0x`. -/
def mark : Bytes := [0x30, 0x78]

/-- Remove one leading `0x`. -/
def dropMark : Bytes → Bytes
  | 0x30 :: 0x78 :: rest => rest
  | text => text

/-- Remove every leading `0x`. -/
def dropMarks : Bytes → Bytes
  | 0x30 :: 0x78 :: rest => dropMarks rest
  | text => text

/-- A text of hexadecimal digits with at most one `0x` before it. -/
def decodeMarked (text : String) : Except Error Bytes :=
  decode (dropMark (Bytes.ofText text))

end VaultKeeper.Hex
