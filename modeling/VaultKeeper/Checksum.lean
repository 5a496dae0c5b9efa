import VaultKeeper.Hex
import VaultKeeper.Keccak

/-! # Addresses as text

An address is shown with a checksum in the case of its letters: a letter is in upper case where the
hash of the lower-case digits has a digit of at least 8. It is read in any case.
-/

namespace VaultKeeper.Address

/-- The 40 digits of an address in lower case. -/
def digits (address : Address) : List Char :=
  Hex.digits address.toBytes

/-- `0x` and the digits in lower case. -/
def lower (address : Address) : String :=
  Hex.encode address.toBytes

/-- `0x` and the digits, letters in upper case where the hash says so. -/
def text (address : Address) : String :=
  let digits := address.digits
  let hash := Keccak.hashText (String.ofList digits)
  let nibbles := hash.flatMap fun byte => [byte.toNat / 16, byte.toNat % 16]
  String.ofList ('0' :: 'x' :: (digits.zip nibbles).map fun (c, nibble) =>
    if 8 ≤ nibble then c.toUpper else c)

/-- Why a text is no address. -/
inductive Error where
  | oddLength
  | wrongLength
  | badDigit (byte : UInt8) (position : Nat)
deriving DecidableEq, Repr

/-- Read an address: 40 digits with at most one `0x` before them. -/
def parse (text : String) : Except Error Address :=
  let bytes := Hex.dropMark (Bytes.ofText text)
  if bytes.length % 2 = 1 then .error .oddLength
  else if bytes.length ≠ 40 then .error .wrongLength
  else match Hex.decode bytes with
    | .ok decoded => .ok (ofBytes decoded)
    | .error .oddLength => .error .oddLength
    | .error (.badDigit byte position) => .error (.badDigit byte position)

end VaultKeeper.Address

namespace VaultKeeper

/-- A hash in lower case. -/
def Hash.text (hash : Hash) : String :=
  Hex.encode hash.toBytes

end VaultKeeper
