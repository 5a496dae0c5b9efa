/-! # Byte strings and machine words

Addresses, hashes and contract words are bit vectors; outside they are written as big-endian byte
strings. `bigEndian` and `ofBigEndian` are inverse to each other on numbers that fit.
-/

namespace VaultKeeper

abbrev Bytes := List UInt8

/-- An account on chain. -/
abbrev Address := BitVec 160

/-- A transaction hash or an event topic. -/
abbrev Hash := BitVec 256

/-- A contract word: an unsigned integer of 256 bits. -/
abbrev Word := BitVec 256

/-- An amount of the chain's native coin as fees are counted: an unsigned integer of 128 bits. -/
abbrev Wei := BitVec 128

namespace Bytes

/-- `n` in `size` bytes, the most significant first; higher digits are dropped. -/
def bigEndian : (size : Nat) → (n : Nat) → Bytes
  | 0, _ => []
  | size + 1, n => bigEndian size (n / 256) ++ [UInt8.ofNat n]

/-- The number that a byte string denotes, the most significant byte first. -/
def ofBigEndian (bytes : Bytes) : Nat :=
  bytes.foldl (fun value byte => value * 256 + byte.toNat) 0

@[simp] theorem length_bigEndian (size n : Nat) : (bigEndian size n).length = size := by
  induction size generalizing n with
  | zero => rfl
  | succ size ih => simp [bigEndian, ih]

@[simp] theorem ofBigEndian_append_singleton (bytes : Bytes) (byte : UInt8) :
    ofBigEndian (bytes ++ [byte]) = ofBigEndian bytes * 256 + byte.toNat := by
  simp [ofBigEndian, List.foldl_append]

theorem shiftLeft_succ_byte (size : Nat) : 1 <<< (8 * (size + 1)) = 1 <<< (8 * size) * 256 := by
  rw [Nat.mul_succ, Nat.shiftLeft_add, Nat.shiftLeft_eq (1 <<< (8 * size)) 8]

theorem ofBigEndian_bigEndian (size n : Nat) :
    ofBigEndian (bigEndian size n) = n % 1 <<< (8 * size) := by
  induction size generalizing n with
  | zero => simp [bigEndian, ofBigEndian, Nat.mod_one]
  | succ size ih =>
    rw [bigEndian, ofBigEndian_append_singleton, ih, shiftLeft_succ_byte, Nat.mul_comm (1 <<< _),
      Nat.mod_mul]
    have byte : (UInt8.ofNat n).toNat = n % 256 := by simp
    omega

theorem ofBigEndian_lt (bytes : Bytes) : ofBigEndian bytes < 1 <<< (8 * bytes.length) := by
  rw [← List.reverse_reverse bytes]
  induction bytes.reverse with
  | nil => decide
  | cons byte rest ih =>
    rw [List.reverse_cons, ofBigEndian_append_singleton, List.length_append, List.length_singleton,
      shiftLeft_succ_byte]
    have := byte.toNat_lt
    omega

theorem bigEndian_ofBigEndian (bytes : Bytes) :
    bigEndian bytes.length (ofBigEndian bytes) = bytes := by
  rw [← List.reverse_reverse bytes]
  induction bytes.reverse with
  | nil => rfl
  | cons byte rest ih =>
    rw [List.reverse_cons, List.length_append, List.length_singleton, bigEndian,
      ofBigEndian_append_singleton]
    have small := byte.toNat_lt
    have quotient : (ofBigEndian rest.reverse * 256 + byte.toNat) / 256
        = ofBigEndian rest.reverse := by
      omega
    have last : UInt8.ofNat (ofBigEndian rest.reverse * 256 + byte.toNat) = byte := by
      apply UInt8.toNat_inj.mp
      simp only [UInt8.toNat_ofNat']
      omega
    rw [quotient, ih, last]

/-- The bytes of a text in UTF-8. -/
def ofText (text : String) : Bytes :=
  text.toList.flatMap String.utf8EncodeChar

end Bytes

/-- A word in 32 bytes. -/
def Word.toBytes (word : Word) : Bytes :=
  Bytes.bigEndian 32 word.toNat

/-- The word that a byte string denotes; bytes beyond the last 32 have no influence. -/
def Word.ofBytes (bytes : Bytes) : Word :=
  BitVec.ofNat 256 (Bytes.ofBigEndian bytes)

/-- A hash in 32 bytes. -/
def Hash.toBytes (hash : Hash) : Bytes :=
  Bytes.bigEndian 32 hash.toNat

/-- An address in 20 bytes. -/
def Address.toBytes (address : Address) : Bytes :=
  Bytes.bigEndian 20 address.toNat

/-- The address that 20 bytes denote. -/
def Address.ofBytes (bytes : Bytes) : Address :=
  BitVec.ofNat 160 (Bytes.ofBigEndian bytes)

/-- An address in a contract word, with zeros above it. -/
def Address.toWord (address : Address) : Word :=
  BitVec.ofNat 256 address.toNat

/-- The low 160 bits of a contract word. -/
def Address.ofWord (word : Word) : Address :=
  BitVec.ofNat 160 word.toNat

/-- A contract word as an integer of 64 bits, the largest one if it does not fit. -/
def Word.toUInt64Saturating (word : Word) : UInt64 :=
  UInt64.ofNat (min word.toNat (UInt64.size - 1))

/-- Twice a fee, the largest fee if that does not fit. -/
def Wei.double (fee : Wei) : Wei :=
  BitVec.ofNat 128 (min (2 * fee.toNat) (BitVec.allOnes 128).toNat)

end VaultKeeper
