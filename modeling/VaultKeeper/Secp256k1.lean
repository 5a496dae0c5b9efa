import VaultKeeper.Checksum
import VaultKeeper.Text.Basic

/-! # Signing keys

A key is a number below the order of the curve secp256k1, and not zero. Its account is the low 160
bits of the hash of its public point. Points are kept in Jacobian coordinates, so that only the last
step divides.
-/

namespace VaultKeeper.Secp256k1

/-- The prime of the field. -/
def fieldPrime : Nat := 0xfffffffffffffffffffffffffffffffffffffffffffffffffffffffefffffc2f

/-- The order of the group. -/
def order : Nat := 0xfffffffffffffffffffffffffffffffebaaedce6af48a03bbfd25e8cd0364141

/-- A point: `x / z ^ 2` and `y / z ^ 3`, or the neutral point where `z` is zero. -/
structure Point where
  x : Nat
  y : Nat
  z : Nat
deriving DecidableEq, Repr

/-- The generator of the group. -/
def generator : Point where
  x := 0x79be667ef9dcbbac55a06295ce870b07029bfcdb2dce28d959f2815b16f81798
  y := 0x483ada7726a3c4655da4fbfc0e1108a8fd17b448a68554199c47d08ffb10d4b8
  z := 1

def neutral : Point := ⟨1, 1, 0⟩

/-- The difference in the field. -/
def sub (a b : Nat) : Nat :=
  (a + (fieldPrime - b % fieldPrime)) % fieldPrime

def mul (a b : Nat) : Nat :=
  a * b % fieldPrime

/-- `base ^ exponent` in the field, reading the lowest `bits` bits of the exponent. -/
def power : (bits : Nat) → (base exponent : Nat) → Nat
  | 0, _, _ => 1
  | bits + 1, base, exponent =>
    let rest := power bits (mul base base) (exponent / 2)
    if exponent % 2 = 1 then mul base rest else rest

/-- The inverse in the field: the power with exponent `fieldPrime - 2`. -/
def inverse (a : Nat) : Nat :=
  power 256 a (fieldPrime - 2)

def double (p : Point) : Point :=
  let squaredY := mul p.y p.y
  let s := mul 4 (mul p.x squaredY)
  let m := mul 3 (mul p.x p.x)
  let x := sub (mul m m) (mul 2 s)
  ⟨x, sub (mul m (sub s x)) (mul 8 (mul squaredY squaredY)), mul 2 (mul p.y p.z)⟩

def add (p q : Point) : Point :=
  if p.z = 0 then q
  else if q.z = 0 then p
  else
    let pz2 := mul p.z p.z
    let qz2 := mul q.z q.z
    let u1 := mul p.x qz2
    let u2 := mul q.x pz2
    let s1 := mul p.y (mul q.z qz2)
    let s2 := mul q.y (mul p.z pz2)
    if u1 = u2 then if s1 = s2 then double p else neutral
    else
      let h := sub u2 u1
      let r := sub s2 s1
      let h2 := mul h h
      let h3 := mul h h2
      let v := mul u1 h2
      let x := sub (sub (mul r r) h3) (mul 2 v)
      ⟨x, sub (mul r (sub v x)) (mul s1 h3), mul h (mul p.z q.z)⟩

/-- The multiple of a point by the lowest `bits` bits of `scalar`. -/
def multiple : (bits : Nat) → (scalar : Nat) → Point → Point
  | 0, _, _ => neutral
  | bits + 1, scalar, p =>
    let rest := multiple bits (scalar / 2) (double p)
    if scalar % 2 = 1 then add p rest else rest

/-- The affine coordinates of a point. -/
def affine (p : Point) : Nat × Nat :=
  let i := inverse p.z
  let i2 := mul i i
  (mul p.x i2, mul p.y (mul i i2))

/-- The account of a key. -/
def accountOf (key : Nat) : Address :=
  let (x, y) := affine (multiple 256 key generator)
  Address.ofBytes ((Keccak.hash (Bytes.bigEndian 32 x ++ Bytes.bigEndian 32 y)).drop 12)

/-- Read a key: 64 hexadecimal digits after any number of `0x`, blank characters around it
ignored. -/
def parseKey (text : String) : Option Nat :=
  let trimmed := Text.trimBlank text.toList
  match Hex.decode (Hex.dropMarks (trimmed.flatMap String.utf8EncodeChar)) with
  | .error _ => none
  | .ok bytes =>
    let key := Bytes.ofBigEndian bytes
    if bytes.length = 32 ∧ key ≠ 0 ∧ key < order then some key else none

end VaultKeeper.Secp256k1
