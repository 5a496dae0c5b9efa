import VaultKeeper.Bytes

/-! # The Keccak-256 hash

The sponge over the permutation Keccak-f[1600] with a rate of 136 bytes and a padding that begins
with 0x01, as used for function selectors, event topics, account addresses and address checksums.
The state is a list of 25 lanes of 64 bits, lane `x + 5 y` holding column `x` and row `y`.
-/

namespace VaultKeeper.Keccak

/-- Rotate a lane to the left. -/
def rotate (lane : UInt64) (amount : UInt64) : UInt64 :=
  if amount = 0 then lane else (lane <<< amount) ||| (lane >>> (64 - amount))

/-- Rotation amounts in the order in which lanes are visited when they are moved. -/
def rotations : List UInt64 :=
  [1, 3, 6, 10, 15, 21, 28, 36, 45, 55, 2, 14, 27, 41, 56, 8, 25, 43, 62, 18, 39, 61, 20, 44]

/-- Lanes in the order in which they are visited when they are moved. -/
def positions : List Nat :=
  [10, 7, 11, 17, 18, 3, 5, 16, 8, 21, 24, 4, 15, 23, 19, 13, 12, 2, 20, 14, 22, 9, 6, 1]

/-- The constant of each round. -/
def roundConstants : List UInt64 :=
  [0x0000000000000001, 0x0000000000008082, 0x800000000000808a, 0x8000000080008000,
   0x000000000000808b, 0x0000000080000001, 0x8000000080008081, 0x8000000000008009,
   0x000000000000008a, 0x0000000000000088, 0x0000000080008009, 0x000000008000000a,
   0x000000008000808b, 0x800000000000008b, 0x8000000000008089, 0x8000000000008003,
   0x8000000000008002, 0x8000000000000080, 0x000000000000800a, 0x800000008000000a,
   0x8000000080008081, 0x8000000000008080, 0x0000000080000001, 0x8000000080008008]

abbrev State := Array UInt64

/-- A lane of the state. -/
def lane (state : State) (i : Nat) : UInt64 :=
  state.getD i 0

/-- Mix every lane with the parities of two columns. -/
def theta (state : State) : State :=
  let parity (x : Nat) : UInt64 :=
    lane state x ^^^ lane state (x + 5) ^^^ lane state (x + 10) ^^^ lane state (x + 15)
      ^^^ lane state (x + 20)
  let mixed (x : Nat) : UInt64 := parity ((x + 4) % 5) ^^^ rotate (parity ((x + 1) % 5)) 1
  let columns := #[mixed 0, mixed 1, mixed 2, mixed 3, mixed 4]
  state.mapIdx fun i value => value ^^^ columns.getD (i % 5) 0

/-- Rotate the lanes and move each to its new place. -/
def move (state : State) : State :=
  ((positions.zip rotations).foldl
    (fun (moved, carried) (place, amount) =>
      (moved.setIfInBounds place (rotate carried amount), lane state place))
    (state, lane state 1)).1

/-- Combine each lane with the next two of its row. -/
def chi (state : State) : State :=
  state.mapIdx fun i value =>
    let row := i / 5 * 5
    value ^^^ (~~~ lane state (row + (i + 1) % 5) &&& lane state (row + (i + 2) % 5))

/-- One round: the three steps and the round constant in lane 0. -/
def round (state : State) (constant : UInt64) : State :=
  let mixed := chi (move (theta state))
  mixed.setIfInBounds 0 (lane mixed 0 ^^^ constant)

/-- The permutation. -/
def permute (state : State) : State :=
  roundConstants.foldl round state

/-- The little-endian lane that starts a byte string. -/
def laneOfBytes (bytes : Bytes) : UInt64 :=
  (bytes.take 8).foldr (fun byte value => (value <<< 8) ||| byte.toUInt64) 0

/-- The little-endian bytes of a lane. -/
def laneToBytes (value : UInt64) : Bytes :=
  (List.range 8).map fun i => (value >>> (8 * i).toUInt64).toUInt8

/-- Bytes absorbed between two permutations. -/
def rate : Nat := 136

/-- Absorb one block of `rate` bytes. -/
def absorbBlock (state : State) (block : Bytes) : State :=
  permute ((List.range (rate / 8)).foldl
    (fun current i => current.setIfInBounds i (lane current i ^^^ laneOfBytes (block.drop (8 * i))))
    state)

/-- A message extended to a positive multiple of `rate` bytes: a one bit, zeros, and a one bit. -/
def pad (message : Bytes) : Bytes :=
  let missing := rate - message.length % rate
  if missing = 1 then message ++ [0x81]
  else message ++ [0x01] ++ List.replicate (missing - 2) 0 ++ [0x80]

/-- Absorb the first `blocks` blocks of a message. -/
def absorb : (blocks : Nat) → State → Bytes → State
  | 0, state, _ => state
  | blocks + 1, state, message =>
    absorb blocks (absorbBlock state (message.take rate)) (message.drop rate)

/-- The hash of a byte string, in 32 bytes. -/
def hash (message : Bytes) : Bytes :=
  let padded := pad message
  let final := absorb (padded.length / rate) (Array.replicate 25 0) padded
  (List.range 4).flatMap fun i => laneToBytes (lane final i)

/-- The hash of a text in UTF-8. -/
def hashText (text : String) : Bytes :=
  hash (Bytes.ofText text)

end VaultKeeper.Keccak
