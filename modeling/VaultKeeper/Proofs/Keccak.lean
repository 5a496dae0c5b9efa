import Mathlib.Data.List.Basic
import VaultKeeper.Keccak

/-! # The hash on plain lists

The lanes of a state are an array for the sake of a fast program. On plain lists the same steps are
recursions that the kernel can follow, so the hash of a fixed text becomes a fact.
-/

namespace VaultKeeper.Keccak

/-- The lanes of a state in a list. -/
abbrev Lanes := List UInt64

namespace Lanes

/-- A lane, zero where there is none. -/
def lane (lanes : Lanes) (i : Nat) : UInt64 :=
  lanes.getD i 0

/-- Change every lane by its index, the first one having the index `i`. -/
def mapFrom (change : Nat → UInt64 → UInt64) : (i : Nat) → Lanes → Lanes
  | _, [] => []
  | i, value :: rest => change i value :: mapFrom change (i + 1) rest

/-- Mix every lane with the parities of two columns. -/
def theta (lanes : Lanes) : Lanes :=
  let parity (x : Nat) : UInt64 :=
    lane lanes x ^^^ lane lanes (x + 5) ^^^ lane lanes (x + 10) ^^^ lane lanes (x + 15)
      ^^^ lane lanes (x + 20)
  let mixed (x : Nat) : UInt64 := parity ((x + 4) % 5) ^^^ rotate (parity ((x + 1) % 5)) 1
  let columns := #[mixed 0, mixed 1, mixed 2, mixed 3, mixed 4]
  mapFrom (fun i value => value ^^^ columns.getD (i % 5) 0) 0 lanes

/-- Rotate the lanes and move each to its new place. -/
def move (lanes : Lanes) : Lanes :=
  ((positions.zip rotations).foldl
    (fun (moved, carried) (place, amount) =>
      (moved.set place (rotate carried amount), lane lanes place))
    (lanes, lane lanes 1)).1

/-- Combine each lane with the next two of its row. -/
def chi (lanes : Lanes) : Lanes :=
  mapFrom
    (fun i value =>
      let row := i / 5 * 5
      value ^^^ (~~~ lane lanes (row + (i + 1) % 5) &&& lane lanes (row + (i + 2) % 5)))
    0 lanes

/-- One round: the three steps and the round constant in lane 0. -/
def round (lanes : Lanes) (constant : UInt64) : Lanes :=
  let mixed := chi (move (theta lanes))
  mixed.set 0 (lane mixed 0 ^^^ constant)

/-- Absorb one block of `rate` bytes. -/
def absorbBlock (lanes : Lanes) (block : Bytes) : Lanes :=
  roundConstants.foldl round ((List.range (rate / 8)).foldl
    (fun current i => current.set i (lane current i ^^^ laneOfBytes (block.drop (8 * i)))) lanes)

/-- Absorb the first `blocks` blocks of a message. -/
def absorb : (blocks : Nat) → Lanes → Bytes → Lanes
  | 0, lanes, _ => lanes
  | blocks + 1, lanes, message =>
    absorb blocks (absorbBlock lanes (message.take rate)) (message.drop rate)

/-- The hash of a byte string, in 32 bytes. -/
def hash (message : Bytes) : Bytes :=
  let padded := pad message
  let final := absorb (padded.length / rate) (List.replicate 25 0) padded
  (List.range 4).flatMap fun i => laneToBytes (lane final i)

end Lanes

theorem lane_toList (state : State) (i : Nat) : Lanes.lane state.toList i = lane state i := by
  simp [Lanes.lane, lane, Array.getD_eq_getD_getElem?]

theorem mapFrom_toList (change : Nat → UInt64 → UInt64) (state : State) :
    Lanes.mapFrom change 0 state.toList = (state.mapIdx change).toList := by
  have shifted (i : Nat) (lanes : Lanes) :
      Lanes.mapFrom change i lanes = lanes.mapIdx fun j => change (j + i) := by
    induction lanes generalizing i with
    | nil => rfl
    | cons value rest ih =>
      rw [Lanes.mapFrom, ih, List.mapIdx_cons]
      simp only [Nat.zero_add, Nat.add_assoc, Nat.add_comm 1]
  rw [shifted, Array.toList_mapIdx]
  rfl

theorem theta_toList (state : State) : Lanes.theta state.toList = (theta state).toList := by
  rw [theta, ← mapFrom_toList, Lanes.theta]
  simp only [lane_toList]

theorem move_toList (state : State) : Lanes.move state.toList = (move state).toList := by
  rw [Lanes.move, move, lane_toList]
  generalize positions.zip rotations = steps
  refine congrArg Prod.fst (@List.foldl_hom (State × UInt64) (Lanes × UInt64) (Nat × UInt64)
    (fun moving => (moving.1.toList, moving.2)) _ _ steps (state, lane state 1) ?_)
  intro moving step
  simp only [lane_toList, Array.toList_setIfInBounds]

theorem chi_toList (state : State) : Lanes.chi state.toList = (chi state).toList := by
  rw [chi, ← mapFrom_toList, Lanes.chi]
  simp only [lane_toList]

theorem round_toList (state : State) (constant : UInt64) :
    Lanes.round state.toList constant = (round state constant).toList := by
  simp only [Lanes.round, round, theta_toList, move_toList, chi_toList, lane_toList,
    Array.toList_setIfInBounds]

theorem absorbBlock_toList (state : State) (block : Bytes) :
    Lanes.absorbBlock state.toList block = (absorbBlock state block).toList := by
  rw [Lanes.absorbBlock, absorbBlock, permute, ← List.foldl_hom Array.toList round_toList]
  refine congrArg (roundConstants.foldl Lanes.round) (List.foldl_hom Array.toList ?_)
  intro current i
  rw [lane_toList, Array.toList_setIfInBounds]

theorem absorb_toList (blocks : Nat) (state : State) (message : Bytes) :
    Lanes.absorb blocks state.toList message = (absorb blocks state message).toList := by
  induction blocks generalizing state message with
  | zero => rfl
  | succ blocks ih => rw [Lanes.absorb, absorbBlock_toList, ih, absorb]

/-- The hash is the one on plain lists. -/
theorem hash_eq (message : Bytes) : hash message = Lanes.hash message := by
  have start : (Array.replicate 25 0 : State).toList = List.replicate 25 0 := rfl
  simp only [hash, Lanes.hash, ← start, absorb_toList, lane_toList]

end VaultKeeper.Keccak
