import VaultKeeper.Contract

/-! # The two transactions differ

Repositioning a range is a call of `rebalanceNoSwaps(true)`. It takes one word, a step of debt
reduction six of them, so that no calldata stands for both. The selectors are left alone: both are
parts of hashes.
-/

namespace VaultKeeper

@[simp] theorem Abi.length_heads (offset : Nat) (values : List Value) :
    (heads offset values).length = 32 * values.length := by
  induction values generalizing offset with
  | nil => rfl
  | cons value rest ih =>
    simp only [heads, List.length_append, ih, Word.toBytes, Bytes.length_bigEndian,
      List.length_cons]
    omega

theorem Abi.length_encode (values : List Value) :
    (encode values).length = 32 * values.length + (values.flatMap tail).length := by
  rw [encode, List.length_append, length_heads]

namespace Contract

/-- A call of `rebalanceNoSwaps(true)`: the first four bytes of the hash of the signature, then a
word that is one. -/
def rebalanceNoSwaps : Bytes :=
  (Keccak.hashText "rebalanceNoSwaps(bool)").take 4 ++ List.replicate 31 0 ++ [1]

theorem rebalanceCalldata_eq : rebalanceCalldata = rebalanceNoSwaps := by
  have word : Abi.encode [.word (Abi.wordOfBool true)] = List.replicate 31 0 ++ [1] := by decide
  rw [rebalanceCalldata, rebalanceSelector, selector, word, ← List.append_assoc, rebalanceNoSwaps]

theorem length_rebalanceCalldata_le : rebalanceCalldata.length ≤ 36 := by
  have short : rebalanceSelector.length ≤ 4 := List.length_take_le 4 _
  have word : (Abi.encode [.word (Abi.wordOfBool true)]).length = 32 := by
    simp [Abi.length_encode, Abi.tail]
  rw [rebalanceCalldata, List.length_append]
  omega

theorem WithdrawStep.le_length_calldata (step : WithdrawStep) : 192 ≤ step.calldata.length := by
  rw [calldata, List.length_append, Abi.length_encode]
  simp only [arguments, List.length_cons, List.length_nil]
  omega

theorem WithdrawStep.calldata_ne (step : WithdrawStep) : step.calldata ≠ rebalanceCalldata := by
  intro same
  have long := step.le_length_calldata
  have short := length_rebalanceCalldata_le
  rw [same] at long
  omega

end Contract

end VaultKeeper
