import VaultKeeper.Abi

/-! # Unwind plans

A plan says in which order a step of debt reduction swaps and repays. On chain it is two words: the
number of the plan and the wanted share of the second asset, where the largest word keeps the share.
-/

namespace VaultKeeper

/-- The order in which a step swaps and repays. -/
inductive Plan where
  /-- Swap collateral, then repay; used while a fuse is triggered. -/
  | swapRepay
  /-- Repay, swap, repay again; used for routine debt reduction. -/
  | repaySwapRepay
  /-- Swap without repaying; understood, but never decided on. -/
  | swapOnly
deriving DecidableEq, Repr

namespace Plan

/-- The number of the plan. -/
def id : Plan → Nat
  | swapRepay => 0
  | repaySwapRepay => 1
  | swapOnly => 2

/-- The plan with a number. -/
def ofId? : Nat → Option Plan
  | 0 => some swapRepay
  | 1 => some repaySwapRepay
  | 2 => some swapOnly
  | _ => none

@[simp] theorem ofId?_id (plan : Plan) : ofId? plan.id = some plan := by
  cases plan <;> rfl

/-- The wanted share of the second asset. -/
def share : Plan → Word
  | repaySwapRepay => BitVec.allOnes 256
  | swapRepay | swapOnly => 0

/-- The two words of a plan. -/
def encode (plan : Plan) : Bytes :=
  Abi.encode [.word (Abi.wordOfNat plan.id), .word plan.share]

/-- Read a plan from the first word; what follows it is not looked at. -/
def decode (data : Bytes) : Option Plan := do
  let word ← Abi.wordAt data 0
  ofId? word.toNat

/-- The name of the plan. -/
def name : Plan → String
  | swapRepay => "SwapRepay"
  | repaySwapRepay => "RepaySwapRepay"
  | swapOnly => "SwapOnly"

/-- The plan with a name. -/
def ofName? (name : String) : Option Plan :=
  [swapRepay, repaySwapRepay, swapOnly].find? fun plan => plan.name == name

/-- How the plan is called in messages. -/
def text : Plan → String
  | swapRepay => "swap-repay"
  | repaySwapRepay => "repay-swap-repay"
  | swapOnly => "swap-only"

end Plan

end VaultKeeper
