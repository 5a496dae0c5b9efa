import VaultKeeper.Proofs.Abi.Layout

/-! # What a contract receives

A contract takes the first four bytes of calldata for the function that is meant and reads its
arguments from the rest, each as the type that the signature gives it. What it reads from the
calldata of a step of debt reduction is the step, so no two steps have the same calldata.
-/

namespace VaultKeeper

@[simp] theorem Keccak.length_hash (message : Bytes) : (Keccak.hash message).length = 32 := by
  simp [Keccak.hash, Keccak.laneToBytes, List.length_flatMap]

namespace Abi

/-- The type of a parameter. -/
inductive Parameter where
  | address
  | uint256
  | bytes
deriving DecidableEq, Repr

/-- The type as it stands in a signature. -/
def Parameter.text : Parameter → String
  | address => "address"
  | uint256 => "uint256"
  | bytes => "bytes"

/-- A function with its parameters, as its selector is made from. -/
def signature (function : String) (parameters : List Parameter) : String :=
  function ++ "(" ++ ",".intercalate (parameters.map Parameter.text) ++ ")"

/-- An argument as the contract receives it. -/
inductive Argument where
  | address (account : Address)
  | uint256 (number : Word)
  | bytes (content : Bytes)
deriving DecidableEq, Repr

namespace Argument

/-- The type that an argument has. -/
def parameter : Argument → Parameter
  | address _ => .address
  | uint256 _ => .uint256
  | bytes _ => .bytes

/-- The value that stands for an argument. -/
def value : Argument → Value
  | address account => .word account.toWord
  | uint256 number => .word number
  | bytes content => .bytes content

end Argument

/-- Read the argument whose place is at `position`. An account has twelve zero bytes before it. The
place of a byte string says where its length stands, with the bytes behind it and zeros up to a
whole number of words. -/
def readArgument (data : Bytes) (position : Nat) : Parameter → Option Argument
  | .address => do
    let word ← wordAt data position
    if word.toNat < 1 <<< 160 then some (.address (Address.ofWord word)) else none
  | .uint256 => (wordAt data position).map .uint256
  | .bytes => do
    let start ← wordAt data position
    let length ← wordAt data start.toNat
    let rest := data.drop (start.toNat + 32)
    let padding := padding length.toNat
    if length.toNat ≤ rest.length ∧ (rest.drop length.toNat).take padding.length = padding then
      some (.bytes (rest.take length.toNat))
    else none

/-- Read an argument for each parameter, the first one from `position`. -/
def readArguments (data : Bytes) : (position : Nat) → List Parameter → Option (List Argument)
  | _, [] => some []
  | position, parameter :: rest => do
    let argument ← readArgument data position parameter
    let arguments ← readArguments data (position + 32) rest
    pure (argument :: arguments)

section

variable {data : Bytes} {position offset : Nat} {values : List Value}

/-- An argument is read from where its value stands. -/
theorem readArgument_of_laid {argument : Argument} (small : data.length < 1 <<< 256)
    (laid : Laid data position offset (argument.value :: values)) :
    readArgument data position argument.parameter = some argument := by
  have place := laid.head
  have stands := laid.tail
  cases argument with
  | address account =>
    have clean : account.toWord.toNat < 1 <<< 160 := by
      rw [Address.toNat_toWord]
      exact account.isLt
    rw [Argument.value] at place
    simp only [Argument.parameter, readArgument, place, head, Option.bind_eq_bind,
      Option.bind_some, clean, if_true, Address.ofWord_toWord]
  | uint256 number => exact congrArg (Option.map Argument.uint256) place
  | bytes content =>
    have start : (wordOfNat offset).toNat = offset := toNat_wordOfNat (laid.offset_lt small)
    have length : wordAt data offset = some (wordOfNat content.length) :=
      wordAt_of_standsAt stands.left.left
    have inside := stands.left.right
    have behind := stands.right
    rw [List.length_append, ← Nat.add_assoc] at behind
    rw [Word.length_toBytes] at inside behind
    have room := inside.within
    have count : (wordOfNat content.length).toNat = content.length := toNat_wordOfNat (by omega)
    have enough : content.length ≤ (data.drop (offset + 32)).length := by
      rw [List.length_drop]
      omega
    have read := inside.take_drop
    have filled := behind.take_drop
    rw [← List.drop_drop] at filled
    rw [Argument.value] at place
    simp only [Argument.parameter, readArgument, place, head, Option.bind_eq_bind,
      Option.bind_some, start, length, count, enough, filled, and_self, if_true, read]

theorem readArguments_of_laid {arguments : List Argument} (small : data.length < 1 <<< 256)
    (laid : Laid data position offset (arguments.map Argument.value)) :
    readArguments data position (arguments.map Argument.parameter) = some arguments := by
  induction arguments generalizing position offset with
  | nil => rfl
  | cons argument rest ih =>
    rw [List.map_cons, readArguments, readArgument_of_laid small laid, Option.bind_eq_bind,
      Option.bind_some, ih laid.behind]
    rfl

/-- A contract receives the arguments that were encoded for it. -/
theorem readArguments_encode (arguments : List Argument)
    (small : (encode (arguments.map Argument.value)).length < 1 <<< 256) :
    readArguments (encode (arguments.map Argument.value)) 0 (arguments.map Argument.parameter) =
      some arguments :=
  readArguments_of_laid small (laid_encode _)

end

/-- Zeros fill up a byte string to whole words. -/
theorem length_tail_mod (value : Value) : (tail value).length % 32 = 0 := by
  cases value with
  | word _ => rfl
  | bytes content =>
    simp only [tail, List.length_append, Word.length_toBytes, padding, List.length_replicate]
    omega
  | words words =>
    have items : (words.flatMap Word.toBytes).length = 32 * words.length := length_row words
    simp only [tail, List.length_append, Word.length_toBytes, items]
    omega

theorem length_encode_mod (values : List Value) : (encode values).length % 32 = 0 := by
  have tails : (values.flatMap tail).length % 32 = 0 := by
    induction values with
    | nil => rfl
    | cons value rest ih =>
      rw [List.flatMap_cons, List.length_append, Nat.add_mod, length_tail_mod, ih]
  rw [length_encode]
  omega

end Abi

/-- A plan is read back from its two words. -/
theorem Plan.decode_encode (plan : Plan) : Plan.decode plan.encode = some plan := by
  have first : Abi.wordAt plan.encode 0 = some (Abi.wordOfNat plan.id) :=
    (Abi.laid_encode [.word (Abi.wordOfNat plan.id), .word plan.share]).head
  have small : plan.id < 1 <<< 256 := by cases plan <;> decide
  rw [Plan.decode, first, Option.bind_eq_bind, Option.bind_some, Abi.toNat_wordOfNat small,
    Plan.ofId?_id]

theorem Plan.length_encode (plan : Plan) : plan.encode.length = 64 := by
  rw [Plan.encode, Abi.length_encode]
  rfl

namespace Contract

theorem length_withdrawSelector : withdrawSelector.length = 4 := by
  rw [withdrawSelector, selector, Keccak.hashText, List.length_take, Keccak.length_hash]
  rfl

/-- The parameters of a step of debt reduction. -/
def withdrawParameters : List Abi.Parameter :=
  [.address, .address, .uint256, .bytes, .bytes, .uint256]

namespace WithdrawStep

/-- What the strategy receives of a step: of the plan its two words, and of the permission to enter
the pool a number. -/
def received (step : WithdrawStep) : List Abi.Argument :=
  [.address step.token, .address step.aggregator, .uint256 step.amount, .bytes step.swapData,
   .bytes step.plan.encode, .uint256 (if step.allowPoolEntry then 1 else 0)]

theorem length_encode_lt {step : WithdrawStep} (short : step.swapData.length < 1 <<< 64) :
    (Abi.encode step.arguments).length < 1 <<< 256 := by
  have limit : (1 <<< 64) + 352 < 1 <<< 256 := by decide
  have zeros : (32 - step.swapData.length % 32) % 32 < 32 := Nat.mod_lt _ (by decide)
  simp only [Abi.length_encode, arguments, List.flatMap_cons, List.flatMap_nil, List.length_append,
    List.length_cons, List.length_nil, Abi.tail, Word.length_toBytes, Plan.length_encode,
    Abi.padding, List.length_replicate]
  omega

/-- The rest of the calldata is read as the step. -/
theorem readArguments_calldata {step : WithdrawStep} (short : step.swapData.length < 1 <<< 64) :
    Abi.readArguments (step.calldata.drop 4) 0 withdrawParameters = some step.received := by
  have body : step.calldata.drop 4 = Abi.encode step.arguments := by
    rw [calldata, ← length_withdrawSelector, List.drop_left]
  rw [body]
  exact Abi.readArguments_encode step.received (length_encode_lt short)

/-- What is received says everything about a step. -/
theorem received_injective {step other : WithdrawStep} (same : step.received = other.received) :
    step = other := by
  obtain ⟨token, aggregator, amount, swapData, plan, allow⟩ := step
  obtain ⟨token', aggregator', amount', swapData', plan', allow'⟩ := other
  simp only [received, List.cons.injEq, Abi.Argument.address.injEq, Abi.Argument.uint256.injEq,
    Abi.Argument.bytes.injEq, and_true] at same
  obtain ⟨sameToken, sameAggregator, sameAmount, sameData, samePlan, sameEntry⟩ := same
  have plans : plan = plan' := by
    have read := congrArg Plan.decode samePlan
    rw [Plan.decode_encode, Plan.decode_encode] at read
    exact Option.some.inj read
  have permissions : allow = allow' := by
    cases allow <;> cases allow' <;> simp_all
  rw [sameToken, sameAggregator, sameAmount, sameData, plans, permissions]

/-- The calldata of a step begins with the selector of its function, and the rest of it is read as
the six arguments of the step. It is a whole number of words behind the selector, and no other step
has the same. -/
theorem calldata_received (step : WithdrawStep) (short : step.swapData.length < 1 <<< 64) :
    step.calldata.take 4 = selector (Abi.signature "withdrawByAggStep" withdrawParameters) ∧
      Abi.readArguments (step.calldata.drop 4) 0 withdrawParameters =
        some [.address step.token, .address step.aggregator, .uint256 step.amount,
          .bytes step.swapData, .bytes step.plan.encode,
          .uint256 (if step.allowPoolEntry then 1 else 0)] ∧
      Plan.decode step.plan.encode = some step.plan ∧
      (∃ words, step.calldata.length = 4 + 32 * words) ∧
      ∀ other : WithdrawStep, other.swapData.length < 1 <<< 64 →
        other.calldata = step.calldata → other = step := by
  refine ⟨?_, readArguments_calldata short, Plan.decode_encode _, ?_, ?_⟩
  · rw [calldata, ← length_withdrawSelector, List.take_left]
    rfl
  · have whole := Abi.length_encode_mod step.arguments
    refine ⟨(Abi.encode step.arguments).length / 32, ?_⟩
    rw [calldata, List.length_append, length_withdrawSelector]
    omega
  · intro other short' same
    have read := readArguments_calldata short'
    rw [same, readArguments_calldata short] at read
    exact received_injective (Option.some.inj read).symm

/-- A step that swaps a thousand of its token. -/
def thousand : WithdrawStep where
  token := 0x11
  aggregator := 0x22
  amount := 1000
  swapData := [0xde, 0xad]
  plan := .repaySwapRepay
  allowPoolEntry := true

theorem calldata_received_thousand :
    thousand.swapData.length < 1 <<< 64 ∧
      thousand.calldata.take 4 = selector (Abi.signature "withdrawByAggStep" withdrawParameters) ∧
      Abi.readArguments (thousand.calldata.drop 4) 0 withdrawParameters =
        some [.address 0x11, .address 0x22, .uint256 1000, .bytes [0xde, 0xad],
          .bytes (Plan.encode .repaySwapRepay), .uint256 1] ∧
      Plan.decode (Plan.encode .repaySwapRepay) = some .repaySwapRepay ∧
      (∃ words, thousand.calldata.length = 4 + 32 * words) ∧
      ∀ other : WithdrawStep, other.swapData.length < 1 <<< 64 →
        other.calldata = thousand.calldata → other = thousand :=
  ⟨by decide, calldata_received thousand (by decide)⟩

end WithdrawStep

end Contract

end VaultKeeper
