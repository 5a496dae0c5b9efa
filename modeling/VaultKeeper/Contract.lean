import VaultKeeper.Keccak
import VaultKeeper.Plan

/-! # Calls on the strategy contracts

Every call the keeper makes on chain, with the bytes it sends. Two of them change state and go out
as transactions: repositioning a strategy's range, and one step of its debt reduction.
-/

namespace VaultKeeper.Contract

/-- The first four bytes of the hash of a signature. -/
def selector (signature : String) : Bytes :=
  (Keccak.hashText signature).take 4

/-- A function that is called to read, with what it returns. -/
inductive Query where
  | needRebalance
  | getDefaultState
  | quoteWithdrawByAgg
  | getLockedUnderlyingAmount
  | strategyConfig
  | splitter
  | strategiesLength
  | strategies
  | pausedStrategies
deriving DecidableEq, Repr

namespace Query

/-- The name of the function. -/
def name : Query → String
  | needRebalance => "needRebalance"
  | getDefaultState => "getDefaultState"
  | quoteWithdrawByAgg => "quoteWithdrawByAgg"
  | getLockedUnderlyingAmount => "getLockedUnderlyingAmount"
  | strategyConfig => "strategyConfig"
  | splitter => "splitter"
  | strategiesLength => "strategiesLength"
  | strategies => "strategies"
  | pausedStrategies => "pausedStrategies"

/-- The types of the arguments as they stand in the signature. -/
def parameters : Query → String
  | needRebalance | getDefaultState | splitter | strategiesLength => "()"
  | quoteWithdrawByAgg => "(bytes)"
  | getLockedUnderlyingAmount | strategyConfig | pausedStrategies => "(address)"
  | strategies => "(uint256)"

/-- The kinds of the values that are returned. -/
def returns : Query → List Abi.Kind
  | needRebalance | pausedStrategies => [.single .bool]
  | getDefaultState => [.array .address, .array .int24, .array .uint256, .array .bool]
  | quoteWithdrawByAgg => [.single .address, .single .uint256]
  | getLockedUnderlyingAmount => [.single .uint256, .single .uint256]
  | strategyConfig => [.single .uint256, .single .uint256, .single .uint256]
  | splitter | strategies => [.single .address]
  | strategiesLength => [.single .uint256]

/-- The selector of the function. -/
def selector (query : Query) : Bytes :=
  Contract.selector (query.name ++ query.parameters)

/-- The bytes of a call. -/
def calldata (query : Query) (arguments : List Abi.Value) : Bytes :=
  query.selector ++ Abi.encode arguments

end Query

/-- The selector of repositioning a range. -/
def rebalanceSelector : Bytes :=
  selector "rebalanceNoSwaps(bool)"

/-- The selector of a step of debt reduction. -/
def withdrawSelector : Bytes :=
  selector "withdrawByAggStep(address,address,uint256,bytes,bytes,uint256)"

/-- The bytes that reposition a range, on condition that it is needed. -/
def rebalanceCalldata : Bytes :=
  rebalanceSelector ++ Abi.encode [.word (Abi.wordOfBool true)]

/-- The arguments of one step of debt reduction. -/
structure WithdrawStep where
  token : Address
  /-- The router that the swap goes through; zero for a step without a swap. -/
  aggregator : Address
  amount : Word
  swapData : Bytes
  plan : Plan
  allowPoolEntry : Bool
deriving DecidableEq, Repr

/-- The values of a step in the order of the signature. -/
def WithdrawStep.arguments (step : WithdrawStep) : List Abi.Value :=
  [.word step.token.toWord, .word step.aggregator.toWord, .word step.amount, .bytes step.swapData,
   .bytes step.plan.encode, .word (Abi.wordOfBool step.allowPoolEntry)]

/-- The bytes of one step of debt reduction. -/
def WithdrawStep.calldata (step : WithdrawStep) : Bytes :=
  withdrawSelector ++ Abi.encode step.arguments

end VaultKeeper.Contract
