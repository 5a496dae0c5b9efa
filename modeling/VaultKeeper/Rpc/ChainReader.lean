import VaultKeeper.Position
import VaultKeeper.Rpc.Race
import VaultKeeper.Rpc.Reply
import VaultKeeper.Rpc.Value

/-! # Reading the chain

Everything that the keeper learns from the chain without sending a transaction. Every call has a
deadline and is repeated while its failure may pass. A position is put together from three calls
made at the same time.
-/

namespace VaultKeeper.Rpc

/-- How the chain is read. -/
structure ChainReader where
  /-- The contract that estimates locked amounts. -/
  strategyReader : Address
  /-- The contract that holds the thresholds of all strategies. -/
  debtConfig : Address
  retry : RetryPolicy
  /-- Milliseconds that one call may take. -/
  timeout : Nat
deriving DecidableEq, Repr

/-- What a strategy says about itself, as far as it is used. -/
structure StrategyState where
  tokenA : Address
  tokenB : Address
  fuseA : Fuse
  fuseB : Fuse
  withdrawDone : Bool
  lastRebalance : UInt64
deriving DecidableEq, Repr

namespace StrategyState

/-- How many numbers have to be there. -/
def numberCount : Nat := 13

/-- The fuse that a number stands for. -/
def fuse (strategy : Address) (number : Word) : Except Failure Fuse :=
  let value := number.toUInt64Saturating
  match Fuse.ofNumber? value.toNat with
  | some fuse => .ok fuse
  | none => .error (.fatal (.told (s!"unknown fuse status {value} for " ++ strategy.text)))

/-- Take the state from the addresses and numbers that a strategy returns. -/
def ofLists (strategy : Address) (addresses : List Address) (numbers : List Word) :
    Except Failure StrategyState :=
  match addresses, numbers with
  | tokenA :: tokenB :: _,
    _ :: fuseA :: fuseB :: withdrawDone :: _ :: _ :: _ :: _ :: _ :: _ :: _ :: _ :: last :: _ => do
    let fuseA ← fuse strategy fuseA
    let fuseB ← fuse strategy fuseB
    pure ⟨tokenA, tokenB, fuseA, fuseB, withdrawDone != 0, last.toUInt64Saturating⟩
  | _, _ =>
    .error (.fatal (.told ("getDefaultState of " ++ strategy.text
      ++ s!" returned {addresses.length} addresses and {numbers.length} nums")))

end StrategyState

/-- A part of a position: what one of three calls returned. -/
inductive PositionPart where
  | needRebalance (needed : Bool)
  | state (state : StrategyState)
  | amounts (locked total : Word)
deriving DecidableEq, Repr

namespace ChainReader

/-- One attempt at a call. -/
def attempt {α : Type} (reader : ChainReader) (operation : String) (request : Request)
    (read : Json → Option α) : Program Node (Except Failure α) :=
  fetch operation reader.timeout request read

/-- A call that is repeated while its failure may pass. -/
def call {α : Type} (reader : ChainReader) (operation : String) (request : Request)
    (read : Json → Option α) : Program Node (Except Failure α) :=
  VaultKeeper.retry Node.sleep (reader.attempt operation request read) reader.retry

/-- The call of a contract function. -/
def viewRequest (query : Contract.Query) (receiver : Address) (arguments : List Abi.Value) :
    Request :=
  .view query receiver (query.calldata arguments)

/-- The values that a contract function returned. -/
def readReturn {α : Type} (query : Contract.Query) (read : List Abi.Value → Option α)
    (result : Json) : Option α := do
  let data ← readBytes result
  let values ← Abi.decode query.returns data
  read values

/-- One attempt at a contract function. -/
def viewAttempt {α : Type} (reader : ChainReader) (query : Contract.Query) (receiver : Address)
    (arguments : List Abi.Value) (read : List Abi.Value → Option α) :
    Program Node (Except Failure α) :=
  reader.attempt query.name (viewRequest query receiver arguments) (readReturn query read)

/-- The value of a contract function. -/
def view {α : Type} (reader : ChainReader) (query : Contract.Query) (receiver : Address)
    (arguments : List Abi.Value) (read : List Abi.Value → Option α) :
    Program Node (Except Failure α) :=
  reader.call query.name (viewRequest query receiver arguments) (readReturn query read)

/-- A single truth value. -/
def asFlag : List Abi.Value → Option Bool
  | [.word word] => some (word != 0)
  | _ => none

/-- A single address. -/
def asAddress : List Abi.Value → Option Address
  | [.word word] => some (Address.ofWord word)
  | _ => none

/-- A single number. -/
def asWord : List Abi.Value → Option Word
  | [.word word] => some word
  | _ => none

/-- The number of the chain. -/
def chainId (reader : ChainReader) : Program Node (Except Failure UInt64) :=
  reader.call "eth_chainId" .chainId readUInt64

/-- The number of the latest block. -/
def blockNumber (reader : ChainReader) : Program Node (Except Failure UInt64) :=
  reader.call "eth_blockNumber" .blockNumber readUInt64

/-- Is there a contract at an address? -/
def hasCode (reader : ChainReader) (address : Address) : Program Node (Except Failure Bool) := do
  let code ← reader.call "eth_getCode" (.code address) readBytes
  pure (code.map fun code => !code.isEmpty)

/-- One attempt at what a strategy says about itself. -/
def stateAttempt (reader : ChainReader) (strategy : Address) :
    Program Node (Except Failure StrategyState) := do
  let lists ← reader.viewAttempt .getDefaultState strategy [] fun
    | .words addresses :: _ :: .words numbers :: _ =>
      some (addresses.map Address.ofWord, numbers)
    | _ => none
  pure (lists >>= fun (addresses, numbers) => StrategyState.ofLists strategy addresses numbers)

/-- One attempt at the amounts behind a position. -/
def amountsAttempt (reader : ChainReader) (strategy : Address) :
    Program Node (Except Failure (Word × Word)) :=
  reader.viewAttempt .getLockedUnderlyingAmount reader.strategyReader [.word strategy.toWord] fun
    | [.word locked, .word total] => some (locked, total)
    | _ => none

/-- The three calls behind a position. -/
def positionCalls (reader : ChainReader) (strategy : Address) :
    List (Program Node (Except Failure PositionPart)) := [
  (Except.map .needRebalance) <$> reader.viewAttempt .needRebalance strategy [] asFlag,
  (Except.map .state) <$> reader.stateAttempt strategy,
  (Except.map fun (locked, total) => .amounts locked total) <$> reader.amountsAttempt strategy]

/-- The position that the parts make up. -/
def assemble : List PositionPart → Except Failure Position
  | [.needRebalance needRebalance, .state state, .amounts locked total] => .ok {
      tokenA := state.tokenA
      tokenB := state.tokenB
      fuseA := state.fuseA
      fuseB := state.fuseB
      needRebalance
      lockedPercent := Position.percentLocked locked total
      withdrawDone := state.withdrawDone
      lastRebalance := state.lastRebalance
      totalAssets := total }
  | _ => .error (.fatal .undecodable)

/-- The position of a strategy. -/
def position (reader : ChainReader) (strategy : Address) :
    Program Node (Except Failure Position) := do
  let parts ← race reader.retry (reader.positionCalls strategy)
  pure (parts >>= assemble)

/-- A percentage in a contract word; more than one hundred counts as one hundred. -/
def percentOf (word : Word) : UInt8 :=
  UInt8.ofNat (min word.toNat 100)

/-- The thresholds of a strategy. -/
def thresholds (reader : ChainReader) (strategy : Address) :
    Program Node (Except Failure Thresholds) :=
  reader.view .strategyConfig reader.debtConfig [.word strategy.toWord] fun
    | [.word delayed, .word forced, .word delay] =>
      some ⟨percentOf delayed, percentOf forced, delay.toUInt64Saturating⟩
    | _ => none

/-- The token and the amount that a step under a plan would swap. -/
def quoteWithdraw (reader : ChainReader) (strategy : Address) (planData : Bytes) :
    Program Node (Except Failure (Address × Word)) :=
  reader.view .quoteWithdrawByAgg strategy [.bytes planData] fun
    | [.word token, .word amount] => some (Address.ofWord token, amount)
    | _ => none

/-- The splitter of a vault; a vault without code or with the zero address has none. -/
def splitterOf (reader : ChainReader) (vault : Address) :
    Program Node (Except Failure (Option Address)) := do
  match ← reader.hasCode vault with
  | .error failure => pure (.error failure)
  | .ok false => pure (.ok none)
  | .ok true =>
    let splitter ← reader.view .splitter vault [] asAddress
    pure (splitter.map fun splitter => if splitter = 0 then none else some splitter)

/-- The strategies of a splitter from a place on, `left` of them. -/
def strategiesFrom (reader : ChainReader) (splitter : Address) :
    (left : Nat) → (place : Nat) → Program Node (Except Failure (List Address))
  | 0, _ => pure (.ok [])
  | left + 1, place => do
    match ← reader.view .strategies splitter [.word (Abi.wordOfNat place)] asAddress with
    | .error failure => pure (.error failure)
    | .ok strategy =>
      let rest ← strategiesFrom reader splitter left (place + 1)
      pure (rest.map (strategy :: ·))

/-- The strategies of a splitter. -/
def strategiesOf (reader : ChainReader) (splitter : Address) :
    Program Node (Except Failure (List Address)) := do
  match ← reader.view .strategiesLength splitter [] asWord with
  | .error failure => pure (.error failure)
  | .ok length => reader.strategiesFrom splitter length.toUInt64Saturating.toNat 0

/-- Has a splitter paused a strategy? -/
def isPaused (reader : ChainReader) (splitter strategy : Address) :
    Program Node (Except Failure Bool) :=
  reader.view .pausedStrategies splitter [.word strategy.toWord] asFlag

end ChainReader

end VaultKeeper.Rpc
