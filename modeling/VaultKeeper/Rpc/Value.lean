import VaultKeeper.Delivery.Basic
import VaultKeeper.Json.Basic
import VaultKeeper.Text.Amount

/-! # Values in replies

Quantities are plain JSON integers or amounts as text, byte strings are digits or lists of numbers.
A block and a receipt have to show every field that they always have, whether it is used or not.
-/

namespace VaultKeeper.Rpc

/-- A quantity below `bound`. A plain integer has 64 bits at most. -/
def readQuantity (bound : Nat) : Json → Option Nat
  | .string text => do (Text.readAmount bound (← text).toList).toOption
  | json => json.asNatural.filter fun n => n < min bound UInt64.size

/-- A quantity of 64 bits. -/
def readUInt64 (json : Json) : Option UInt64 :=
  (readQuantity UInt64.size json).map UInt64.ofNat

/-- A quantity of 128 bits. -/
def readWei (json : Json) : Option Wei :=
  (readQuantity (1 <<< 128) json).map (BitVec.ofNat 128)

/-- A byte string: digits after at most one `0x`, or a list of numbers. -/
def readBytes : Json → Option Bytes
  | .string text => do (Hex.decodeMarked (← text)).toOption
  | .array items => items.mapM fun item =>
    (item.asNatural.filter fun n => n < 256).map UInt8.ofNat
  | _ => none

/-- A byte string of a given length. -/
def readFixed (size : Nat) (json : Json) : Option Bytes :=
  (readBytes json).filter fun bytes => bytes.length = size

/-- A hash. -/
def readHash (json : Json) : Option Hash :=
  (readFixed 32 json).map Word.ofBytes

/-- An address. -/
def readAddress (json : Json) : Option Address :=
  (readFixed 20 json).map Address.ofBytes

/-- A field that has to be there. -/
def required {α : Type} (json : Json) (key : String) (read : Json → Option α) : Option α := do
  read (← json.member? key)

/-- A field that may be absent or null. -/
def optional {α : Type} (json : Json) (key : String) (read : Json → Option α) : Option (Option α) :=
  match json.member? key with
  | none | some .null => some none
  | some value => (read value).map some

/-- A list of values. -/
def readList {α : Type} (read : Json → Option α) (json : Json) : Option (List α) := do
  (← json.asArray).mapM read

/-- The base fee of a block, if it has one. -/
def readBaseFee (block : Json) : Option (Option UInt64) := do
  for key in ["hash", "parentHash", "sha3Uncles", "stateRoot", "transactionsRoot", "receiptsRoot",
      "mixHash"] do
    let _ ← required block key readHash
  let _ ← required block "miner" readAddress
  let _ ← required block "logsBloom" (readFixed 256)
  let _ ← required block "difficulty" (readQuantity (1 <<< 256))
  for key in ["number", "gasLimit", "gasUsed", "timestamp"] do
    let _ ← required block key readUInt64
  let _ ← required block "extraData" readBytes
  let _ ← required block "nonce" (readFixed 8)
  optional block "baseFeePerGas" readUInt64

/-- A block, or nothing where the node knows none: its base fee. -/
def readLatestBlock : Json → Option (Option (Option UInt64))
  | .null => some none
  | block => (readBaseFee block).map some

/-- A log. -/
def readLog (json : Json) : Option Log := do
  let address ← required json "address" readAddress
  let topics ← required json "topics" (readList readHash)
  let data ← required json "data" readBytes
  for key in ["blockHash", "transactionHash"] do
    let _ ← optional json key readHash
  for key in ["blockNumber", "transactionIndex", "logIndex"] do
    let _ ← optional json key readUInt64
  if topics.length ≤ 4 then some ⟨address, topics, data⟩ else none

/-- One of the five types of transactions. -/
def readType (json : Json) : Option Nat := do
  let text ← json.asText
  (List.range 5).find? fun n => text == s!"0x{n}" || text == s!"0x0{n}"

/-- The receipt of a mined transaction. -/
def readMined (json : Json) : Option Receipt := do
  let hash ← required json "transactionHash" readHash
  let block ← optional json "blockNumber" readUInt64
  let gasUsed ← required json "gasUsed" readUInt64
  let _ ← required json "type" readType
  let status ← required json "status" (readQuantity 2)
  let logs ← required json "logs" (readList readLog)
  let _ ← required json "cumulativeGasUsed" readWei
  let _ ← required json "effectiveGasPrice" readWei
  let _ ← required json "logsBloom" (readFixed 256)
  let _ ← required json "from" readAddress
  let _ ← optional json "to" readAddress
  let _ ← optional json "contractAddress" readAddress
  let _ ← optional json "blockHash" readHash
  let _ ← optional json "transactionIndex" readUInt64
  pure ⟨hash, block, gasUsed, status == 1, logs⟩

/-- A receipt, or nothing while there is none. -/
def readReceipt : Json → Option (Option Receipt)
  | .null => some none
  | json => (readMined json).map some

end VaultKeeper.Rpc
