import VaultKeeper.Contract
import VaultKeeper.Delivery.Basic
import VaultKeeper.Http.Basic
import VaultKeeper.Json.Writer
import VaultKeeper.Program

/-! # Calls to a node

What the keeper asks a node, as methods with parameters, and the surroundings in which it asks: a
node behind HTTP that may stay silent, and a clock to wait on between two attempts.
-/

namespace VaultKeeper

/-- Whose view of an account is meant: mined transactions only, or those that wait as well. -/
inductive BlockTag where
  | latest
  | pending
deriving DecidableEq, Repr

/-- The name of a view. -/
def BlockTag.text : BlockTag → String
  | latest => "latest"
  | pending => "pending"

/-- A transaction with everything that its signature covers. -/
structure SignedTransaction where
  sender : Address
  receiver : Address
  data : Bytes
  value : Word
  nonce : UInt64
  gasLimit : UInt64
  fees : FeeFields
  chainId : UInt64
deriving DecidableEq, Repr

namespace Rpc

/-- A call to a node. -/
inductive Request where
  | chainId
  | blockNumber
  | gasPrice
  | priorityFee
  | latestBlock
  | code (address : Address)
  /-- Evaluate a contract function without a transaction. -/
  | view (query : Contract.Query) (receiver : Address) (data : Bytes)
  | transactionCount (address : Address) (tag : BlockTag)
  | send (transaction : SignedTransaction)
  | receipt (hash : Hash)
deriving DecidableEq, Repr

namespace Request

/-- The method of a call. -/
def method : Request → String
  | chainId => "eth_chainId"
  | blockNumber => "eth_blockNumber"
  | gasPrice => "eth_gasPrice"
  | priorityFee => "eth_maxPriorityFeePerGas"
  | latestBlock => "eth_getBlockByNumber"
  | code _ => "eth_getCode"
  | view .. => "eth_call"
  | transactionCount .. => "eth_getTransactionCount"
  | send _ => "eth_sendRawTransaction"
  | receipt _ => "eth_getTransactionReceipt"

/-- The parameters of a call; a transaction is passed in its signed form, which is made
elsewhere. -/
def params : Request → List Json
  | chainId | blockNumber | gasPrice | priorityFee => []
  | latestBlock => [.ofText "latest", .bool false]
  | code address => [.ofText address.lower, .ofText "latest"]
  | view _ receiver data =>
    [.ofMembers [("to", .ofText receiver.lower), ("input", .ofText (Hex.encode data))],
      .ofText "latest"]
  | transactionCount address tag => [.ofText address.lower, .ofText tag.text]
  | send _ => []
  | receipt hash => [.ofText hash.text]

end Request

/-- The calls of a program that talks to a node. -/
inductive Call where
  /-- A call under a deadline of its own. -/
  | node (request : Request)
  /-- A call under a deadline that further calls share with it. -/
  | opening (request : Request)
  /-- A call in the time that is left to the opening one. -/
  | further (request : Request)
  | sleep (milliseconds : Nat)
  /-- Break off with a message. -/
  | panic (message : String)
deriving DecidableEq, Repr

end Rpc

/-- A node and a clock. The node's answer is `none` if there is none before the deadline, and
nothing comes after a panic. -/
abbrev Node : Interface where
  Call := Rpc.Call
  Answer
    | .node _ | .opening _ | .further _ => Option Http.Response
    | .sleep _ => Unit
    | .panic _ => Empty

namespace Node

/-- Wait. -/
def sleep (milliseconds : Nat) : Program Node Unit :=
  Program.ask (I := Node) (.sleep milliseconds)

/-- One call to the node. -/
def request (request : Rpc.Request) : Program Node (Option Http.Response) :=
  Program.ask (I := Node) (.node request)

/-- The first of some calls to the node that share a deadline. -/
def opening (request : Rpc.Request) : Program Node (Option Http.Response) :=
  Program.ask (I := Node) (.opening request)

/-- A further one of these calls. -/
def further (request : Rpc.Request) : Program Node (Option Http.Response) :=
  Program.ask (I := Node) (.further request)

/-- Break off. -/
def panic {α : Type} (message : String) : Program Node α :=
  .call (.panic message) nofun

section

variable {α : Type} {message : String} {trace : List (Exchange Node)}

@[simp] theorem not_runs_panic {a : α} : ¬Program.Runs (panic message) trace a := by
  rintro ⟨⟩
  contradiction

@[simp] theorem breaks_panic_iff {call : Rpc.Call} :
    Program.Breaks (panic message : Program Node α) trace call ↔
      trace = [] ∧ call = .panic message := by
  constructor
  · intro breaks
    cases breaks with
    | here => exact ⟨rfl, rfl⟩
    | @later _ _ _ answer => exact nomatch answer
  · rintro ⟨rfl, rfl⟩
    exact .here nofun

end

end Node

end VaultKeeper
