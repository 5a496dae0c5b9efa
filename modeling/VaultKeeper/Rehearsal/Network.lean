import VaultKeeper.Fee.Source
import VaultKeeper.Http.Url
import VaultKeeper.Rehearsal.Script

/-! # A network for a rehearsal

A node and other services behind HTTP, each answering from a script. What reaches them is written
down; while the network is down nothing does, and every request fails at once.
-/

namespace VaultKeeper

/-- The name under which a call is scripted and written down. -/
def Rpc.Request.key : Rpc.Request → String
  | .view query _ _ => query.name
  | request => request.method

/-- A fee field in a line. -/
def FeeFields.fieldText (field : Option Wei) : String :=
  match field with
  | none => "-"
  | some amount => toString amount.toNat

/-- A signed transaction in a line: of type 0 if it has one price, or else of type 2. -/
def SignedTransaction.text (transaction : SignedTransaction) : String :=
  let fees := transaction.fees
  let kind := if fees.gasPrice.isSome then "0" else "2"
  "type=" ++ kind ++ " from=" ++ transaction.sender.lower ++ " to=" ++ transaction.receiver.lower
    ++ s!" nonce={transaction.nonce} value={transaction.value.toNat} data="
    ++ Hex.encode transaction.data ++ s!" gas_limit={transaction.gasLimit} gas_price="
    ++ FeeFields.fieldText fees.gasPrice
    ++ " max_fee=" ++ FeeFields.fieldText (fees.maxFee.or fees.gasPrice)
    ++ " tip=" ++ FeeFields.fieldText fees.tip ++ s!" chain_id={transaction.chainId}"

/-- A call to a node in a line. -/
def Rpc.Request.text (request : Rpc.Request) : String :=
  match request with
  | .view _ receiver data =>
    request.key ++ " to=" ++ receiver.lower ++ " data=" ++ Hex.encode data ++ " at=latest"
  | .transactionCount address tag => request.key ++ " " ++ address.lower ++ " " ++ tag.text
  | .send transaction => request.key ++ " " ++ transaction.text
  | _ => if request.params.isEmpty then request.key
    else request.key ++ " " ++ Json.write (.array request.params)

/-- A request to another service in a line. -/
def Http.Request.text (request : Http.Request) (path : String) : String :=
  " ".intercalate ([request.method.text, path]
    ++ request.query.map (fun (key, value) => key ++ "=" ++ value)
    ++ request.headers.map fun (key, value) => key ++ ": " ++ value)

namespace Rehearsal

/-- The network as it stands. -/
structure Network where
  isUp : Bool
  /-- Under each key the answers of the node in turn; `none` is silence. -/
  replies : List (String × List (Option Http.Response))
  /-- Services by the first segment of their paths. -/
  services : List (String × Http.Response)
  /-- What arrived, newest first. -/
  calls : List String
  /-- The waits of the callers in milliseconds, newest first. -/
  sleeps : List Nat

namespace Network

/-- The key of a call in the script; counts of transactions have one for each view. -/
def scriptKey : Rpc.Request → String
  | .transactionCount address tag =>
    (Rpc.Request.transactionCount address tag).key ++ ":" ++ tag.text
  | request => request.key

/-- The answer of a node that has no script for a call. -/
def unscripted (key : String) : Http.Response :=
  .answered 200 (Json.write (.ofMembers [("error", .ofMembers [("code", .number "-32601"),
    ("message", .ofText ("no script for " ++ key))])]))

/-- Write down what arrived. -/
def record (call : String) : StateM Network Unit :=
  modify fun network => { network with calls := call :: network.calls }

/-- Let the node answer. -/
def answer (request : Rpc.Request) : StateM Network (Option Http.Response) := do
  let network ← get
  if network.isUp then
    let key := scriptKey request
    let (reply, rest) := next ((network.replies.lookup key).getD [])
    record request.text
    modify fun network =>
      { network with replies := network.replies.map fun entry =>
          if entry.1 == key then (key, rest) else entry }
    pure (reply.getD (some (unscripted key)))
  else pure (some .failed)

/-- Answer a call of a program that talks to a node. A panic ends the rehearsal with its message. -/
def onNode : (call : Rpc.Call) → ExceptT String (StateM Network) (Interface.Answer Node call)
  | .node request | .opening request | .further request => answer request
  | .sleep milliseconds =>
    modify fun network => { network with sleeps := milliseconds :: network.sleeps }
  | .panic message => throw message

/-- Can the network reach an address? No names are known to it, and nothing but plain HTTP. -/
def isReachable (url : Http.Url) : Bool :=
  url.scheme == "http" && (url.host.startsWith "["
    || Http.Url.isAddress url.host.toList && Http.Url.endsInNumber url.host.toList)

/-- The first segment of a path. -/
def firstSegment (path : String) : String :=
  String.ofList ((path.toList.drop 1).takeWhile (· ≠ '/'))

/-- Let a service answer. -/
def onHttp (request : Http.Request) : StateM Network Http.Response := do
  let network ← get
  match Http.Url.parse (request.base ++ request.path) with
  | none => pure .failed
  | some url =>
    if network.isUp && isReachable url then
      record (request.text url.path)
      pure ((network.services.lookup (firstSegment url.path)).getD .failed)
    else pure .failed

end Network

end Rehearsal

end VaultKeeper
