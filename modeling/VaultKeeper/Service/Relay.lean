import VaultKeeper.Json.Reader
import VaultKeeper.Service.Host

/-! # The relay

Connections, time and requests to stop are the business of a relay. The keeper writes each question
as one line of JSON and the relay answers with one line. An answer that cannot be read counts as a
closed connection or, after a question about stopping, as a request to stop.
-/

namespace VaultKeeper.Relay

/-- A named list of texts. -/
def ofPairs (pairs : List (String × String)) : Json :=
  .ofMembers (pairs.map fun (name, value) => (name, .ofText value))

/-- A transaction that the relay has to sign. -/
def ofTransaction (transaction : SignedTransaction) : Json :=
  .ofMembers [
    ("from", .ofText transaction.sender.lower),
    ("to", .ofText transaction.receiver.lower),
    ("data", .ofText (Hex.encode transaction.data)),
    ("value", .ofDecimal transaction.value.toNat),
    ("nonce", .ofDecimal transaction.nonce.toNat),
    ("gas", .ofDecimal transaction.gasLimit.toNat),
    ("gasPrice", .ofOption (fun price => .ofDecimal price.toNat) transaction.fees.gasPrice),
    ("maxFeePerGas", .ofOption (fun fee => .ofDecimal fee.toNat) transaction.fees.maxFee),
    ("maxPriorityFeePerGas", .ofOption (fun tip => .ofDecimal tip.toNat) transaction.fees.tip),
    ("chainId", .ofDecimal transaction.chainId.toNat)]

/-- The parameters of a call to a node, a transaction not yet signed among them. -/
def paramsOf : Rpc.Request → List Json
  | .send transaction => [ofTransaction transaction]
  | request => request.params

/-- A call to the node at an address. -/
def askNode (url : String) (limit : Nat) (request : Rpc.Request) : Json :=
  .ofMembers [
    ("ask", .ofText "node"),
    ("url", .ofText url),
    ("limit_ms", .ofNat limit),
    ("method", .ofText request.method),
    ("params", .array (paramsOf request))]

/-- A request to another service. -/
def askHttp (limit : Nat) (request : Http.Request) : Json :=
  .ofMembers [
    ("ask", .ofText "http"),
    ("method", .ofText request.method.text),
    ("url", .ofText (request.base ++ request.path)),
    ("limit_ms", .ofNat limit),
    ("headers", ofPairs request.headers),
    ("query", ofPairs request.query),
    ("body", .ofText request.body)]

/-- Let time pass. -/
def askSleep (milliseconds : Nat) : Json :=
  .ofMembers [("ask", .ofText "sleep"), ("ms", .ofNat milliseconds)]

/-- Let time pass unless there is a request to stop. -/
def askPause (milliseconds : Nat) : Json :=
  .ofMembers [("ask", .ofText "pause"), ("ms", .ofNat milliseconds)]

/-- Is there a request to stop? -/
def askStop : Json :=
  .ofMembers [("ask", .ofText "stop")]

/-- What time is it? -/
def askNow : Json :=
  .ofMembers [("ask", .ofText "now")]

/-- What came back from a connection; null if nothing did in time. -/
def readResponse (answer : Json) : Option Http.Response :=
  if answer.isNull then none
  else some <| ((do
    let status ← (← answer.member? "status").asNatural
    let body ← (← answer.member? "body").asText
    pure (.received status body)) : Option Http.Response).getD .failed

/-- The time in milliseconds. -/
def readTime (answer : Json) : Nat :=
  answer.asNatural.getD 0

/-- Did the time pass without a request to stop? -/
def readPause (answer : Json) : Bool :=
  answer.asBool.getD false

/-- Is there a request to stop? -/
def readStop (answer : Json) : Bool :=
  answer.asBool.getD true

/-- A line of the relay; the end of its lines closes every connection. -/
def readLine (line : String) : Json :=
  (Json.read line).getD (.bool false)

end VaultKeeper.Relay
