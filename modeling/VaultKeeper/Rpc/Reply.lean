import VaultKeeper.Failure
import VaultKeeper.Json.Reader
import VaultKeeper.Rpc.Basic

/-! # Replies of a node

What an answer over HTTP means: a result, or one of the ways in which a call can fail. A lost
connection and a status that is no success may pass; a refusal and an answer that cannot be read do
not.
-/

namespace VaultKeeper.Rpc

/-- An integer in JSON with an optional minus. -/
def asInteger : Json → Option Int
  | .number literal =>
    match literal.toList with
    | '-' :: digits =>
      if digits.all Char.isDigit then (String.ofList digits).toNat?.map fun n => -(n : Int)
      else none
    | digits => if digits.all Char.isDigit then literal.toNat?.map Int.ofNat else none
  | _ => none

/-- The parts of an object by name; none may occur twice. -/
def parts (names : List String) : Json → Option (List (Option Json))
  | .object members => (Json.object members).fields (names.map fun name => [name])
  | _ => none

/-- Does the value name a call? -/
def isId (id : Json) : Bool :=
  id.isNull || id.asText.isSome || id.asNatural.any (· < UInt64.size)

/-- The refusal that an error object states. -/
def readRefusal (error : Json) : Option Cause := do
  match ← parts ["code", "message", "data"] error with
  | [some code, message, data] =>
    let code ← asInteger code
    let message ← match message with
      | none => some ""
      | some message => message.asText
    pure (.refused code message ((data.filter fun data => !data.isNull).map Json.write))
  | _ => none

/-- The result that a body states, or the cause of failure. -/
def readBody (body : String) : Except Cause Json :=
  match (Json.read body).bind (parts ["result", "error", "id"]) with
  | some [some result, none, id] => if id.all isId then .ok result else .error .undecodable
  | some [none, some error, id] =>
    if id.all isId then .error ((readRefusal error).getD .undecodable) else .error .undecodable
  | _ => .error .undecodable

/-- The result that an answer carries, or why there is none. -/
def outcome (operation : String) (limit : Nat) : Option Http.Response → Except Failure Json
  | none => .error (.timeout operation limit)
  | some .failed => .error (.transient .unreachable)
  | some (.answered code body) =>
    if Http.isSuccess code then (readBody body).mapError Failure.fatal
    else .error (.transient (.status code body))

/-- A value of the expected shape, or the failure of an answer that has another one. -/
def expect {α : Type} (value : Option α) : Except Failure α :=
  match value with
  | some value => .ok value
  | none => .error (.fatal .undecodable)

/-- What the answer to a call under a deadline comes to. -/
def reading {α : Type} (operation : String) (limit : Nat) (read : Json → Option α)
    (answer : Option Http.Response) : Except Failure α :=
  outcome operation limit answer >>= fun result => expect (read result)

/-- Call a node once under a deadline of its own and read the result. -/
def fetch {α : Type} (operation : String) (limit : Nat) (request : Request)
    (read : Json → Option α) : Program Node (Except Failure α) := do
  pure (reading operation limit read (← Node.request request))

end VaultKeeper.Rpc
