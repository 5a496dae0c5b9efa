import VaultKeeper.Checksum

/-! # Failures on the chain side

Why a read or a delivery did not succeed. A failure is transient if the same call may succeed when
it is repeated.
-/

namespace VaultKeeper

/-- What went wrong with a call to a node. -/
inductive Cause where
  /-- Stated in words. -/
  | told (message : String)
  /-- No connection, or closed before the answer. -/
  | unreachable
  /-- An answer with a status that is no success. -/
  | status (code : Nat) (body : String)
  /-- The node refused the call. -/
  | refused (code : Int) (message : String) (data : Option String)
  /-- The answer is not of the expected shape. -/
  | undecodable
deriving DecidableEq, Repr

/-- The wording of a cause. -/
def Cause.message : Cause → String
  | told message => message
  | unreachable => "connection failed"
  | status code body => s!"HTTP error {code} with body: {body}"
  | refused code message data =>
    let note := match data with
      | none => ""
      | some data => ", data: " ++ data
    s!"server returned an error response: error code {code}: {message}" ++ note
  | undecodable => "unexpected response"

/-- Why a read or a delivery did not succeed. -/
inductive Failure where
  | transient (cause : Cause)
  | fatal (cause : Cause)
  /-- No answer before the deadline. -/
  | timeout (operation : String) (elapsed : Nat)
  /-- A mined transaction that failed. -/
  | reverted (hash : Hash) (block : Option UInt64)
  /-- A payload that was given up, and whether its nonce was cleared. -/
  | abandoned (nonce : UInt64) (reason : String) (cleared : Bool)
  | signer (detail : String)
  | badConfig (detail : String)
deriving DecidableEq, Repr

namespace Failure

/-- The kind of a failure. -/
def kind : Failure → String
  | transient _ => "RpcTransient"
  | fatal _ => "RpcFatal"
  | timeout .. => "Timeout"
  | reverted .. => "TransactionRevert"
  | abandoned .. => "EscalationFailure"
  | signer _ => "Signer"
  | badConfig _ => "InvalidConfig"

/-- The wording of a failure. -/
def message : Failure → String
  | transient cause => "transient RPC failure: " ++ cause.message
  | fatal cause => "RPC failure: " ++ cause.message
  | timeout operation elapsed => s!"{operation} timed out after {elapsed}ms"
  | reverted hash block =>
    let place := match block with
      | none => "None"
      | some number => s!"Some({number})"
    "transaction " ++ hash.text ++ " reverted (block " ++ place ++ ")"
  | abandoned nonce reason cleared =>
    s!"escalation failed for nonce {nonce}: {reason} (nonce cleared: {cleared})"
  | signer detail => "signer error: " ++ detail
  | badConfig detail => "invalid configuration: " ++ detail

/-- May the same call succeed when it is repeated? -/
def isTransient : Failure → Bool
  | transient _ | timeout _ _ => true
  | _ => false

end Failure

end VaultKeeper
