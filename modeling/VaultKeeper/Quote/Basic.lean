import VaultKeeper.Checksum
import VaultKeeper.Text.Basic

/-! # Swap quotes

What an aggregator is asked for, what it offers, and why an offer may be missing.
-/

namespace VaultKeeper

/-- What every aggregator is told about swaps. -/
structure QuoteSettings where
  /-- The slippage that is tolerated, in hundredths of a percent. -/
  slippageBps : UInt16
  disableEstimate : Bool
  allowPartialFill : Bool
  /-- The protocols that a route may use, in the aggregator's own notation. -/
  protocols : Option String
deriving DecidableEq, Repr

/-- One percent, no estimate, no partial fill, any protocol. -/
def QuoteSettings.default : QuoteSettings :=
  ⟨100, true, false, none⟩

/-- One swap to be quoted. -/
structure QuoteRequest where
  tokenIn : Address
  tokenOut : Address
  amountIn : Word
  /-- The account that will make the swap. -/
  requester : Address
  settings : QuoteSettings
deriving DecidableEq, Repr

/-- `value / 10 ^ places` without trailing zeros. -/
def decimalText (value places : Nat) : String :=
  let unit := Nat.pow 10 places
  let whole := value / unit
  let fraction := Text.dropTrailing '0' (Text.padDigits places (value % unit))
  if fraction.isEmpty then toString whole else toString whole ++ "." ++ String.ofList fraction

namespace QuoteRequest

/-- The tolerated slippage in percent. -/
def slippagePercent (request : QuoteRequest) : String :=
  decimalText request.settings.slippageBps.toNat 2

/-- The tolerated slippage as a fraction. -/
def slippageFraction (request : QuoteRequest) : String :=
  decimalText request.settings.slippageBps.toNat 4

end QuoteRequest

/-- A route that an aggregator offers. -/
structure Quote where
  provider : String
  tokenIn : Address
  tokenOut : Address
  amountIn : Word
  amountOut : Word
  /-- The contract that the calldata goes to. -/
  target : Address
  callData : Bytes
deriving DecidableEq, Repr

/-- The reason that an aggregator's failure carries. -/
inductive QuoteFault where
  /-- Stated in words. -/
  | told (reason : String)
  /-- No connection, or closed before the answer. -/
  | unreachable
  /-- The answer is not of the expected shape. -/
  | badShape
deriving DecidableEq, Repr

/-- The wording of a fault. -/
def QuoteFault.message : QuoteFault → String
  | told reason => reason
  | unreachable => "connection failed"
  | badShape => "unexpected shape"

/-- Why there is no quote. -/
inductive QuoteFailure where
  | provider (name : String) (fault : QuoteFault)
  | timeout (name : String) (limit : Nat)
  | malformed (name : String) (fault : QuoteFault)
  | allFailed (attempted : Nat) (reasons : List String)
deriving DecidableEq, Repr

/-- The kind of a failure. -/
def QuoteFailure.kind : QuoteFailure → String
  | provider .. => "Provider"
  | timeout .. => "Timeout"
  | malformed .. => "MalformedResponse"
  | allFailed .. => "AllAggregatorsFailed"

/-- The wording of a failure. -/
def QuoteFailure.message : QuoteFailure → String
  | provider name fault => name ++ ": request failed: " ++ fault.message
  | timeout name limit => s!"{name}: timed out after {limit}ms"
  | malformed name fault => name ++ ": malformed response: " ++ fault.message
  | allFailed attempted reasons =>
    s!"all {attempted} aggregators failed: " ++ "; ".intercalate reasons

end VaultKeeper
