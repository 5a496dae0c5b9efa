import VaultKeeper.Quote.Basic
import VaultKeeper.Text.Amount
import VaultKeeper.Text.Basic

/-! # Routes as aggregators state them

Every aggregator states a route by three texts: the contract to call, the calldata and the amount
that comes out. The first of them that is no value of its kind decides why the route is refused.
-/

namespace VaultKeeper

/-- The three texts of a route. -/
structure Route where
  target : String
  callData : String
  amountOut : String
deriving DecidableEq, Repr

namespace Route

/-- Why a route is refused. -/
inductive Error where
  | target (text : String) (error : Address.Error)
  | callData (error : Hex.Error)
  | emptyCallData
  | amount (text : String) (error : Text.AmountError)
deriving DecidableEq, Repr

/-- A byte as the character with its number. -/
def byteChar (byte : UInt8) : Char :=
  Char.ofNat byte.toNat

/-- The wording of the reason. -/
def Error.message : Error → String
  | target text error => "target " ++ Text.quoted text ++ ": " ++ (match error with
    | .oddLength => "odd number of digits"
    | .wrongLength => "invalid string length"
    | .badDigit byte position =>
      "invalid character " ++ Text.quotedChar (byteChar byte) ++ s!" at position {position}")
  | callData error => "calldata: " ++ (match error with
    | .oddLength => "Odd number of digits"
    | .badDigit byte position =>
      "Invalid character " ++ Text.quotedChar (byteChar byte) ++ s!" at position {position}")
  | emptyCallData => "empty calldata"
  | amount text error => "amount " ++ Text.quoted text ++ ": " ++ error.message

/-- The contract, the calldata and the amount that a route states. -/
structure Reading where
  target : Address
  callData : Bytes
  amountOut : Word
deriving DecidableEq, Repr

/-- Read the calldata: digits after any number of `0x`, and at least two of them. -/
def readCallData (text : String) : Except Error Bytes :=
  match Hex.decode (Hex.dropMarks (Bytes.ofText text)) with
  | .error error => .error (.callData error)
  | .ok [] => .error .emptyCallData
  | .ok bytes => .ok bytes

/-- Read the three texts. -/
def read (route : Route) : Except Error Reading := do
  let target ← (Address.parse route.target).mapError (.target route.target)
  let callData ← readCallData route.callData
  let amount ←
    (Text.readAmount (1 <<< 256) route.amountOut.toList).mapError (.amount route.amountOut)
  pure ⟨target, callData, BitVec.ofNat 256 amount⟩

/-- The quote that a route stands for. -/
def toQuote (route : Route) (provider : String) (request : QuoteRequest) :
    Except QuoteFailure Quote :=
  match route.read with
  | .error error => .error (.malformed provider (.told error.message))
  | .ok reading => .ok {
      provider
      tokenIn := request.tokenIn
      tokenOut := request.tokenOut
      amountIn := request.amountIn
      amountOut := reading.amountOut
      target := reading.target
      callData := reading.callData }

end Route

end VaultKeeper
