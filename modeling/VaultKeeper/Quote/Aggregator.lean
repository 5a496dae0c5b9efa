import VaultKeeper.Http.Basic
import VaultKeeper.Json.Reader
import VaultKeeper.Quote.Route

/-! # The aggregators

How each aggregator is asked over HTTP and how its answer is read. All three refuse in the same way:
no answer or a status that is no success is a failed request, a body of the wrong shape is a
malformed answer, and what remains is decided by the route that the body states.
-/

namespace VaultKeeper

/-- The aggregators that can be asked. -/
inductive AggregatorKind where
  | oneInch
  | zeroEx
  | openOcean
deriving DecidableEq, Repr

/-- The name of an aggregator. -/
def AggregatorKind.name : AggregatorKind → String
  | oneInch => "1inch"
  | zeroEx => "0x"
  | openOcean => "openocean"

/-- The aggregator with a name. -/
def AggregatorKind.ofName? (name : String) : Option AggregatorKind :=
  [oneInch, zeroEx, openOcean].find? fun kind => kind.name == name

/-- The address at which an aggregator serves a chain. -/
def AggregatorKind.baseUrl (chainId : UInt64) : AggregatorKind → String
  | oneInch => s!"https://api.1inch.dev/swap/v5.2/{chainId}"
  | zeroEx =>
    if chainId = 10 then "https://optimism.api.0x.org"
    else if chainId = 56 then "https://bsc.api.0x.org"
    else if chainId = 137 then "https://polygon.api.0x.org"
    else if chainId = 8453 then "https://base.api.0x.org"
    else if chainId = 42161 then "https://arbitrum.api.0x.org"
    else "https://api.0x.org"
  | openOcean => s!"https://open-api.openocean.finance/v4/{chainId}"

/-- One aggregator as it is set up. -/
structure Aggregator where
  kind : AggregatorKind
  base : String
  apiKey : Option String
  /-- The gas price that is passed on, where the aggregator takes one. -/
  gasPrice : Option Wei
deriving DecidableEq, Repr

namespace Aggregator

/-- The name of the aggregator. -/
def name (aggregator : Aggregator) : String :=
  aggregator.kind.name

/-- The path below the base. -/
def path (aggregator : Aggregator) : String :=
  match aggregator.kind with
  | .oneInch | .openOcean => "/swap"
  | .zeroEx => "/swap/v1/quote"

/-- How the key is passed. -/
def headers (aggregator : Aggregator) : List (String × String) :=
  match aggregator.apiKey with
  | none => []
  | some key =>
    match aggregator.kind with
    | .oneInch => [("authorization", "Bearer " ++ key)]
    | .zeroEx => [("0x-api-key", key)]
    | .openOcean => [("apikey", key)]

/-- A parameter that is left out when it has no value. -/
def optional (key : String) (value : Option String) : List (String × String) :=
  match value with
  | none => []
  | some value => [(key, value)]

/-- The parameters of a request. -/
def query (aggregator : Aggregator) (request : QuoteRequest) : List (String × String) :=
  match aggregator.kind with
  | .oneInch =>
    [("fromTokenAddress", request.tokenIn.text),
     ("toTokenAddress", request.tokenOut.text),
     ("amount", toString request.amountIn.toNat),
     ("fromAddress", request.requester.text),
     ("slippage", request.slippagePercent),
     ("disableEstimate", toString request.settings.disableEstimate),
     ("allowPartialFill", toString request.settings.allowPartialFill)]
    ++ optional "protocols" request.settings.protocols
  | .zeroEx =>
    [("sellToken", request.tokenIn.text),
     ("buyToken", request.tokenOut.text),
     ("sellAmount", toString request.amountIn.toNat),
     ("takerAddress", request.requester.text),
     ("slippagePercentage", request.slippageFraction),
     ("skipValidation", toString request.settings.disableEstimate)]
  | .openOcean =>
    [("inTokenAddress", request.tokenIn.text),
     ("outTokenAddress", request.tokenOut.text),
     ("amountDecimals", toString request.amountIn.toNat),
     ("account", request.requester.text),
     ("slippage", request.slippagePercent)]
    ++ optional "gasPriceDecimals" (aggregator.gasPrice.map fun price => toString price.toNat)
    ++ optional "enabledDexIds" request.settings.protocols

/-- The request that is sent. -/
def httpRequest (aggregator : Aggregator) (request : QuoteRequest) : Http.Request where
  method := .get
  base := aggregator.base
  path := aggregator.path
  headers := aggregator.headers
  query := aggregator.query request
  body := ""

/-- A field that may be absent or null. -/
def lenient {α : Type} (read : Json → Option α) : Option Json → Option (Option α)
  | none | some .null => some none
  | some value => (read value).map some

/-- The transaction of an offer: its target and calldata. -/
def readTransaction (json : Json) : Option (String × String) := do
  match ← Json.fields [["to"], ["data"]] json with
  | [some target, some data] => pure (← target.asText, ← data.asText)
  | _ => none

/-- The offer of a body, for an aggregator that nests the transaction. -/
def readNested (json : Json) : Option Route := do
  match ← Json.fields [["toTokenAmount", "toAmount"], ["tx"]] json with
  | [some amount, some transaction] =>
    let amount ← amount.asText
    let (target, data) ← readTransaction transaction
    pure ⟨target, data, amount⟩
  | _ => none

/-- The offer of a body or part of one, for an aggregator that states everything at one level under
the given name of the amount. -/
def readFlat (amountName : String) (json : Json) : Option Route := do
  match ← Json.fields [["to"], ["data"], [amountName]] json with
  | [some target, some data, some amount] =>
    pure ⟨← target.asText, ← data.asText, ← amount.asText⟩
  | _ => none

/-- An answer with a code of its own beside the offer. -/
structure Coded where
  code : Nat
  route : Option Route
  error : Option String
deriving DecidableEq, Repr

/-- A code: a natural number of 32 bits. -/
def readCode (json : Json) : Option Nat :=
  json.asNatural.filter (· < UInt32.size)

/-- The answer of an aggregator that states a code. -/
def readCoded (json : Json) : Option Coded := do
  match ← Json.fields [["code"], ["data"], ["errorMsg", "error"]] json with
  | [some code, data, error] =>
    pure ⟨← readCode code, ← lenient (readFlat "outAmount") data, ← lenient Json.asText error⟩
  | _ => none

/-- The quote that a coded answer stands for. -/
def Coded.toQuote (coded : Coded) (provider : String) (request : QuoteRequest) :
    Except QuoteFailure Quote :=
  if coded.code ≠ 200 then
    .error (.provider provider (.told (s!"code {coded.code}: " ++ coded.error.getD "")))
  else match coded.route with
    | none => .error (.malformed provider (.told "missing data"))
    | some route => route.toQuote provider request

/-- The quote that a body stands for; `none` if it is not of the aggregator's shape. -/
def readBody (kind : AggregatorKind) (request : QuoteRequest) (json : Json) :
    Option (Except QuoteFailure Quote) :=
  match kind with
  | .oneInch => (readNested json).map fun route => route.toQuote kind.name request
  | .zeroEx => (readFlat "buyAmount" json).map fun route => route.toQuote kind.name request
  | .openOcean => (readCoded json).map fun coded => coded.toQuote kind.name request

/-- The quote that an answer stands for. -/
def readResponse (kind : AggregatorKind) (request : QuoteRequest) :
    Http.Response → Except QuoteFailure Quote
  | .failed => .error (.provider kind.name .unreachable)
  | .answered status body =>
    if Http.isSuccess status then
      match (Json.read body).bind (readBody kind request) with
      | some outcome => outcome
      | none => .error (.malformed kind.name .badShape)
    else .error (.provider kind.name (.told (Http.refusal status body)))

/-- How the aggregator is shown in the log: whether it has a key, but not the key. -/
def describe (aggregator : Aggregator) : String :=
  let shown := "base_url: " ++ Text.quoted aggregator.base
    ++ s!", has_api_key: {aggregator.apiKey.isSome}"
  match aggregator.kind with
  | .oneInch => "OneInchProvider \x7b " ++ shown ++ " \x7d"
  | .zeroEx => "ZeroExProvider \x7b " ++ shown ++ " \x7d"
  | .openOcean =>
    let price := match aggregator.gasPrice with
      | none => "None"
      | some price => s!"Some({price.toNat})"
    "OpenOceanProvider \x7b " ++ shown ++ ", gas_price_wei: " ++ price ++ " \x7d"

end Aggregator

end VaultKeeper
