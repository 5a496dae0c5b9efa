import VaultKeeper.Program
import VaultKeeper.Quote.Basic

/-! # The best of several quotes

Every provider is asked at the same time with the same request. An answer that takes longer than the
limit counts as a timeout. The largest output wins, and of equal outputs the one whose provider
comes first; if there is none, the failure lists one reason for each provider.
-/

namespace VaultKeeper

/-- What a provider answers, and how many milliseconds it takes. -/
structure ProviderReply where
  delay : Nat
  outcome : Except QuoteFailure Quote

namespace Providers

/-- One provider, known by its place and its name, is asked for a quote. -/
structure Call where
  place : Nat
  name : String
  request : QuoteRequest
deriving DecidableEq, Repr

end Providers

/-- The quote providers. -/
abbrev Providers : Interface where
  Call := Providers.Call
  Answer _ := ProviderReply

/-- Several providers in their order of preference. -/
structure QuoteService where
  names : List String
  /-- Milliseconds that each provider has. -/
  timeout : Nat
  settings : QuoteSettings
deriving DecidableEq, Repr

namespace QuoteService

/-- What a provider's reply counts as. -/
def outcomeOf (timeout : Nat) (name : String) (reply : ProviderReply) : Except QuoteFailure Quote :=
  if timeout < reply.delay then .error (.timeout name timeout) else reply.outcome

/-- Ask the providers from a place on. -/
def askFrom (timeout : Nat) (request : QuoteRequest) :
    (place : Nat) → (names : List String) → Program Providers (List (Except QuoteFailure Quote))
  | _, [] => pure []
  | place, name :: rest => do
    let reply : ProviderReply ← Program.ask (I := Providers) ⟨place, name, request⟩
    let others ← askFrom timeout request (place + 1) rest
    pure (outcomeOf timeout name reply :: others)

/-- The better of the best quote so far and the next one: only a larger output displaces it. -/
def better (best : Option Quote) (next : Quote) : Option Quote :=
  match best with
  | none => some next
  | some quote => if quote.amountOut < next.amountOut then some next else some quote

/-- The successful outcomes. -/
def quotes (outcomes : List (Except QuoteFailure Quote)) : List Quote :=
  outcomes.filterMap fun outcome => outcome.toOption

/-- The wording of the failed outcomes. -/
def reasons (outcomes : List (Except QuoteFailure Quote)) : List String :=
  outcomes.filterMap fun
    | .ok _ => none
    | .error failure => some failure.message

/-- The best of the outcomes. -/
def select (outcomes : List (Except QuoteFailure Quote)) : Except QuoteFailure Quote :=
  match (quotes outcomes).foldl better none with
  | some quote => .ok quote
  | none => .error (.allFailed outcomes.length (reasons outcomes))

/-- The request for one swap. -/
def request (service : QuoteService) (tokenIn tokenOut : Address) (amountIn : Word)
    (requester : Address) : QuoteRequest :=
  ⟨tokenIn, tokenOut, amountIn, requester, service.settings⟩

/-- The best quote for one swap. -/
def best (service : QuoteService) (tokenIn tokenOut : Address) (amountIn : Word)
    (requester : Address) : Program Providers (Except QuoteFailure Quote) := do
  let outcomes ← askFrom service.timeout (service.request tokenIn tokenOut amountIn requester) 0
    service.names
  pure (select outcomes)

end QuoteService

end VaultKeeper
