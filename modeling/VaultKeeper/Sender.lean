import VaultKeeper.Account
import VaultKeeper.Fee.Source
import VaultKeeper.Http.Url
import VaultKeeper.Secp256k1

/-! # The sending account

A sender signs and broadcasts for one account. It counts nonces by itself, keeps the last fee offer,
and gives every call to the node a deadline.
-/

namespace VaultKeeper

/-- One account on one chain, and what is known about it so far. -/
structure Sender where
  account : Address
  chainId : UInt64
  /-- For transactions without a limit of their own. -/
  gasLimit : UInt64
  /-- Milliseconds that one call may take. -/
  timeout : Nat
  source : FeeSource
  /-- The last fetched offer. -/
  cached : Option Fee
  nonces : NonceCounter

/-- How a sender is set up. -/
structure SenderSettings where
  url : String
  chainId : UInt64
  pricing : Option Pricing
  gasLimit : Option UInt64
  timeout : Nat

namespace Sender

/-- Enough for a step of debt reduction over a long route. -/
def defaultGasLimit : UInt64 := 5000000

/-- Fifteen seconds. -/
def defaultTimeout : Nat := 15000

/-- The number of an account's transactions. -/
def transactionCount (timeout : Nat) (account : Address) (tag : BlockTag) :
    Program Node (Except Failure UInt64) :=
  Rpc.fetch "eth_getTransactionCount" timeout (.transactionCount account tag) Rpc.readUInt64

/-- The account of a key in text. -/
def accountOf (key : String) : Except Failure Address :=
  match Secp256k1.parseKey key with
  | some key => .ok (Secp256k1.accountOf key)
  | none => .error (.signer "malformed private key")

/-- Is the URL one that can be reached? -/
def checkUrl (url : String) : Except Failure Unit :=
  match Http.Url.parse url with
  | some _ => .ok ()
  | none => .error (.badConfig "bad RPC url")

/-- A sender for an account: read its nonce, and fetch a first offer if there is one to be had. -/
def openAccount (settings : SenderSettings) (account : Address) :
    Program Node (Except Failure Sender) := do
  match ← transactionCount settings.timeout account .pending with
  | .error failure => pure (.error failure)
  | .ok nonce =>
    let source := FeeSource.start (settings.pricing.getD Pricing.fallback)
    let (fetched, source) ← source.fetch settings.timeout
    pure (.ok {
      account
      chainId := settings.chainId
      gasLimit := settings.gasLimit.getD defaultGasLimit
      timeout := settings.timeout
      source
      cached := fetched.toOption
      nonces := NonceCounter.start nonce })

/-- A sender for a key: a malformed key is reported before a malformed URL. -/
def build (settings : SenderSettings) (key : String) : Program Node (Except Failure Sender) :=
  match accountOf key, checkUrl settings.url with
  | .error failure, _ => pure (.error failure)
  | .ok _, .error failure => pure (.error failure)
  | .ok account, .ok () => openAccount settings account

/-- Take the next nonce. -/
def reserveNonce (sender : Sender) : UInt64 × Sender :=
  let (nonce, nonces) := sender.nonces.reserve
  (nonce, { sender with nonces })

/-- The fee for a first broadcast: a fresh offer, or else the last one. -/
def offeredFee (sender : Sender) : Program Node (Except Failure Fee × Sender) := do
  let (fetched, source) ← sender.source.fetch sender.timeout
  let (offer, cached) := FeeSource.orCached sender.cached fetched
  pure (offer, { sender with source, cached })

/-- The price that the network asks for. -/
def networkPrice (sender : Sender) : Program Node (Except Failure Wei) :=
  Rpc.fetch "eth_gasPrice" sender.timeout .gasPrice Rpc.readWei

/-- A transaction with all that is signed. -/
def sign (sender : Sender) (transaction : Transaction) : SignedTransaction where
  sender := sender.account
  receiver := transaction.receiver
  data := transaction.data
  value := transaction.value
  nonce := transaction.nonce
  gasLimit := transaction.gasLimit.getD sender.gasLimit
  fees := sender.source.pricing.apply transaction.fee ⟨none, none, none⟩
  chainId := sender.chainId

/-- Sign and broadcast; the hash is the one that the node answers. -/
def broadcast (sender : Sender) (transaction : Transaction) : Program Node (Except Failure Hash) :=
  Rpc.fetch "eth_sendRawTransaction" sender.timeout (.send (sender.sign transaction)) Rpc.readHash

/-- The receipt of a transaction, if it is mined. -/
def receipt (sender : Sender) (hash : Hash) : Program Node (Except Failure (Option Receipt)) :=
  Rpc.fetch "eth_getTransactionReceipt" sender.timeout (.receipt hash) Rpc.readReceipt

/-- Of two calls made at the same time, the failure that shows first: one that waited for its
deadline comes last. -/
def joinCounts (confirmed pending : Except Failure UInt64) : Except Failure NonceCounts :=
  match confirmed, pending with
  | .ok confirmed, .ok pending => .ok ⟨confirmed, pending⟩
  | .ok _, .error failure => .error failure
  | .error failure, .ok _ => .error failure
  | .error first, .error second =>
    if FeeSource.isTimeout confirmed then .error second else .error first

/-- Both counts of the account, asked for at the same time. -/
def nonceCounts (sender : Sender) : Program Node (Except Failure NonceCounts) := do
  let confirmed ← transactionCount sender.timeout sender.account .latest
  let pending ← transactionCount sender.timeout sender.account .pending
  pure (joinCounts confirmed pending)

/-- Set the next nonce from the chain. -/
def syncNonce (sender : Sender) : Program Node (Except Failure UInt64 × Sender) := do
  match ← transactionCount sender.timeout sender.account .pending with
  | .error failure => pure (.error failure, sender)
  | .ok nonce => pure (.ok nonce, { sender with nonces := sender.nonces.reset nonce })

end Sender

end VaultKeeper
