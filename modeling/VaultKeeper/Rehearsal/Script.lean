import VaultKeeper.Quote.Selection
import VaultKeeper.Vault
import VaultKeeper.Keeper.Action

/-! # Scripts for a rehearsal

What the surroundings of the keeper are to answer when it is rehearsed without a chain: an account
with a rule book for what gets mined, tables of what contracts say, and providers with fixed offers.
-/

namespace VaultKeeper.Rehearsal

/-- The next answer of a script, and what remains of it: the last answer is given for ever. -/
def next {α : Type} : List α → Option α × List α
  | [] => (none, [])
  | [last] => (some last, [last])
  | answer :: rest => (some answer, rest)

/-- When a broadcast transaction gets a receipt, and which one. -/
structure MiningRule where
  /-- The place of the broadcast that is meant, counted from 0; any without it. -/
  index : Option Nat
  /-- The receiver that is meant; any without it. -/
  receiver : Option Address
  /-- Queries in vain before the receipt shows. -/
  after : Nat
  block : Option UInt64
  gasUsed : UInt64
  success : Bool
  logs : List Log
deriving DecidableEq, Repr

/-- The receipt of a transaction that was asked for `queries` times. -/
def MiningRule.receipt (rule : MiningRule) (hash : Hash) (queries : Nat) : Option Receipt :=
  if rule.after < queries then some ⟨hash, rule.block, rule.gasUsed, rule.success, rule.logs⟩
  else none

/-- An account and its node. -/
structure Account where
  nonce : UInt64
  offers : List (Except Failure Fee)
  prices : List (Except Failure Wei)
  counts : List (Except Failure NonceCounts)
  nonces : List (Except Failure UInt64)
  /-- For each broadcast in turn, why it is refused; those beyond the end are accepted. -/
  refusals : List (Option Failure)
  /-- The places of the receipt queries that fail. -/
  failingQueries : List Nat
  mining : List MiningRule
  /-- Accepted broadcasts with their receivers, oldest first. -/
  accepted : List (Hash × Address)
  /-- The hashes whose receipts were asked for, newest first. -/
  queried : List Hash

namespace Account

/-- The place of a hash among the accepted broadcasts. -/
def placeOf? (account : Account) (hash : Hash) : Option Nat :=
  account.accepted.findIdx? fun entry => entry.1 == hash

/-- The receipt for a hash by the first rule that applies, this query counted. -/
def receipt (account : Account) (hash : Hash) : Option Receipt := do
  let place ← account.placeOf? hash
  let (_, receiver) ← account.accepted[place]?
  let rule ← account.mining.find? fun rule =>
    rule.index.all (· == place) && rule.receiver.all (· == receiver)
  rule.receipt hash (account.queried.count hash)

end Account

/-- Answers by address, with one for all others under `none`. -/
abbrev Table (α : Type) := List (Option Address × α)

/-- The answer for an address. -/
def Table.find? {α : Type} (table : Table α) (address : Address) : Option α :=
  (table.lookup (some address)).orElse fun _ => table.lookup none

/-- What contracts say. -/
structure Tables where
  /-- With each position goes a request to stop that is made when it is read. -/
  positions : Table (Bool × Except Failure Position)
  thresholds : Table (Except Failure Thresholds)
  withdrawals : Table (Except Failure (Address × Word))
  splitters : Table (Except Failure (Option Address))
  strategies : Table (Except Failure (List Address))
  paused : Table (Except Failure Bool)

/-- A provider of quotes: how long it takes, and the output, target and calldata of its offer. -/
structure Provider where
  delay : Nat
  offer : Except QuoteFailure (Word × Address × Bytes)

/-- What a provider replies to a request under its name. -/
def Provider.reply (provider : Provider) (name : String) (request : QuoteRequest) :
    ProviderReply where
  delay := provider.delay
  outcome := provider.offer.map fun (amountOut, target, callData) =>
    ⟨name, request.tokenIn, request.tokenOut, request.amountIn, amountOut, target, callData⟩

end VaultKeeper.Rehearsal
