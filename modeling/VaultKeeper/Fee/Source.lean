import VaultKeeper.Fee
import VaultKeeper.Rpc.Reply
import VaultKeeper.Rpc.Value

/-! # Where fees come from

A fee source asks a node what to offer for the first broadcast of a transaction. Fetched offers are
capped, while replacements are not. The last price or base fee is remembered in 64 bits for a node
that does not state one; the last offer as a whole is kept in a cache for a node that does not
answer. A node that asks for a tip which takes the maximum fee out of its 128 bits ends the program.
-/

namespace VaultKeeper

/-- How offers are put together. -/
inductive Pricing where
  /-- One price; `default` stands in while no price is known. -/
  | legacy (default cap : Wei)
  /-- A multiple of the base fee and a tip of at least `tip`. -/
  | dynamic (tip : Wei) (multiplier : Float) (cap : Wei)

namespace Pricing

/-- The name of the model. -/
def name : Pricing → String
  | legacy .. => "Legacy"
  | dynamic .. => "EIP-1559"

/-- The cap of a dynamic source that was given none. -/
def defaultCap : Wei := 500000000000

/-- The sender's pricing when none is configured: 30 gwei, at most 500. -/
def fallback : Pricing :=
  legacy 30000000000 defaultCap

/-- The pricing with a configured model; prices are in gwei. Every model but the dynamic one is
legacy. -/
def ofModel (model : String) (default max : Float) (priority : Option Float) : Pricing :=
  let lower := String.ofList (model.toList.map Char.toLower)
  if lower = "eip1559" ∨ lower = "eip-1559" then
    dynamic (Wei.ofGwei (priority.getD 30)) 2 (Wei.ofGwei max)
  else legacy (Wei.ofGwei default) (Wei.ofGwei max)

/-- What is remembered before the first fetch. -/
def initialMemory : Pricing → UInt64
  | legacy default _ => UInt64.ofNat default.toNat
  | dynamic .. => 30000000000

/-- The message of a sum that does not fit. -/
def overflow : String := "attempt to add with overflow"

/-- The maximum fee for a base fee and a tip; their sum is taken before the cap and has to fit into
128 bits. -/
def maxFee? (multiplier : Float) (cap baseFee tip : Wei) : Option Wei :=
  let scaled := Wei.ofFloat (baseFee.toFloat * multiplier)
  if BitVec.uaddOverflow scaled tip then none else some ((scaled + tip).min cap)

/-- Set the fee fields of a transaction; fields of the other model are left alone. -/
def apply (pricing : Pricing) (fee : Fee) (fields : FeeFields) : FeeFields :=
  match pricing, fee with
  | legacy .., fee => { fields with gasPrice := some fee.effective }
  | dynamic .., .dynamic maxFee tip _ => { fields with maxFee := some maxFee, tip := some tip }
  | dynamic defaultTip _ _, .legacy price =>
    { fields with maxFee := some price, tip := some (defaultTip.min price) }

end Pricing

/-- A pricing with what it remembers. -/
structure FeeSource where
  pricing : Pricing
  memory : UInt64

namespace FeeSource

/-- A source before its first fetch. -/
def start (pricing : Pricing) : FeeSource :=
  ⟨pricing, pricing.initialMemory⟩

/-- The remembered price or base fee. -/
def remembered (source : FeeSource) : Wei :=
  BitVec.ofNat 128 source.memory.toNat

/-- Remember the low 64 bits of an amount. -/
def remember (source : FeeSource) (amount : Wei) : FeeSource :=
  { source with memory := UInt64.ofNat amount.toNat }

/-- Remember a price, capped as it would be offered. -/
def rememberPrice (source : FeeSource) (price : Wei) : FeeSource :=
  match source.pricing with
  | .legacy _ cap => source.remember (price.min cap)
  | .dynamic .. => source.remember price

/-- The deadline of a fetch counts under this name. -/
def operation : String := "eth_gasPrice"

/-- A legacy offer from what the node answered about its price: without a price, the larger of the
remembered and the default one is offered. -/
def offerPrice (source : FeeSource) (default cap : Wei) (answer : Except Failure Wei) :
    Fee × FeeSource :=
  let price := match answer with
    | .ok price => price
    | .error _ => source.remembered.max default
  let offered := price.min cap
  (.legacy offered, source.remember offered)

/-- The tip of an offer: what the node answered about tips, and at least the default one. -/
def wantedTip (default : Wei) : Except Failure Wei → Wei
  | .ok tip => tip.max default
  | .error _ => default

/-- A dynamic offer from a base fee and what the node answered about tips. -/
def offerDynamic? (defaultTip : Wei) (multiplier : Float) (cap baseFee : Wei)
    (answer : Except Failure Wei) : Option Fee :=
  let tip := wantedTip defaultTip answer
  (Pricing.maxFee? multiplier cap baseFee tip).map fun maxFee =>
    .dynamic maxFee (tip.min maxFee) baseFee

/-- The base fee that the latest block states, if it states one; there has to be a block. -/
def sighted (limit : Nat) (answer : Option Http.Response) : Except Failure (Option UInt64) :=
  match Rpc.reading operation limit Rpc.readLatestBlock answer with
  | .ok (some stated) => .ok stated
  | .ok none => .error (.fatal (.told "latest block not returned"))
  | .error failure => .error failure

/-- The base fee to go by: the one that a block states, or else the remembered one. -/
def baseFee (source : FeeSource) : Option UInt64 → Wei
  | some stated => BitVec.ofNat 128 stated.toNat
  | none => source.remembered

/-- Did the deadline pass? -/
def isTimeout {α : Type} : Except Failure α → Bool
  | .error (.timeout ..) => true
  | _ => false

/-- Fetch a legacy offer. -/
def fetchLegacy (source : FeeSource) (limit : Nat) (default cap : Wei) :
    Program Node (Except Failure Fee × FeeSource) := do
  let answer ← Rpc.fetch operation limit .gasPrice Rpc.readWei
  if isTimeout answer then pure (.error (.timeout operation limit), source)
  else
    let (fee, source) := source.offerPrice default cap answer
    pure (.ok fee, source)

/-- End the fetch of a dynamic offer with what the node answered about tips. -/
def concludeDynamic (source : FeeSource) (limit : Nat) (defaultTip : Wei) (multiplier : Float)
    (cap baseFee : Wei) (answer : Except Failure Wei) :
    Program Node (Except Failure Fee × FeeSource) :=
  if isTimeout answer then pure (.error (.timeout operation limit), source)
  else
    match offerDynamic? defaultTip multiplier cap baseFee answer with
    | some fee => pure (.ok fee, source)
    | none => Node.panic Pricing.overflow

/-- Fetch a dynamic offer, with one deadline for both calls. The base fee is remembered as soon as
it is known. -/
def fetchDynamic (source : FeeSource) (limit : Nat) (defaultTip : Wei) (multiplier : Float)
    (cap : Wei) : Program Node (Except Failure Fee × FeeSource) := do
  match sighted limit (← Node.opening .latestBlock) with
  | .error failure => pure (.error failure, source)
  | .ok stated =>
    let baseFee := source.baseFee stated
    let source := source.remember baseFee
    let answer := Rpc.reading operation limit Rpc.readWei (← Node.further .priorityFee)
    source.concludeDynamic limit defaultTip multiplier cap baseFee answer

/-- Fetch an offer within `limit` milliseconds. -/
def fetch (source : FeeSource) (limit : Nat) : Program Node (Except Failure Fee × FeeSource) :=
  match source.pricing with
  | .legacy default cap => source.fetchLegacy limit default cap
  | .dynamic tip multiplier cap => source.fetchDynamic limit tip multiplier cap

/-- The offer to use after a fetch, and the cache from then on: a fetched offer replaces the cached
one, and a failed fetch falls back to it. -/
def orCached (cached : Option Fee) (fetched : Except Failure Fee) :
    Except Failure Fee × Option Fee :=
  match fetched, cached with
  | .ok fee, _ => (.ok fee, some fee)
  | .error _, some fee => (.ok fee, some fee)
  | .error failure, none => (.error failure, none)

end FeeSource

end VaultKeeper
