import VaultKeeper.Abi
import VaultKeeper.Keccak

/-! # Events of a keeper transaction

A receipt carries logs of the strategy and of the lending converter it borrows through. Each
platform has a table of the events it knows; a log is decoded by the row for its emitter and first
topic, from data in canonical form only.
-/

namespace VaultKeeper

/-- A log: its emitter, topics and data. -/
structure Log where
  address : Address
  topics : List Hash
  data : Bytes
deriving DecidableEq, Repr

/-- The liquidity platform a strategy is built on. -/
inductive Platform where
  | uniswapV3
  | algebra
  | kyber
  | pancake
deriving DecidableEq, Repr

/-- Which contract emitted a log, seen from the strategy being served. -/
inductive Emitter where
  | strategy
  | converter
deriving DecidableEq, Repr

/-- The amounts reported when a range or a debt was rebalanced. -/
structure Settlement where
  loss : Word
  profit : Word
  covered : Word
deriving DecidableEq, Repr

/-- An event that the keeper reports. -/
inductive Event where
  | rebalanced (settlement : Settlement)
  | rebalancedDebt (settlement : Settlement)
  | fuseStatusChanged (status : Word)
  | rewardsClaimed (tokens : List Address) (amounts : List Word)
  | repaidBorrow (amount : Word) (close : Bool)
deriving DecidableEq, Repr

namespace Event

/-- The kinds of events that are looked up in a table. -/
inductive Name where
  | rebalanced
  | rebalancedDebt
  | fuseStatusChanged
  | rewardsClaimed
  | onRepayBorrow
deriving DecidableEq, Repr

namespace Name

/-- The name of the event on chain. -/
def text : Name → String
  | rebalanced => "Rebalanced"
  | rebalancedDebt => "RebalancedDebt"
  | fuseStatusChanged => "FuseStatusChanged"
  | rewardsClaimed => "RewardsClaimed"
  | onRepayBorrow => "OnRepayBorrow"

/-- The kinds of the values in the data. -/
def kinds : Name → List Abi.Kind
  | rebalanced | rebalancedDebt => [.single .uint256, .single .uint256, .single .uint256]
  | fuseStatusChanged => [.single .uint256]
  | rewardsClaimed => [.array .address, .array .uint256]
  | onRepayBorrow => [.single .address, .single .uint256, .single .address, .single .bool]

/-- The types of the values as they stand in the signature. -/
def parameters : Name → String
  | rebalanced | rebalancedDebt => "(uint256,uint256,uint256)"
  | fuseStatusChanged => "(uint256)"
  | rewardsClaimed => "(address[],uint256[])"
  | onRepayBorrow => "(address,uint256,address,bool)"

/-- The first topic of the event: the hash of its signature. -/
def topic (name : Name) : Hash :=
  BitVec.ofNat 256 (Bytes.ofBigEndian (Keccak.hashText (name.text ++ name.parameters)))

/-- Who emits the event. -/
def emitter : Name → Emitter
  | onRepayBorrow => .converter
  | _ => .strategy

/-- The event that a list of values stands for. -/
def ofValues? : Name → List Abi.Value → Option Event
  | rebalanced, [.word loss, .word profit, .word covered] =>
    some (.rebalanced ⟨loss, profit, covered⟩)
  | rebalancedDebt, [.word loss, .word profit, .word covered] =>
    some (.rebalancedDebt ⟨loss, profit, covered⟩)
  | fuseStatusChanged, [.word status] => some (.fuseStatusChanged status)
  | rewardsClaimed, [.words tokens, .words amounts] =>
    some (.rewardsClaimed (tokens.map Address.ofWord) amounts)
  | onRepayBorrow, [.word _, .word amount, .word _, .word close] =>
    some (.repaidBorrow amount (close != 0))
  | _, _ => none

/-- Read the event from the data of a log. -/
def decode (name : Name) (data : Bytes) : Option Event := do
  let values ← Abi.decodeExact name.kinds data
  name.ofValues? values

end Name

/-- The name under which an event is reported. -/
def name : Event → String
  | rebalanced _ => "Rebalanced"
  | rebalancedDebt _ => "RebalancedDebt"
  | fuseStatusChanged _ => "FuseStatusChanged"
  | rewardsClaimed .. => "RewardsClaimed"
  | repaidBorrow .. => "RepaidBorrow"

/-- The text of an event in messages. -/
def text : Event → String
  | rebalanced s => "Rebalanced" ++ settlement s
  | rebalancedDebt s => "RebalancedDebt" ++ settlement s
  | fuseStatusChanged status => s!"FuseStatusChanged({status.toNat})"
  | rewardsClaimed tokens _ => s!"RewardsClaimed({tokens.length} tokens)"
  | repaidBorrow amount close => s!"RepaidBorrow(amount={amount.toNat}, close={close})"
where
  settlement (s : Settlement) : String :=
    s!"(loss={s.loss.toNat}, profitToCover={s.profit.toNat}, coveredByRewards={s.covered.toNat})"

end Event

namespace Platform

/-- The name of the platform in settings. -/
def name : Platform → String
  | uniswapV3 => "uniswap_v3"
  | algebra => "algebra"
  | kyber => "kyber"
  | pancake => "pancake"

/-- The platform with a name. -/
def ofName? (name : String) : Option Platform :=
  [uniswapV3, algebra, kyber, pancake].find? fun platform => platform.name == name

/-- The events known on a platform, in the order in which they are looked up. Platforms with farming
also claim rewards. -/
def events : Platform → List Event.Name
  | uniswapV3 | algebra => [.rebalanced, .rebalancedDebt, .fuseStatusChanged, .onRepayBorrow]
  | kyber | pancake =>
    [.rebalanced, .rebalancedDebt, .fuseStatusChanged, .rewardsClaimed, .onRepayBorrow]

/-- The event with a name on chain that a contract emits on this platform. -/
def find? (platform : Platform) (emitter : Emitter) (name : String) : Option Event.Name :=
  platform.events.find? fun event => event.emitter == emitter && event.text == name

/-- Decode one log of a contract; only the first topic is looked at. -/
def decode (platform : Platform) (emitter : Emitter) (log : Log) : Option (Event.Name × Event) := do
  let topic ← log.topics.head?
  let name ← platform.events.find? fun event => event.emitter == emitter && event.topic == topic
  let event ← name.decode log.data
  pure (name, event)

/-- Decode every known log of a receipt: logs of the strategy as its own events, all others as
events of the converter. -/
def decodeReceipt (platform : Platform) (strategy : Address) (logs : List Log) : List Event :=
  logs.filterMap fun log =>
    let emitter := if log.address = strategy then Emitter.strategy else Emitter.converter
    (platform.decode emitter log).map Prod.snd

end Platform

end VaultKeeper
