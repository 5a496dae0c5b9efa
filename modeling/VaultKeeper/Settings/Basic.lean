import VaultKeeper.Delivery.Courier
import VaultKeeper.Fee.Source
import VaultKeeper.Quote.Aggregator
import VaultKeeper.Quote.Basic
import VaultKeeper.Retry
import VaultKeeper.Vault

/-! # Settings

Everything about the keeper that may be configured and is no secret, with three profiles: a default
one, one that is slow and careful, and one that is fast and pays for it.
-/

namespace VaultKeeper

/-- The timing of the cycles, in seconds. -/
structure LoopSettings where
  interval : UInt64
  rebalanceCooldown : UInt64
  stuckAlert : UInt64
deriving DecidableEq, Repr

/-- Deadlines and repetitions of calls to the node, in milliseconds. -/
structure RpcSettings where
  timeout : UInt64
  retryAttempts : UInt32
  retryBaseDelay : UInt64
deriving DecidableEq, Repr

/-- The aggregators to ask, in their order, and how to ask them. -/
structure AggregatorSettings where
  /-- Milliseconds that one quote may take. -/
  timeout : UInt64
  providers : List AggregatorKind
  quotes : QuoteSettings
  /-- Addresses in place of the usual ones. -/
  oneInchUrl : Option String
  zeroExUrl : Option String
  openOceanUrl : Option String
deriving DecidableEq, Repr

/-- A model of transaction fees. -/
inductive FeeModel where
  | legacy
  | dynamic
deriving DecidableEq, Repr

/-- The model as a sender knows it. -/
def FeeModel.name : FeeModel → String
  | legacy => "legacy"
  | dynamic => "eip1559"

/-- Prices are in gwei. -/
structure GasSettings where
  model : FeeModel
  defaultPrice : Float
  maxPrice : Float
  priorityFee : Option Float
  gasLimit : UInt64

/-- Contracts that serve all strategies. -/
structure ContractSettings where
  strategyReader : Address
  debtConfig : Address
deriving DecidableEq, Repr

structure Settings where
  profile : String
  loop : LoopSettings
  rpc : RpcSettings
  escalation : EscalationPolicy
  aggregators : AggregatorSettings
  gas : GasSettings
  contracts : ContractSettings
  vaults : List Vault

/-- One cycle in a minute. -/
def LoopSettings.default : LoopSettings :=
  ⟨60, 300, 3600⟩

/-- Three attempts of at most fifteen seconds. -/
def RpcSettings.default : RpcSettings :=
  ⟨15000, 3, 1000⟩

/-- All aggregators, five seconds for each. -/
def AggregatorSettings.default : AggregatorSettings :=
  ⟨5000, [.oneInch, .zeroEx, .openOcean], .default, none, none, none⟩

/-- One price of at most 500 gwei, and 30 while none is known. -/
def GasSettings.default : GasSettings :=
  ⟨.legacy, 30, 500, none, 5000000⟩

/-- No contracts: there is nothing to guess. -/
def ContractSettings.default : ContractSettings :=
  ⟨0, 0⟩

namespace Settings

/-- The settings of the default profile. -/
def default : Settings where
  profile := "default"
  loop := .default
  rpc := .default
  escalation := .default
  aggregators := .default
  gas := .default
  contracts := .default
  vaults := []

/-- Slow cycles, patient escalation, little slippage. -/
def conservative : Settings := { default with
  profile := "conservative"
  loop := ⟨120, 600, 7200⟩
  escalation := { EscalationPolicy.default with
    threshold := 20, multiplier := 1.25, maxEscalations := 3 }
  aggregators := { AggregatorSettings.default with
    quotes := { QuoteSettings.default with slippageBps := 50 } } }

/-- Fast cycles, early and steep escalation. -/
def aggressive : Settings := { default with
  profile := "aggressive"
  loop := ⟨30, 120, 1800⟩
  escalation := { EscalationPolicy.default with
    threshold := 5, multiplier := 2, maxEscalations := 8 }
  aggregators := { AggregatorSettings.default with
    timeout := 3000, quotes := { QuoteSettings.default with slippageBps := 150 } }
  gas := { GasSettings.default with maxPrice := 1000 } }

/-- The profile with a name in any case; every unknown name means the default one. -/
def ofProfile (name : String) : Settings :=
  let lower := String.ofList (name.toList.map Char.toLower)
  if lower = "conservative" ∨ lower = "safe" then conservative
  else if lower = "aggressive" ∨ lower = "aggro" then aggressive
  else default

end Settings

/-- How calls to the node are repeated. -/
def RpcSettings.retryPolicy (settings : RpcSettings) : RetryPolicy :=
  .ofAttempts settings.retryAttempts.toNat settings.retryBaseDelay.toNat

/-- The address that is configured in place of an aggregator's usual one. -/
def AggregatorSettings.url? (settings : AggregatorSettings) : AggregatorKind → Option String
  | .oneInch => settings.oneInchUrl
  | .zeroEx => settings.zeroExUrl
  | .openOcean => settings.openOceanUrl

/-- How fees are offered under the settings. -/
def GasSettings.pricing (settings : GasSettings) : Pricing :=
  .ofModel settings.model.name settings.defaultPrice settings.maxPrice settings.priorityFee

end VaultKeeper
