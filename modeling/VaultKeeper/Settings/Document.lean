import VaultKeeper.Settings.Basic
import VaultKeeper.Toml.Reader
import VaultKeeper.Toml.Record

/-! # Settings as a document

A document is laid over the profile that it names, and the result is read as settings. So what the
document leaves out comes from the profile, except that a section given as an array falls back to
the defaults for the fields after its last item.
-/

namespace VaultKeeper

open Toml (asBool asNatural asUInt16 asUInt32 asUInt64 asFloat asString asList asChoice asAddress)

/-- A whole number in a document. -/
def Toml.ofNat (n : Nat) : Toml :=
  .integer n

/-- An address in a document. -/
def Toml.ofAddress (address : Address) : Toml :=
  .string address.lower

/-- The entry of a value that may be left out. -/
def Toml.entry {α : Type} (key : String) (encode : α → Toml) (value : Option α) :
    List (String × Toml) :=
  value.toList.map fun value => (key, encode value)

namespace LoopSettings

def toToml (settings : LoopSettings) : Toml := .table [
  ("interval_secs", .ofNat settings.interval.toNat),
  ("rebalance_cooldown_secs", .ofNat settings.rebalanceCooldown.toNat),
  ("rebalance_stuck_alert_secs", .ofNat settings.stuckAlert.toNat)]

def ofToml? (part : Toml) : Option LoopSettings := do
  guard (part.isRecord 3)
  let interval ← part.field "interval_secs" 0 asUInt64 default.interval
  let rebalanceCooldown ←
    part.field "rebalance_cooldown_secs" 1 asUInt64 default.rebalanceCooldown
  let stuckAlert ← part.field "rebalance_stuck_alert_secs" 2 asUInt64 default.stuckAlert
  pure { interval, rebalanceCooldown, stuckAlert }

end LoopSettings

namespace RpcSettings

def toToml (settings : RpcSettings) : Toml := .table [
  ("timeout_ms", .ofNat settings.timeout.toNat),
  ("retry_attempts", .ofNat settings.retryAttempts.toNat),
  ("retry_base_delay_ms", .ofNat settings.retryBaseDelay.toNat)]

def ofToml? (part : Toml) : Option RpcSettings := do
  guard (part.isRecord 3)
  let timeout ← part.field "timeout_ms" 0 asUInt64 default.timeout
  let retryAttempts ← part.field "retry_attempts" 1 asUInt32 default.retryAttempts
  let retryBaseDelay ← part.field "retry_base_delay_ms" 2 asUInt64 default.retryBaseDelay
  pure { timeout, retryAttempts, retryBaseDelay }

end RpcSettings

namespace EscalationPolicy

def toToml (policy : EscalationPolicy) : Toml := .table [
  ("enabled", .boolean policy.enabled),
  ("speed_up_threshold", .ofNat policy.threshold.toNat),
  ("gas_multiplier", .float policy.multiplier),
  ("poll_interval_ms", .ofNat policy.pollInterval),
  ("max_escalations", .ofNat policy.maxEscalations.toNat),
  ("drop_pending_attempts", .ofNat policy.dropAttempts.toNat),
  ("drop_pending_wait_cycles", .ofNat policy.dropWait.toNat),
  ("max_wait_cycles", .ofNat policy.maxWait.toNat)]

def ofToml? (part : Toml) : Option EscalationPolicy := do
  guard (part.isRecord 8)
  let enabled ← part.field "enabled" 0 asBool default.enabled
  let threshold ← part.field "speed_up_threshold" 1 asUInt32 default.threshold
  let multiplier ← part.field "gas_multiplier" 2 asFloat default.multiplier
  let pollInterval ← part.field "poll_interval_ms" 3 (asNatural UInt64.size) default.pollInterval
  let maxEscalations ← part.field "max_escalations" 4 asUInt32 default.maxEscalations
  let dropAttempts ← part.field "drop_pending_attempts" 5 asUInt32 default.dropAttempts
  let dropWait ← part.field "drop_pending_wait_cycles" 6 asUInt32 default.dropWait
  let maxWait ← part.field "max_wait_cycles" 7 asUInt32 default.maxWait
  pure ⟨enabled, threshold, multiplier, maxEscalations, dropAttempts, dropWait, maxWait,
    pollInterval⟩

end EscalationPolicy

/-- The aggregator that a document means; two of them have a second name. -/
def AggregatorKind.ofToml? (value : Toml) : Option AggregatorKind := do
  let name ← value.asChoice
  if name = "oneinch" then some .oneInch
  else if name = "zeroex" then some .zeroEx
  else AggregatorKind.ofName? name

namespace AggregatorSettings

def toToml (settings : AggregatorSettings) : Toml := .table <| [
  ("timeout_ms", .ofNat settings.timeout.toNat),
  ("slippage_bps", .ofNat settings.quotes.slippageBps.toNat),
  ("providers", .array (settings.providers.map fun kind => .string kind.name)),
  ("disable_estimate", .boolean settings.quotes.disableEstimate),
  ("allow_partial_fill", .boolean settings.quotes.allowPartialFill)]
  ++ Toml.entry "protocols" .string settings.quotes.protocols
  ++ Toml.entry "one_inch_url" .string settings.oneInchUrl
  ++ Toml.entry "zero_ex_url" .string settings.zeroExUrl
  ++ Toml.entry "open_ocean_url" .string settings.openOceanUrl

def ofToml? (part : Toml) : Option AggregatorSettings := do
  guard (part.isRecord 9)
  let timeout ← part.field "timeout_ms" 0 asUInt64 default.timeout
  let slippageBps ← part.field "slippage_bps" 1 asUInt16 default.quotes.slippageBps
  let providers ← part.field "providers" 2 (asList AggregatorKind.ofToml?) default.providers
  let disableEstimate ← part.field "disable_estimate" 3 asBool default.quotes.disableEstimate
  let allowPartialFill ←
    part.field "allow_partial_fill" 4 asBool default.quotes.allowPartialFill
  let protocols ← part.optional "protocols" 5 asString
  let oneInchUrl ← part.optional "one_inch_url" 6 asString
  let zeroExUrl ← part.optional "zero_ex_url" 7 asString
  let openOceanUrl ← part.optional "open_ocean_url" 8 asString
  let quotes : QuoteSettings := { slippageBps, disableEstimate, allowPartialFill, protocols }
  pure { timeout, providers, quotes, oneInchUrl, zeroExUrl, openOceanUrl }

end AggregatorSettings

/-- The model in a document. -/
def FeeModel.toToml : FeeModel → Toml
  | legacy => .string "Legacy"
  | dynamic => .string "Eip1559"

def FeeModel.ofToml? (value : Toml) : Option FeeModel := do
  let name ← value.asChoice
  if name = "Legacy" then some .legacy
  else if name = "Eip1559" then some .dynamic
  else none

namespace GasSettings

def toToml (settings : GasSettings) : Toml := .table <| [
  ("pricing", settings.model.toToml),
  ("default_gas_price_gwei", .float settings.defaultPrice),
  ("max_gas_price_gwei", .float settings.maxPrice),
  ("gas_limit", .ofNat settings.gasLimit.toNat)]
  ++ Toml.entry "priority_fee_gwei" .float settings.priorityFee

def ofToml? (part : Toml) : Option GasSettings := do
  guard (part.isRecord 5)
  let model ← part.field "pricing" 0 FeeModel.ofToml? default.model
  let defaultPrice ← part.field "default_gas_price_gwei" 1 asFloat default.defaultPrice
  let maxPrice ← part.field "max_gas_price_gwei" 2 asFloat default.maxPrice
  let priorityFee ← part.optional "priority_fee_gwei" 3 asFloat
  let gasLimit ← part.field "gas_limit" 4 asUInt64 default.gasLimit
  pure { model, defaultPrice, maxPrice, priorityFee, gasLimit }

end GasSettings

namespace ContractSettings

def toToml (settings : ContractSettings) : Toml := .table [
  ("strategy_reader", .ofAddress settings.strategyReader),
  ("debt_config", .ofAddress settings.debtConfig)]

def ofToml? (part : Toml) : Option ContractSettings := do
  guard (part.isRecord 2)
  let strategyReader ← part.field "strategy_reader" 0 asAddress default.strategyReader
  let debtConfig ← part.field "debt_config" 1 asAddress default.debtConfig
  pure { strategyReader, debtConfig }

end ContractSettings

namespace Vault

def toToml (vault : Vault) : Toml := .table [
  ("name", .string vault.name),
  ("address", .ofAddress vault.address),
  ("platform", .string vault.platform.name),
  ("strategies", .array (vault.strategies.map .ofAddress))]

/-- A vault needs a name and an address. -/
def ofToml? (entry : Toml) : Option Vault := do
  guard (entry.isRecord 4)
  let name ← entry.required "name" 0 asString
  let address ← entry.required "address" 1 asAddress
  let platform ←
    entry.field "platform" 2 (fun value => value.asChoice >>= Platform.ofName?) .uniswapV3
  let strategies ← entry.field "strategies" 3 (asList asAddress) []
  pure { name, address, platform, strategies }

end Vault

namespace Settings

def toToml (settings : Settings) : Toml := .table [
  ("profile", .string settings.profile),
  ("loop", settings.loop.toToml),
  ("rpc", settings.rpc.toToml),
  ("escalation", settings.escalation.toToml),
  ("aggregators", settings.aggregators.toToml),
  ("gas", settings.gas.toToml),
  ("contracts", settings.contracts.toToml),
  ("vaults", .array (settings.vaults.map Vault.toToml))]

def ofToml? (document : Toml) : Option Settings := do
  guard (document.isRecord 8)
  let profile ← document.field "profile" 0 asString default.profile
  let loop ← document.field "loop" 1 LoopSettings.ofToml? .default
  let rpc ← document.field "rpc" 2 RpcSettings.ofToml? .default
  let escalation ← document.field "escalation" 3 EscalationPolicy.ofToml? .default
  let aggregators ← document.field "aggregators" 4 AggregatorSettings.ofToml? .default
  let gas ← document.field "gas" 5 GasSettings.ofToml? .default
  let contracts ← document.field "contracts" 6 ContractSettings.ofToml? .default
  let vaults ← document.field "vaults" 7 (asList Vault.ofToml?) []
  pure { profile, loop, rpc, escalation, aggregators, gas, contracts, vaults }

/-- The profile that a document names, or else `fallback`. -/
def profileOf (document : Toml) (fallback : String) : String :=
  ((document.get? "profile").bind Toml.asText).getD fallback

/-- The settings of a document over its profile. -/
def ofDocument? (document : Toml) (fallback : String) : Option Settings :=
  ofToml? ((ofProfile (profileOf document fallback)).toToml.merge document)

/-- The settings of a text. -/
def read? (text fallback : String) : Option Settings := do
  let document ← Toml.read text
  ofDocument? document fallback

end Settings

end VaultKeeper
