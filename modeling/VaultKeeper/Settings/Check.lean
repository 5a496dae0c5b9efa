import VaultKeeper.Decimal.Shortest
import VaultKeeper.Settings.Basic

/-! # Settings that the keeper can run with -/

namespace VaultKeeper

/-- Why the keeper cannot run with some settings. -/
inductive SettingsFault where
  | interval
  | multiplier (value : Float)
  | pollInterval
  | providers
  | slippage (basisPoints : UInt16)
  | strategyReader
  | debtConfig
  | vaults

/-- The wording of a fault. -/
def SettingsFault.message : SettingsFault → String
  | interval => "loop.interval_secs must be positive"
  | multiplier value =>
    "escalation.gas_multiplier must be at least 1.0, got " ++ Decimal.display value
  | pollInterval => "escalation.poll_interval_ms must be positive"
  | providers => "aggregators.providers is empty"
  | slippage basisPoints => s!"aggregators.slippage_bps {basisPoints} exceeds 50%"
  | strategyReader => "contracts.strategy_reader is not set"
  | debtConfig => "contracts.debt_config is not set"
  | vaults => "vault registry is empty"

namespace Settings

/-- A multiplier of at least one; not-a-number is none. -/
def isMultiplier (value : Float) : Bool :=
  !value.isNaN && !(value < 1)

/-- The first fault of the settings. -/
def fault? (settings : Settings) : Option SettingsFault :=
  if settings.loop.interval = 0 then some .interval
  else if !isMultiplier settings.escalation.multiplier then
    some (.multiplier settings.escalation.multiplier)
  else if settings.escalation.pollInterval = 0 then some .pollInterval
  else if settings.aggregators.providers.isEmpty then some .providers
  else if 5000 < settings.aggregators.quotes.slippageBps then
    some (.slippage settings.aggregators.quotes.slippageBps)
  else if settings.contracts.strategyReader = 0 then some .strategyReader
  else if settings.contracts.debtConfig = 0 then some .debtConfig
  else if settings.vaults.isEmpty then some .vaults
  else none

end Settings

end VaultKeeper
