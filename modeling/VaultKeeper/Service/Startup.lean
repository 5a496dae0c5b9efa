import VaultKeeper.Environment.File
import VaultKeeper.Service.Basic
import VaultKeeper.Settings.Check

/-! # Starting the keeper

Settings and credentials are read and checked first. Then the keeper connects: to the node, which
has to serve the chain that the credentials are for, and to its account. Any failure up to here ends
the program; after that only a request to stop does.
-/

namespace VaultKeeper

/-- Why the keeper did not start. -/
inductive StartupError where
  | load (error : LoadError)
  | settings (fault : SettingsFault)
  | credentials (error : CredentialError)
  | badUrl (failure : Failure)
  | unreachable (failure : Failure)
  /-- The node serves another chain. -/
  | chain (served expected : UInt64)
  | blockNumber (failure : Failure)
  | vault (failure : Failure)
  | account (failure : Failure)
  | noProvider

namespace StartupError

/-- The wording of the error. -/
def message : StartupError → String
  | load error => error.message
  | settings fault => fault.message
  | credentials error => error.message
  | badUrl failure => failure.message
  | unreachable _ => "RPC endpoint unreachable"
  | chain served expected => s!"RPC reports chain id {served}, CHAIN_ID is {expected}"
  | blockNumber _ => "eth_blockNumber failed"
  | vault failure => failure.message
  | account _ => "Transaction sender initialization failed"
  | noProvider => "No quote provider configured"

/-- What is behind the error, where its own wording does not say so. -/
def cause? : StartupError → Option String
  | load (.overriding error) => some error.cause.message
  | credentials (.chainId error) => some error.message
  | unreachable failure | blockNumber failure | account failure => some failure.message
  | _ => none

/-- What is told to the operator. -/
def report (error : StartupError) : String :=
  match error.cause? with
  | none => "Error: " ++ error.message
  | some cause => "Error: " ++ error.message ++ "\n\nCaused by:\n    " ++ cause

end StartupError

/-- The version of the program. -/
def version : String := "0.1.0"

/-- A start, which may fail. -/
abbrev Startup := ExceptT StartupError (Program Host)

namespace Startup

/-- Log an event. -/
def log (logger : Logger) (level : LogLevel) (target message : String)
    (fields : List (String × Json)) : Startup Unit :=
  ExceptT.lift (logger.log ⟨level, target, message, fields⟩)

/-- Log an event of the program as a whole. -/
def info (logger : Logger) (message : String) (fields : List (String × Json)) : Startup Unit :=
  log logger .info "keeper" message fields

/-- Go on with a value, or fail. -/
def require {ε α : Type} (wrap : ε → StartupError) (result : Except ε α) : Startup α :=
  ExceptT.mk (pure (result.mapError wrap))

/-- Calls to the node that the start depends on. -/
def node {α : Type} (credentials : Credentials) (settings : Settings)
    (wrap : Failure → StartupError) (program : Program Node (Except Failure α)) : Startup α := do
  let result ← ExceptT.lift (Host.ofNode credentials.url settings.rpc.timeout.toNat program)
  require wrap result

/-- Log the settings. -/
def logSettings (logger : Logger) (settings : Settings) : Startup Unit := do
  let info (message : String) (fields : List (String × Json)) : Startup Unit :=
    log logger .info "keeper_core::config::keeper" message fields
  let float (value : Float) : Json := .ofText (Decimal.display value)
  info "Keeper configuration loaded" [("profile", .ofText settings.profile)]
  info "Loop timing" [
    ("interval_secs", .ofNat settings.loop.interval.toNat),
    ("rebalance_cooldown_secs", .ofNat settings.loop.rebalanceCooldown.toNat),
    ("stuck_alert_secs", .ofNat settings.loop.stuckAlert.toNat)]
  info "RPC settings" [
    ("timeout_ms", .ofNat settings.rpc.timeout.toNat),
    ("retry_attempts", .ofNat settings.rpc.retryAttempts.toNat),
    ("retry_base_delay_ms", .ofNat settings.rpc.retryBaseDelay.toNat)]
  info "Escalation" [
    ("enabled", .bool settings.escalation.enabled),
    ("speed_up_threshold", .ofNat settings.escalation.threshold.toNat),
    ("gas_multiplier", float settings.escalation.multiplier),
    ("max_escalations", .ofNat settings.escalation.maxEscalations.toNat)]
  info "Aggregators" [
    ("providers",
      .ofText (Text.bracketed (settings.aggregators.providers.map AggregatorKind.name))),
    ("timeout_ms", .ofNat settings.aggregators.timeout.toNat),
    ("slippage_bps", .ofNat settings.aggregators.quotes.slippageBps.toNat)]
  info "Gas" [
    ("pricing", .ofText settings.gas.model.name),
    ("default_gwei", float settings.gas.defaultPrice),
    ("max_gwei", float settings.gas.maxPrice),
    ("gas_limit", .ofNat settings.gas.gasLimit.toNat)]
  info "Registry" [
    ("vaults", .ofNat settings.vaults.length),
    ("strategy_reader", .ofText settings.contracts.strategyReader.text),
    ("debt_config", .ofText settings.contracts.debtConfig.text)]

/-- An aggregator as it is configured; the default price is its estimate of the price of gas. -/
def aggregator (settings : Settings) (credentials : Credentials) (kind : AggregatorKind) :
    Aggregator where
  kind := kind
  base := (settings.aggregators.url? kind).getD (kind.baseUrl credentials.chainId)
  apiKey :=
    match kind with
    | .oneInch => credentials.oneInchKey
    | .zeroEx => credentials.zeroExKey
    | .openOcean => credentials.openOceanKey
  gasPrice :=
    match kind with
    | .openOcean => some (Wei.ofGwei settings.gas.defaultPrice)
    | _ => none

/-- How the chain is read under the settings. -/
def reader (settings : Settings) : Rpc.ChainReader where
  strategyReader := settings.contracts.strategyReader
  debtConfig := settings.contracts.debtConfig
  retry := settings.rpc.retryPolicy
  timeout := settings.rpc.timeout.toNat

/-- How the account is opened under the settings. -/
def senderSettings (settings : Settings) (credentials : Credentials) : SenderSettings where
  url := credentials.url
  chainId := credentials.chainId
  pricing := some settings.gas.pricing
  gasLimit := some settings.gas.gasLimit
  timeout := settings.rpc.timeout.toNat

/-- The keeper under the settings. -/
def keeper (settings : Settings) (account : Address) : Keeper where
  courier := ⟨account, settings.escalation, Courier.defaultPolling⟩
  settings := ⟨1000 * settings.loop.interval.toNat, settings.loop.rebalanceCooldown,
    settings.loop.stuckAlert⟩
  vaults := settings.vaults

/-- Check that the node serves the right chain. -/
def checkChain (logger : Logger) (settings : Settings) (credentials : Credentials) :
    Startup Unit := do
  let _ ← require .badUrl (Sender.checkUrl credentials.url)
  let served ← node credentials settings .unreachable (reader settings).chainId
  log logger .info "keeper_chain::provider" "RPC endpoint reachable" [
    ("chain_id", .ofNat served.toNat)]
  unless served = credentials.chainId do
    throw (.chain served credentials.chainId)
  let block ← node credentials settings .blockNumber (reader settings).blockNumber
  info logger "Connected to chain" [
    ("chain_id", .ofNat served.toNat), ("block", .ofNat block.toNat)]

/-- Warn of vaults that are no contracts. -/
def checkVaults (logger : Logger) (settings : Settings) (credentials : Credentials) :
    (vaults : List Vault) → Startup Unit
  | [] => pure ()
  | vault :: rest => do
    let hasCode ← node credentials settings .vault ((reader settings).hasCode vault.address)
    unless hasCode do
      log logger .warn "keeper" "Vault has no code, it will be skipped" [
        ("vault", .ofText vault.name), ("address", .ofText vault.address.text)]
    checkVaults logger settings credentials rest

/-- Open the sending account. -/
def openAccount (logger : Logger) (settings : Settings) (credentials : Credentials) :
    Startup Sender := do
  let sender ← node credentials settings .account
    (Sender.build (senderSettings settings credentials) credentials.key)
  if sender.cached.isNone then
    log logger .warn "keeper_chain::signer" "Initial gas fetch failed" []
  log logger .info "keeper_chain::signer" "Transaction sender initialized" [
    ("address", .ofText sender.account.text), ("chain_id", .ofNat sender.chainId.toNat),
    ("initial_nonce", .ofNat sender.nonces.next.toNat),
    ("gas_strategy", .ofText sender.source.pricing.name)]
  info logger "Transaction sender initialized" [("address", .ofText sender.account.text)]
  pure sender

/-- Connect to everything that the keeper needs. -/
def connect (logger : Logger) (settings : Settings) (credentials : Credentials) :
    Startup (Service × ServiceState) := do
  info logger "Initializing components..." []
  checkChain logger settings credentials
  checkVaults logger settings credentials settings.vaults
  let sender ← openAccount logger settings credentials
  let aggregators := settings.aggregators.providers.map (aggregator settings credentials)
  if aggregators.isEmpty then throw .noProvider
  let quotes : QuoteService := ⟨aggregators.map Aggregator.name,
    settings.aggregators.timeout.toNat, settings.aggregators.quotes⟩
  info logger "Quote service initialized" [
    ("providers", .ofText (Text.bracketed (quotes.names.map Text.quoted)))]
  if credentials.telegram.isNone then
    log logger .warn "keeper"
      "TELEGRAM_BOT_TOKEN/TELEGRAM_CHAT_ID not set, alerts go to the log only" []
  let channels := AlertChannel.operator credentials.telegram
  info logger "Alert sink initialized" [("alerts", .ofText (AlertChannel.describeAll channels))]
  info logger "All components initialized" []
  let service : Service := {
    logger
    url := credentials.url
    timeout := settings.rpc.timeout.toNat
    reader := reader settings
    aggregators
    quotes
    keeper := keeper settings sender.account }
  pure (service, ⟨sender, channels, false⟩)

/-- Start the keeper in an environment and run it until it is asked to stop. -/
def run (logger : Logger) (environment : Environment) : Startup Unit := do
  info logger "Starting keeper" [("version", .ofText version)]
  let file ← ExceptT.lift (Host.file (Settings.path environment))
  let settings ← require .load (Settings.load environment file)
  match settings.fault? with
  | some fault => throw (.settings fault)
  | none => pure ()
  logSettings logger settings
  let credentials ← require .credentials (Credentials.ofEnvironment environment)
  let (service, state) ← connect logger settings credentials
  let _ ← ExceptT.lift (service.run.run state)
  pure ()

end Startup

/-- The variables that the program reads. -/
def variableNames : List String :=
  ["RPC_URL", "PRIVATE_KEY", "CHAIN_ID", "ONEINCH_API_KEY", "ZEROEX_API_KEY", "OPENOCEAN_API_KEY",
    "TELEGRAM_BOT_TOKEN", "TELEGRAM_CHAT_ID", "KEEPER_CONFIG", "KEEPER_PROFILE", "RUST_LOG",
    "LOG_FORMAT"]
  ++ Override.all.map Override.name

/-- The environment with what the file of variables in the current folder supplies. -/
def supplied (environment : Environment) : Program Host Environment := do
  match ← Host.file ".env" with
  | .content text => pure (environment.supplyFile text)
  | _ => pure environment

/-- How the program comes to an end: by itself, with or without an error, or by a panic with its
message. -/
abbrev Ending := Except String (Except StartupError Unit)

/-- The exit code of the program. -/
def Ending.code : Ending → UInt32
  | .ok (.ok ()) => 0
  | .ok (.error _) => 1
  | .error _ => 101

/-- The whole program. -/
def program (environment : Environment) : Program Host (Except StartupError Unit) := do
  let environment ← supplied environment
  Startup.run (Logger.ofEnvironment environment) environment

end VaultKeeper
