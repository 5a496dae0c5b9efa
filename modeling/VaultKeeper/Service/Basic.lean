import VaultKeeper.Alert
import VaultKeeper.Keeper.Cycle
import VaultKeeper.Quote.Selection
import VaultKeeper.Rpc.ChainReader
import VaultKeeper.Sender
import VaultKeeper.Service.Host

/-! # The running keeper

A service answers the calls of the keeper with real connections: to a node, to aggregators and to
the operator. It owns the sending account and the alert channels.
-/

namespace VaultKeeper

/-- The connections of a running keeper. -/
structure Service where
  logger : Logger
  url : String
  /-- Milliseconds that one call to the node may take. -/
  timeout : Nat
  reader : Rpc.ChainReader
  aggregators : List Aggregator
  quotes : QuoteService
  keeper : Keeper

/-- What a service keeps track of. -/
structure ServiceState where
  sender : Sender
  channels : List AlertChannel
  /-- The request to stop was logged. -/
  isAnnounced : Bool

namespace Service

/-- What a running service does. -/
abbrev Serve := StateT ServiceState (Program Host)

/-- Events of the keeper itself. -/
def keeperTarget : String := "keeper_core::keeper"

/-- Log an event. -/
def log (service : Service) (level : LogLevel) (target message : String)
    (fields : List (String × Json)) : Serve Unit :=
  monadLift (service.logger.log ⟨level, target, message, fields⟩)

/-- Calls to the node. -/
def node {α : Type} (service : Service) (program : Program Node α) : Serve α :=
  monadLift (Host.ofNode service.url service.timeout program)

/-- A call to the node that changes the sending account. -/
def withSender {α : Type} (service : Service) (run : Sender → Program Node (α × Sender)) :
    Serve α := do
  let (answer, sender) ← service.node (run (← get).sender)
  modify fun state => { state with sender }
  pure answer

/-- Answer a call of a delivery. -/
def onDelivery (service : Service) : (call : Delivery.Call) → Serve (Interface.Answer Delivery call)
  | .reserveNonce => do
    let (nonce, sender) := (← get).sender.reserveNonce
    modify fun state => { state with sender }
    pure nonce
  | .offeredFee => service.withSender Sender.offeredFee
  | .networkPrice => do service.node (← get).sender.networkPrice
  | .broadcast transaction => do service.node ((← get).sender.broadcast transaction)
  | .receipt hash => do service.node ((← get).sender.receipt hash)
  | .nonceCounts => do service.node (← get).sender.nonceCounts
  | .syncNonce => service.withSender Sender.syncNonce
  | .now => do pure (UInt64.ofNat ((← (monadLift Host.now : Serve Nat)) / 1000))
  | .sleep milliseconds => monadLift (Host.sleep milliseconds)

/-- What an aggregator answers; without an answer in time it takes longer than the limit. -/
def onProvider (service : Service) (call : Providers.Call) : Program Host ProviderReply :=
  match service.aggregators[call.place]? with
  | none => pure ⟨0, .error (.provider call.name .unreachable)⟩
  | some aggregator => do
    let limit := service.quotes.timeout
    match ← Host.http limit (aggregator.httpRequest call.request) with
    | some response => pure ⟨0, Aggregator.readResponse aggregator.kind call.request response⟩
    | none => pure ⟨limit + 1, .error (.timeout call.name limit)⟩

/-- Send an alert through a channel. -/
def alert (service : Service) (message : String) : AlertChannel → Program Host AlertChannel
  | .log => do
    service.logger.log ⟨.warn, "keeper_api::alert", "ALERT", [("alert", .ofText message)]⟩
    pure .log
  | .chat bot => do
    let (request, bot) := bot.notify message (← Host.now)
    match request with
    | none => pure ()
    | some request => let _ ← Host.http bot.timeout request
    pure (.chat bot)

/-- Answer a call of a step. -/
def onStep (service : Service) : (call : Step.Call) → Serve (Interface.Answer Step call)
  | .delivery call => service.onDelivery call
  | .position strategy => service.node (service.reader.position strategy)
  | .thresholds strategy => service.node (service.reader.thresholds strategy)
  | .quoteWithdraw strategy planData =>
    service.node (service.reader.quoteWithdraw strategy planData)
  | .isPaused splitter strategy => service.node (service.reader.isPaused splitter strategy)
  | .bestQuote tokenIn tokenOut amount requester =>
    monadLift ((service.quotes.best tokenIn tokenOut amount requester).interpret service.onProvider)
  | .notify message => do
    let channels ← monadLift (fanOut service.alert message (← get).channels)
    modify fun state => { state with channels }

/-- Answer a call that finds strategies. -/
def onRegistry (service : Service) : (call : Registry.Call) → Serve (Interface.Answer Registry call)
  | .splitterOf vault => service.node (service.reader.splitterOf vault)
  | .strategiesOf splitter => service.node (service.reader.strategiesOf splitter)

/-- Log a request to stop when it shows for the first time. -/
def announce (service : Service) : Serve Unit := do
  unless (← get).isAnnounced do
    service.log .info "keeper" "Shutdown signal received, finishing current work" []
    modify fun state => { state with isAnnounced := true }

/-- Answer a call of the cycle's clock. -/
def onTimer (service : Service) : (call : Timer.Call) → Serve (Interface.Answer Timer call)
  | .stopRequested => do
    let stops ← monadLift Host.stopRequested
    if stops then service.announce
    pure stops
  | .sleep milliseconds => do
    let finished ← monadLift (Host.pause milliseconds)
    unless finished do service.announce
    pure finished

/-- Log the counts of a cycle. -/
def report (service : Service) (tally : Tally) : Serve Unit := do
  unless tally.failed = 0 do
    service.log .error keeperTarget "Strategy cycle failed" [("failed", .ofNat tally.failed)]
  service.log .info keeperTarget "Cycle complete" [
    ("cycle", .ofNat tally.cycle.toNat), ("vaults", .ofNat tally.vaults),
    ("processed", .ofNat tally.processed), ("acted", .ofNat tally.acted),
    ("rebalanced", .ofNat tally.rebalanced), ("reduced_debt", .ofNat tally.reducedDebt),
    ("no_op", .ofNat tally.idle), ("failed", .ofNat tally.failed)]

/-- Answer a call of the keeper. -/
def onCycle (service : Service) : (call : Cycle.Call) → Serve (Interface.Answer Cycle call)
  | .step call => service.onStep call
  | .registry call => service.onRegistry call
  | .timer call => service.onTimer call
  | .report tally => service.report tally

/-- Run the keeper until it is asked to stop. -/
def run (service : Service) : Serve Unit := do
  service.log .info keeperTarget "Keeper started" [
    ("vaults", .ofNat service.keeper.vaults.length),
    ("interval_secs", .ofNat (service.keeper.settings.interval / 1000)),
    ("providers", .ofText (Text.bracketed (service.quotes.names.map Text.quoted)))]
  let tallies ← (service.keeper.run UInt64.size).interpret service.onCycle
  service.log .info keeperTarget "Keeper stopped" [("cycles", .ofNat tallies.length)]

end Service

end VaultKeeper
