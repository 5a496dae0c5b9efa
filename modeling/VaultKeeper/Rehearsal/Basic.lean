import VaultKeeper.Clock
import VaultKeeper.Keeper.Cycle
import VaultKeeper.Rehearsal.Script

/-! # Rehearsals

A rehearsal answers every call of the keeper from scripts, on a clock that is moved by hand, and
writes a line for each of them. It shows what the keeper would do without a chain, an aggregator or
an operator.
-/

namespace VaultKeeper

/-- The surroundings of a rehearsal as they stand. -/
structure Rehearsal where
  clock : ManualClock
  /-- The lines written so far, newest first. -/
  lines : List String
  /-- The keeper was asked to stop. -/
  stopped : Bool
  /-- A wait of this length is cut short by a request to stop, after that many which are not. -/
  interruption : Option (Nat × Nat)
  account : Rehearsal.Account
  tables : Rehearsal.Tables
  service : QuoteService
  providers : List Rehearsal.Provider

/-- The fee in a line. -/
def Fee.text : Fee → String
  | legacy price => s!"legacy:{price.toNat}"
  | dynamic maxFee tip baseFee => s!"1559:{maxFee.toNat}/{tip.toNat}/{baseFee.toNat}"

/-- A transaction in a line. -/
def Transaction.text (transaction : Transaction) : String :=
  let limit := match transaction.gasLimit with
    | none => "default"
    | some limit => toString limit
  s!"nonce={transaction.nonce} to=" ++ transaction.receiver.lower ++ " data="
    ++ Hex.encode transaction.data ++ s!" value={transaction.value.toNat} gas="
    ++ transaction.fee.text ++ " limit=" ++ limit

/-- A request for a quote in a line. -/
def QuoteRequest.text (request : QuoteRequest) : String :=
  "in=" ++ request.tokenIn.lower ++ " out=" ++ request.tokenOut.lower
    ++ s!" amount={request.amountIn.toNat} for=" ++ request.requester.lower
    ++ s!" bps={request.settings.slippageBps} disable={request.settings.disableEstimate}"
    ++ s!" partial={request.settings.allowPartialFill} protocols="
    ++ request.settings.protocols.getD "-"

namespace Rehearsal

/-- A step of a rehearsal. -/
abbrev Run := StateM Rehearsal

/-- Write a line. -/
def note (line : String) : Run Unit :=
  modify fun stage => { stage with lines := line :: stage.lines }

/-- The lines since they were last taken, oldest first. -/
def takeLines : Run (List String) :=
  modifyGet fun stage => (stage.lines.reverse, { stage with lines := [] })

/-- Ask the keeper to stop. -/
def stop : Run Unit :=
  modify fun stage => { stage with stopped := true }

/-- Move the clock without waiting. -/
def advance (milliseconds : Nat) : Run Unit :=
  modify fun stage => { stage with clock := stage.clock.advance milliseconds }

/-- Wait. The answer tells whether the wait was not cut short. -/
def sleep (milliseconds : Nat) : Run Bool := do
  note s!"sleep {milliseconds}"
  modify fun stage => { stage with clock := stage.clock.sleep milliseconds }
  match (← get).interruption with
  | none => pure true
  | some (length, left) =>
    if milliseconds ≠ length then pure true
    else if left = 0 then
      stop
      pure false
    else
      modify fun stage => { stage with interruption := some (length, left - 1) }
      pure true

/-- Change the account. -/
def setAccount (account : Account) : Run Unit :=
  modify fun stage => { stage with account }

/-- Answer a call of a delivery. -/
def onDelivery : (call : Delivery.Call) → Run (Interface.Answer Delivery call)
  | .reserveNonce => do
    let account := (← get).account
    note s!"reserve_nonce {account.nonce}"
    setAccount { account with nonce := account.nonce + 1 }
    pure account.nonce
  | .offeredFee => do
    note "gas_params"
    let account := (← get).account
    let (answer, offers) := next account.offers
    setAccount { account with offers }
    pure (answer.getD (.ok (.legacy 30000000000)))
  | .networkPrice => do
    note "network_price"
    let account := (← get).account
    let (answer, prices) := next account.prices
    setAccount { account with prices }
    pure (answer.getD (.ok 30000000000))
  | .broadcast transaction => do
    let account := (← get).account
    let refusals := account.refusals.tail
    match account.refusals.head?.join with
    | some failure =>
      note ("broadcast " ++ transaction.text ++ " -> rejected")
      setAccount { account with refusals }
      pure (.error failure)
    | none =>
      let place := account.accepted.length
      let hash : Hash := BitVec.ofNat 256 (place + 1)
      note ("broadcast " ++ transaction.text ++ s!" -> #{place}")
      setAccount { account with
        refusals, accepted := account.accepted ++ [(hash, transaction.receiver)] }
      pure (.ok hash)
  | .receipt hash => do
    let account := (← get).account
    note ("receipt " ++ match account.placeOf? hash with
      | some place => s!"#{place}"
      | none => hash.text)
    let asked := { account with queried := hash :: account.queried }
    setAccount asked
    if account.failingQueries.contains account.queried.length then
      pure (.error (.transient (.told "receipt query failed")))
    else pure (.ok (asked.receipt hash))
  | .nonceCounts => do
    note "nonces"
    let account := (← get).account
    let (answer, counts) := next account.counts
    setAccount { account with counts }
    pure (answer.getD (.ok ⟨account.nonce, account.nonce⟩))
  | .syncNonce => do
    note "sync_nonce"
    let account := (← get).account
    let (answer, nonces) := next account.nonces
    let answer := answer.getD (.ok account.nonce)
    setAccount { account with nonces, nonce := answer.toOption.getD account.nonce }
    pure answer
  | .now => do pure (← get).clock.now
  | .sleep milliseconds => do
    let _ ← sleep milliseconds
    pure ()

/-- Answer a request for a quote. -/
def onProvider (call : Providers.Call) : Run ProviderReply := do
  note ("quote " ++ call.name ++ " " ++ call.request.text)
  match (← get).providers[call.place]? with
  | some provider => pure (provider.reply call.name call.request)
  | none => pure ⟨0, .error (.provider call.name .unreachable)⟩

/-- Answer a call of a step. -/
def onStep : (call : Step.Call) → Run (Interface.Answer Step call)
  | .delivery call => onDelivery call
  | .position strategy => do
    note ("state " ++ strategy.lower)
    match (← get).tables.positions.find? strategy with
    | none => pure (.error (.fatal (.told ("execution reverted: " ++ strategy.text))))
    | some (stops, answer) =>
      if stops then stop
      pure answer
  | .thresholds strategy => do
    note ("config " ++ strategy.lower)
    pure (((← get).tables.thresholds.find? strategy).getD (.ok ⟨3, 50, 600⟩))
  | .quoteWithdraw strategy planData => do
    note ("withdraw " ++ strategy.lower ++ " " ++ Hex.encode planData)
    pure (((← get).tables.withdrawals.find? strategy).getD
      (.error (.fatal (.told "quoteWithdrawByAgg reverted"))))
  | .isPaused splitter strategy => do
    note ("paused " ++ splitter.lower ++ " " ++ strategy.lower)
    pure (((← get).tables.paused.find? strategy).getD (.ok false))
  | .bestQuote tokenIn tokenOut amount requester => do
    ((← get).service.best tokenIn tokenOut amount requester).interpret onProvider
  | .notify message => note ("alert " ++ message)

/-- Answer a call that finds strategies. -/
def onRegistry : (call : Registry.Call) → Run (Interface.Answer Registry call)
  | .splitterOf vault => do
    note ("splitter " ++ vault.lower)
    pure (((← get).tables.splitters.find? vault).getD (.ok none))
  | .strategiesOf splitter => do
    note ("strategies " ++ splitter.lower)
    pure (((← get).tables.strategies.find? splitter).getD (.ok []))

/-- Answer a call of a poller. -/
def onTimer : (call : Timer.Call) → Run (Interface.Answer Timer call)
  | .stopRequested => do pure (← get).stopped
  | .sleep milliseconds => sleep milliseconds

/-- Answer a call of the keeper. -/
def onCycle : (call : Cycle.Call) → Run (Interface.Answer Cycle call)
  | .step call => onStep call
  | .registry call => onRegistry call
  | .timer call => onTimer call
  | .report _ => pure ()

/-- Where alerts go in a rehearsal: into its lines under a number, or into a log that is not
kept. -/
inductive Sink where
  | numbered (place : Nat)
  | log
deriving DecidableEq, Repr

/-- Send an alert to a sink. -/
def send (message : String) (sink : Sink) : Run Sink := do
  match sink with
  | .numbered place => note (s!"sink{place} " ++ message)
  | .log => pure ()
  pure sink

/-- Run a program while a wait of the given length is cut short, after `left` that are not. -/
def interrupted {α : Type} (length left : Nat) (run : Run α) : Run α := do
  modify fun stage => { stage with interruption := some (length, left) }
  let result ← run
  modify fun stage => { stage with interruption := none }
  pure result

end Rehearsal

end VaultKeeper
