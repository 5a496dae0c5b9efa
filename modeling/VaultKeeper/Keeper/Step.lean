import VaultKeeper.Journal
import VaultKeeper.Keeper.Task

/-! # One step for one strategy

A strategy that needs its range rebalanced gets that first, unless another rebalance was sent a
short while ago or the strategy is paused. Otherwise its debt is looked at. Every transaction and
every failure is reported to the operator, and so is a strategy that has been needing a rebalance
for too long.
-/

namespace VaultKeeper

/-- The timing of the keeper. -/
structure KeeperSettings where
  /-- Milliseconds between two cycles. -/
  interval : Nat
  /-- Seconds between two rebalances of any strategies. -/
  rebalanceCooldown : UInt64
  /-- Seconds after which a strategy that needs a rebalance is reported. -/
  stuckAlert : UInt64
deriving DecidableEq, Repr

/-- A minute between cycles, five between rebalances, and an hour before a report. -/
def KeeperSettings.default : KeeperSettings where
  interval := 60000
  rebalanceCooldown := 300
  stuckAlert := 3600

/-- How the timing is shown in the log. -/
def KeeperSettings.describe (settings : KeeperSettings) : String :=
  "KeeperSettings \x7b interval: " ++ Text.span settings.interval ++ ", rebalance_cooldown: "
    ++ Text.span (1000 * settings.rebalanceCooldown.toNat) ++ ", rebalance_stuck_alert: "
    ++ Text.span (1000 * settings.stuckAlert.toNat) ++ " \x7d"

/-- What came of a step. -/
inductive Outcome where
  | idle (reason : IdleReason)
  | executed (action : Action)
deriving DecidableEq, Repr

namespace Step

/-- Where a message about a target starts. -/
def subject (target : Target) : String :=
  "[" ++ target.vaultName ++ "] strategy " ++ target.strategy.text

/-- What is reported when a strategy has been needing a rebalance for too long. -/
def stuckMessage (target : Target) (age : UInt64) : String :=
  subject target ++ s!" has needed a rebalance for {age}s"

/-- What was done, in a report of success. -/
def describe : Action → String
  | .idle reason => reason.text
  | .rebalance => "range rebalanced"
  | .reduceDebt ⟨step, quotedBy⟩ =>
    "debt reduced (" ++ step.plan.text ++ s!", {step.amount.toNat} of " ++ step.token.text ++ " via "
      ++ quotedBy.getD "no swap" ++ ")"

/-- A report of success with the events of the receipt. -/
def successMessage (target : Target) (action : Action) (receipt : Receipt) : String :=
  let events := target.platform.decodeReceipt target.strategy receipt.logs
  let message := subject target ++ ": " ++ describe action ++ " in tx " ++ receipt.hash.text
  if events.isEmpty then message
  else message ++ " | " ++ ", ".intercalate (events.map Event.text)

/-- A report of failure. -/
def failureMessage (target : Target) (failure : StepFailure) : String :=
  let kind :=
    if failure.isAbandonment then "ESCALATION FAILED, operator attention required"
    else if failure.isRevert then "transaction reverted"
    else "cycle failed"
  subject target ++ ": " ++ kind ++ ": " ++ failure.message

end Step

namespace Task

open Step

/-- Have the calldata of an action delivered and report its success. -/
def send (target : Target) (action : Action) (data : Bytes) :
    Program Task (Except StepFailure Outcome) := do
  match ← deliver target.strategy data with
  | .error failure => pure (.error (.chain failure))
  | .ok receipt =>
    notify (successMessage target action receipt)
    pure (.ok (.executed action))

/-- Carry out an action. -/
def execute (target : Target) (action : Action) : Program Task (Except StepFailure Outcome) :=
  match action with
  | .idle reason => pure (.ok (.idle reason))
  | .rebalance => send target action Contract.rebalanceCalldata
  | .reduceDebt reduction => send target action reduction.calldata

/-- Whether a splitter has paused the strategy of a target. -/
def pauseOf (target : Target) : Program Task (Except Failure Bool) :=
  match target.splitter with
  | none => pure (.ok false)
  | some splitter => isPaused splitter target.strategy

/-- Rebalance the range of a target, unless the cooldown has not elapsed or the strategy is paused:
then the answer is `none`. A rebalance counts for the cooldown whatever comes of it. -/
def rebalance (settings : KeeperSettings) (journal : Journal) (target : Target) (now : UInt64) :
    Program Task (Except StepFailure (Option Outcome) × Journal) :=
  if journal.cooldownElapsed now settings.rebalanceCooldown then do
    match ← pauseOf target with
    | .error failure => pure (.error (.chain failure), journal)
    | .ok true => pure (.ok none, journal)
    | .ok false =>
      let result ← execute target .rebalance
      let finished ← Step.now
      pure (result.map some, journal.recordRebalance finished)
  else pure (.ok none, journal)

/-- Look at the debt of a target. -/
def reduceDebt (target : Target) (position : Position) (now : UInt64) :
    Program Task (Except StepFailure Outcome) := do
  match ← thresholds target.strategy with
  | .error failure => pure (.error (.chain failure))
  | .ok thresholds =>
    match ← Action.resolve target.strategy position thresholds now with
    | .error failure => pure (.error failure)
    | .ok action => execute target action

/-- Rebalance the range of a target where it needs that. -/
def checkRebalance (settings : KeeperSettings) (journal : Journal) (target : Target)
    (position : Position) (now : UInt64) :
    Program Task (Except StepFailure (Option Outcome) × Journal) :=
  if position.needRebalance then rebalance settings journal target now
  else pure (.ok none, journal)

/-- Rebalance the range of a target where it needs that, and look at its debt if nothing came of
it. -/
def serve (settings : KeeperSettings) (journal : Journal) (target : Target) (position : Position)
    (now : UInt64) : Program Task (Except StepFailure Outcome × Journal) := do
  match ← checkRebalance settings journal target position now with
  | (.error failure, journal) => pure (.error failure, journal)
  | (.ok (some outcome), journal) => pure (.ok outcome, journal)
  | (.ok none, journal) =>
    let outcome ← reduceDebt target position now
    pure (outcome, journal)

/-- Note whether a target needs a rebalance, and report it when it has done so for too long. -/
def observe (settings : KeeperSettings) (journal : Journal) (target : Target) (position : Position)
    (now : UInt64) : Program Task Journal := do
  let (age, journal) :=
    journal.observe target.strategy position.needRebalance now settings.stuckAlert
  match age with
  | none => pure ()
  | some age => notify (stuckMessage target age)
  pure journal

/-- One step for one target. -/
def process (settings : KeeperSettings) (journal : Journal) (target : Target) :
    Program Task (Except StepFailure Outcome × Journal) := do
  let now ← Step.now
  match ← position target.strategy with
  | .error failure => pure (.error (.chain failure), journal)
  | .ok position =>
    let journal ← observe settings journal target position now
    serve settings journal target position now

end Task

/-- One step for one target, its deliveries included. -/
def Step.process (courier : Courier) (settings : KeeperSettings) (journal : Journal)
    (target : Target) : Program Step (Except StepFailure Outcome × Journal) :=
  (Task.process settings journal target).interpret (Task.carryOut courier)

end VaultKeeper
