import VaultKeeper.Keeper.Step
import VaultKeeper.Text.Basic

/-! # Cycles over all vaults

A cycle finds the strategies of each vault in turn and makes one step for each of them. What fails
is counted, reported and left behind. A request to stop is looked at before each vault and before
each step, never within one.
-/

namespace VaultKeeper

/-- The counts of one cycle. -/
structure Tally where
  cycle : UInt64
  vaults : Nat
  processed : Nat
  rebalanced : Nat
  reducedDebt : Nat
  idle : Nat
  failed : Nat
deriving DecidableEq, Repr

namespace Tally

/-- Nothing counted yet. -/
def start (cycle : UInt64) : Tally :=
  ⟨cycle, 0, 0, 0, 0, 0, 0⟩

/-- Count what came of a step. -/
def record (tally : Tally) : Outcome → Tally
  | .idle _ | .executed (.idle _) => { tally with idle := tally.idle + 1 }
  | .executed .rebalance => { tally with rebalanced := tally.rebalanced + 1 }
  | .executed (.reduceDebt _) => { tally with reducedDebt := tally.reducedDebt + 1 }

/-- Count a failure. -/
def fail (tally : Tally) : Tally :=
  { tally with failed := tally.failed + 1 }

/-- The transactions that were carried out. -/
def acted (tally : Tally) : Nat :=
  tally.rebalanced + tally.reducedDebt

end Tally

namespace Cycle

/-- The calls that the keeper makes. -/
inductive Call where
  | step (call : Step.Call)
  | registry (call : Registry.Call)
  | timer (call : Timer.Call)
  /-- A cycle is over. -/
  | report (tally : Tally)
deriving DecidableEq, Repr

end Cycle

/-- The surroundings of the keeper. -/
abbrev Cycle : Interface where
  Call := Cycle.Call
  Answer
    | .step call => Step.Answer call
    | .registry call => Registry.Answer call
    | .timer call => Timer.Answer call
    | .report _ => Unit

/-- The keeper: what it delivers with, its timing and its vaults. -/
structure Keeper where
  courier : Courier
  settings : KeeperSettings
  vaults : List Vault

namespace Cycle

/-- A step as part of a cycle. -/
def ofStep {α : Type} (program : Program Step α) : Program Cycle α :=
  program.interpret fun call => Program.ask (I := Cycle) (.step call)

/-- Finding strategies as part of a cycle. -/
def ofRegistry {α : Type} (program : Program Registry α) : Program Cycle α :=
  program.interpret fun call => Program.ask (I := Cycle) (.registry call)

/-- Waiting as part of a run. -/
def ofTimer {α : Type} (program : Program Timer α) : Program Cycle α :=
  program.interpret fun call => Program.ask (I := Cycle) (.timer call)

/-- Was the keeper asked to stop? -/
def stopRequested : Program Cycle Bool :=
  Program.ask (I := Cycle) (.timer .stopRequested)

/-- Report the counts of a cycle. -/
def report (tally : Tally) : Program Cycle Unit :=
  Program.ask (I := Cycle) (.report tally)

/-- What is reported when the strategies of a vault could not be found. -/
def discoveryMessage (vault : Vault) (failure : Failure) : String :=
  "[" ++ vault.name ++ "] strategy discovery failed: " ++ failure.message

/-- What a cycle passes on from step to step. -/
structure State where
  tally : Tally
  journal : Journal
deriving DecidableEq, Repr

/-- One step with its count; a failure is reported. -/
def process (keeper : Keeper) (state : State) (target : Target) : Program Step State := do
  let tally := { state.tally with processed := state.tally.processed + 1 }
  let (result, journal) ← Step.process keeper.courier keeper.settings state.journal target
  match result with
  | .ok outcome => pure ⟨tally.record outcome, journal⟩
  | .error failure =>
    Step.notify (Step.failureMessage target failure)
    pure ⟨tally.fail, journal⟩

/-- Steps for the targets of a vault; the answer tells whether the keeper was asked to stop. -/
def processAll (keeper : Keeper) (state : State) :
    (targets : List Target) → Program Cycle (Bool × State)
  | [] => pure (false, state)
  | target :: rest => do
    if ← stopRequested then pure (true, state)
    else
      let state ← ofStep (process keeper state target)
      processAll keeper state rest

/-- All vaults in their order. -/
def visitAll (keeper : Keeper) (state : State) : (vaults : List Vault) → Program Cycle State
  | [] => pure state
  | vault :: rest => do
    if ← stopRequested then pure state
    else
      match ← ofRegistry vault.discover with
      | .error failure =>
        ofStep (Step.notify (discoveryMessage vault failure))
        visitAll keeper { state with tally := state.tally.fail } rest
      | .ok targets =>
        let found := { state.tally with vaults := state.tally.vaults + 1 }
        let (stopped, state) ← processAll keeper { state with tally := found } targets
        if stopped then pure state else visitAll keeper state rest

end Cycle

namespace Keeper

/-- How the keeper is shown in the log, given the names of its quote providers. -/
def describe (keeper : Keeper) (providers : List String) : String :=
  s!"Keeper \x7b vaults: {keeper.vaults.length}, providers: "
    ++ Text.bracketed (providers.map Text.quoted) ++ ", settings: " ++ keeper.settings.describe
    ++ ", .. \x7d"

/-- One cycle. -/
def cycle (keeper : Keeper) (journal : Journal) : Program Cycle (Tally × Journal) := do
  let journal := journal.beginCycle
  let state ← Cycle.visitAll keeper ⟨Tally.start journal.cycle, journal⟩ keeper.vaults
  pure (state.tally, state.journal)

/-- Cycles one interval apart until a stop is requested, `limit` of them at most; the answer lists
their tallies. -/
def runFrom (keeper : Keeper) : (limit : Nat) → Poller → Journal → Program Cycle (List Tally)
  | 0, _, _ => pure []
  | limit + 1, poller, journal => do
    match ← Cycle.ofTimer poller.tick with
    | (.attempt _, poller) =>
      let (tally, journal) ← keeper.cycle journal
      Cycle.report tally
      let rest ← keeper.runFrom limit poller journal
      pure (tally :: rest)
    | (.exhausted, _) | (.cancelled, _) => pure []

/-- Run until a stop is requested, with a journal of its own. -/
def run (keeper : Keeper) (limit : Nat) : Program Cycle (List Tally) :=
  keeper.runFrom limit (Poller.start ⟨keeper.settings.interval, none⟩) Journal.empty

end Keeper

end VaultKeeper
