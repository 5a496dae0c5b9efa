import VaultKeeper.Program
import VaultKeeper.Text.Basic

/-! # Polling

`Poller` is the state machine behind every repeated check: the first attempt comes at once, each
later one after an interval, until a limit is reached or a stop is requested. `pollUntil` is the
loop over it for a check that nobody interrupts.
-/

namespace VaultKeeper

/-- How often to check and when to give up. -/
structure PollPolicy where
  /-- Milliseconds between two attempts. -/
  interval : Nat
  /-- Without a limit, polling goes on until a stop is requested. -/
  maxAttempts : Option UInt32
deriving DecidableEq, Repr

/-- How a policy is shown in the log. -/
def PollPolicy.describe (policy : PollPolicy) : String :=
  let limit := match policy.maxAttempts with
    | none => "None"
    | some limit => s!"Some({limit})"
  "PollPolicy \x7b interval: " ++ Text.span policy.interval ++ ", max_attempts: " ++ limit
    ++ " \x7d"

/-- What a tick leads to. -/
inductive PollStep where
  /-- Check now; attempts are counted from 1. -/
  | attempt (number : UInt32)
  | exhausted
  | cancelled
deriving DecidableEq, Repr

/-- The state of polling: how many attempts were made. -/
structure Poller where
  policy : PollPolicy
  attempts : UInt32
deriving DecidableEq, Repr

namespace Timer

/-- What a poller needs from outside. -/
inductive Call where
  | stopRequested
  | sleep (milliseconds : Nat)
deriving DecidableEq, Repr

end Timer

/-- A clock that can be interrupted: `sleep` answers whether the whole span went by. -/
abbrev Timer : Interface where
  Call := Timer.Call
  Answer
    | .stopRequested => Bool
    | .sleep _ => Bool

namespace Poller

/-- A poller before its first attempt. -/
def start (policy : PollPolicy) : Poller :=
  ⟨policy, 0⟩

/-- The limit is reached. -/
def isExhausted (poller : Poller) : Bool :=
  match poller.policy.maxAttempts with
  | none => false
  | some limit => limit ≤ poller.attempts

/-- Count one attempt. -/
def count (poller : Poller) : PollStep × Poller :=
  let number := poller.attempts + 1
  (.attempt number, { poller with attempts := number })

/-- Advance to the next attempt: a request to stop comes before the limit, and the limit before the
wait. A wait that is cut short is no attempt. -/
def tick (poller : Poller) : Program Timer (PollStep × Poller) := do
  let stopped : Bool ← Program.ask (I := Timer) .stopRequested
  if stopped then pure (.cancelled, poller)
  else if poller.isExhausted then pure (.exhausted, poller)
  else if poller.attempts = 0 then pure poller.count
  else do
    let completed : Bool ← Program.ask (I := Timer) (.sleep poller.policy.interval)
    pure (if completed then poller.count else (.cancelled, poller))

end Poller

/-- Make up to `rounds` checks with a wait between two of them, until one finds something. -/
def pollUntil {I : Interface} {α : Type} (wait : Program I Unit) (check : Program I (Option α)) :
    (rounds : Nat) → Program I (Option α)
  | 0 => pure none
  | 1 => check
  | rounds + 2 => do
    match ← check with
    | some found => pure (some found)
    | none =>
      wait
      pollUntil wait check (rounds + 1)

end VaultKeeper
