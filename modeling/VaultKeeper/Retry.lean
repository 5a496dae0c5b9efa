import VaultKeeper.Failure
import VaultKeeper.Program

/-! # Repeating failed calls

A call that failed in a way that may pass is repeated after a delay that doubles each time, up to a
given number of attempts. A call without an answer is cut off at its deadline.
-/

namespace VaultKeeper

/-- How often a call is made and how long to wait after a failure. -/
structure RetryPolicy where
  /-- Attempts in all, at least one. -/
  attempts : Nat
  /-- Milliseconds before the second attempt. -/
  baseDelay : Nat
deriving DecidableEq, Repr

namespace RetryPolicy

/-- A policy with at least one attempt. -/
def ofAttempts (attempts baseDelay : Nat) : RetryPolicy :=
  ⟨max attempts 1, baseDelay⟩

/-- Milliseconds to wait after a failed attempt, counted from 1: twice as long each time, until the
sixteenth doubling. -/
def delayAfter (policy : RetryPolicy) (attempt : Nat) : Nat :=
  policy.baseDelay <<< min (attempt - 1) 16

end RetryPolicy

/-- Attempt `made + 1` and, while `left` further ones remain, those after it. -/
def retryFrom {I : Interface} {α : Type} (sleep : Nat → Program I Unit)
    (attempt : Program I (Except Failure α)) (policy : RetryPolicy) :
    (left : Nat) → (made : Nat) → Program I (Except Failure α)
  | 0, _ => attempt
  | left + 1, made => do
    match ← attempt with
    | .ok value => pure (.ok value)
    | .error failure =>
      if failure.isTransient then do
        sleep (policy.delayAfter (made + 1))
        retryFrom sleep attempt policy left (made + 1)
      else pure (.error failure)

/-- Repeat a call while its failures are transient and attempts remain; the last outcome is
returned. -/
def retry {I : Interface} {α : Type} (sleep : Nat → Program I Unit)
    (attempt : Program I (Except Failure α)) (policy : RetryPolicy) :
    Program I (Except Failure α) :=
  retryFrom sleep attempt policy (policy.attempts - 1) 0

/-- The outcome of a call that takes `takes` milliseconds under a deadline. -/
def underDeadline {α : Type} (operation : String) (limit takes : Nat) (outcome : Except Failure α) :
    Except Failure α :=
  if limit < takes then .error (.timeout operation limit) else outcome

end VaultKeeper
