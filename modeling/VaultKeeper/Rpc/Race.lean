import VaultKeeper.Retry
import VaultKeeper.Rpc.Basic

/-! # Calls made at the same time

Several retried calls run side by side, and the first one that fails for good ends them all. A call
takes no time unless it is left without an answer; then it takes its whole deadline. Of the calls
that are due, the one with the least time behind it comes first, then the one with fewer attempts,
then the one that was listed first.
-/

namespace VaultKeeper.Rpc

/-- One of several calls: its attempt, what is behind it, and its value once it has one. -/
structure Lane (α : Type) where
  attempt : Program Node (Except Failure α)
  /-- Attempts made so far. -/
  made : Nat
  /-- Milliseconds spent without an answer. -/
  elapsed : Nat
  value : Option α

namespace Lane

variable {α : Type}

/-- A call before its first attempt. -/
def start (attempt : Program Node (Except Failure α)) : Lane α :=
  ⟨attempt, 0, 0, none⟩

/-- Is `a` to be served before `b`, which was listed before it? -/
def precedes (a b : Lane α) : Bool :=
  decide (a.elapsed < b.elapsed) || (a.elapsed == b.elapsed && decide (a.made < b.made))

/-- The place of the lane to be served next, if one of them has no value yet; `best` is the choice
among those before `place`. -/
def nextFrom :
    (place : Nat) → (best : Option (Nat × Lane α)) → List (Lane α) → Option (Nat × Lane α)
  | _, best, [] => best
  | place, best, lane :: rest =>
    let chosen := match lane.value, best with
      | some _, _ => best
      | none, none => some (place, lane)
      | none, some (other, leader) =>
        if lane.precedes leader then some (place, lane) else some (other, leader)
    nextFrom (place + 1) chosen rest

/-- The milliseconds that an outcome took. -/
def duration : Except Failure α → Nat
  | .error (.timeout _ elapsed) => elapsed
  | _ => 0

end Lane

/-- Serve the lanes in turn until all have a value or one has failed for good; `rounds` bounds the
attempts of all lanes together. -/
def raceFrom {α : Type} (policy : RetryPolicy) :
    (rounds : Nat) → List (Lane α) → Program Node (Except Failure (List α))
  | 0, lanes => pure (.ok (lanes.filterMap Lane.value))
  | rounds + 1, lanes => do
    match Lane.nextFrom 0 none lanes with
    | none => pure (.ok (lanes.filterMap Lane.value))
    | some (place, lane) =>
      let outcome ← lane.attempt
      let made := lane.made + 1
      match outcome with
      | .ok value => raceFrom policy rounds (lanes.set place { lane with value := some value })
      | .error failure =>
        if failure.isTransient && decide (made < policy.attempts) then do
          Node.sleep (policy.delayAfter made)
          let elapsed := lane.elapsed + Lane.duration outcome
          raceFrom policy rounds (lanes.set place { lane with made, elapsed })
        else pure (.error failure)

/-- Run retried calls at the same time; their values are in the order of the calls. -/
def race {α : Type} (policy : RetryPolicy) (attempts : List (Program Node (Except Failure α))) :
    Program Node (Except Failure (List α)) :=
  raceFrom policy (attempts.length * policy.attempts) (attempts.map Lane.start)

end VaultKeeper.Rpc
