import VaultKeeper.Bytes

/-! # A clock that is moved by hand

Time stands still except where it is moved: by waiting, which takes no time of its own, or without
waiting. Milliseconds are counted in 64 bits.
-/

namespace VaultKeeper

/-- The time in milliseconds, and the waits so far, oldest first. -/
structure ManualClock where
  milliseconds : UInt64
  sleeps : List Nat
deriving DecidableEq, Repr

namespace ManualClock

/-- A clock that starts at a time in unix seconds; a time that does not fit is the largest one. -/
def start (seconds : UInt64) : ManualClock :=
  ⟨UInt64.ofNat (min (seconds.toNat * 1000) (UInt64.size - 1)), []⟩

/-- The time in unix seconds. -/
def now (clock : ManualClock) : UInt64 :=
  clock.milliseconds / 1000

/-- Move the clock. -/
def advance (clock : ManualClock) (milliseconds : Nat) : ManualClock :=
  { clock with milliseconds := clock.milliseconds + UInt64.ofNat milliseconds }

/-- Wait. -/
def sleep (clock : ManualClock) (milliseconds : Nat) : ManualClock :=
  { clock.advance milliseconds with sleeps := clock.sleeps ++ [milliseconds] }

end ManualClock

end VaultKeeper
