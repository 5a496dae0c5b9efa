import VaultKeeper.Plan

/-! # Positions and the decision to unwind

A position is what one strategy holds at the moment it is read. `Position.decide` looks at nothing
but the position, the thresholds of its strategy and the time; the first gate that is closed gives
the reason for doing nothing.
-/

namespace VaultKeeper

/-- The state of the fuse of one token. -/
inductive Fuse where
  | disabled
  | off
  | onLowerLimit
  | onUpperLimit
deriving DecidableEq, Repr

namespace Fuse

/-- The fuse state with a number on chain. -/
def ofNumber? : Nat → Option Fuse
  | 0 => some disabled
  | 1 => some off
  | 2 => some onLowerLimit
  | 3 => some onUpperLimit
  | _ => none

/-- The name of a fuse state. -/
def name : Fuse → String
  | disabled => "Disabled"
  | off => "Off"
  | onLowerLimit => "OnLowerLimit"
  | onUpperLimit => "OnUpperLimit"

/-- The fuse state with a name. -/
def ofName? (name : String) : Option Fuse :=
  [disabled, off, onLowerLimit, onUpperLimit].find? fun fuse => fuse.name == name

/-- The fuse has tripped on either limit. -/
def isTriggered : Fuse → Bool
  | onLowerLimit | onUpperLimit => true
  | disabled | off => false

end Fuse

/-- A snapshot of one strategy. -/
structure Position where
  tokenA : Address
  tokenB : Address
  fuseA : Fuse
  fuseB : Fuse
  needRebalance : Bool
  /-- The share of the assets that is tied up as collateral and debt, in percent. -/
  lockedPercent : UInt8
  withdrawDone : Bool
  /-- When the range was last rebalanced without swaps, in unix seconds. -/
  lastRebalance : UInt64
  /-- Zero for an empty position. -/
  totalAssets : Word
deriving DecidableEq, Repr

/-- The debt thresholds of one strategy. -/
structure Thresholds where
  /-- At or below this share nothing is done. -/
  delayedPercent : UInt8
  /-- From this share on the delay does not count. -/
  forcedPercent : UInt8
  /-- Seconds since the last rebalance before routine debt reduction. -/
  delay : UInt64
deriving DecidableEq, Repr

/-- Why nothing is sent for a strategy. -/
inductive IdleReason where
  | noAssets
  | rebalanceRequired
  | fuseNothingToUnwind
  | underDelayedThreshold
  | cooldownNotElapsed
  | zeroSwapAmount
deriving DecidableEq, Repr

/-- The wording of a reason. -/
def IdleReason.text : IdleReason → String
  | noAssets => "no assets"
  | rebalanceRequired => "rebalance required first"
  | fuseNothingToUnwind => "fuse active, nothing left to unwind"
  | underDelayedThreshold => "under delayed threshold"
  | cooldownNotElapsed => "cooldown not elapsed"
  | zeroSwapAmount => "zero swap amount"

/-- The name of a reason. -/
def IdleReason.name : IdleReason → String
  | noAssets => "NoAssets"
  | rebalanceRequired => "RebalanceRequired"
  | fuseNothingToUnwind => "FuseNothingToUnwind"
  | underDelayedThreshold => "UnderDelayedThreshold"
  | cooldownNotElapsed => "CooldownNotElapsed"
  | zeroSwapAmount => "ZeroSwapAmount"

/-- The outcome of the gates. -/
inductive Decision where
  | idle (reason : IdleReason)
  | unwind (plan : Plan) (fuseTriggered : Bool)
deriving DecidableEq, Repr

/-- Seconds from `earlier` to `now`, zero if `earlier` lies ahead. -/
def secondsSince (now earlier : UInt64) : UInt64 :=
  if earlier ≤ now then now - earlier else 0

theorem toNat_secondsSince (now earlier : UInt64) :
    (secondsSince now earlier).toNat = now.toNat - earlier.toNat := by
  unfold secondsSince
  split
  · rename_i ordered
    exact UInt64.toNat_sub_of_le _ _ ordered
  · rename_i ahead
    rw [UInt64.le_iff_toNat_le] at ahead
    show 0 = _
    omega

namespace Position

/-- One of the two fuses has tripped. -/
def fuseTriggered (position : Position) : Bool :=
  position.fuseA.isTriggered || position.fuseB.isTriggered

/-- The other token of the pair. -/
def counterpart (position : Position) (token : Address) : Address :=
  if token = position.tokenA then position.tokenB else position.tokenA

/-- The locked share in percent: the hundredfold of what is locked, at most the largest word,
divided by the total, and at most 100. Zero if there are no assets. -/
def percentLocked (locked total : Word) : UInt8 :=
  if total.toNat = 0 then 0
  else UInt8.ofNat (min 100 (min (locked.toNat * 100) (BitVec.allOnes 256).toNat / total.toNat))

/-- Apply the gates in their order. -/
def decide (position : Position) (thresholds : Thresholds) (now : UInt64) : Decision :=
  let fuse := position.fuseTriggered
  if position.totalAssets = 0 then .idle .noAssets
  else if position.needRebalance then .idle .rebalanceRequired
  else if fuse then
    if position.lockedPercent = 0 && position.withdrawDone then .idle .fuseNothingToUnwind
    else .unwind .swapRepay true
  else if position.lockedPercent ≤ thresholds.delayedPercent then .idle .underDelayedThreshold
  else if position.lockedPercent < thresholds.forcedPercent
      && secondsSince now position.lastRebalance < thresholds.delay then .idle .cooldownNotElapsed
  else .unwind .repaySwapRepay false

end Position

end VaultKeeper
