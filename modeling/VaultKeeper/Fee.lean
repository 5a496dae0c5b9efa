import VaultKeeper.Bytes
import VaultKeeper.Decimal.Nearest

/-! # Fees and their escalation

A transaction offers either one price or a maximum fee with a tip. Replacing a stuck transaction
needs a higher offer, so escalation at least doubles it, and takes a multiple of the network's price
where that is more.
-/

namespace VaultKeeper

/-- The fee that a transaction offers for one unit of gas. -/
inductive Fee where
  | legacy (price : Wei)
  /-- `baseFee` is the base fee seen when the offer was made. -/
  | dynamic (maxFee tip baseFee : Wei)
deriving DecidableEq, Repr

namespace Wei

/-- An amount as a floating-point number. -/
def toFloat (amount : Wei) : Float :=
  Decimal.ofNat amount.toNat

/-- The integer part of a number, between zero and the largest amount. -/
def ofFloat (x : Float) : Wei :=
  BitVec.ofNat 128 (Decimal.truncate (BitVec.allOnes 128).toNat x)

/-- The larger of two amounts. -/
def max (a b : Wei) : Wei :=
  if a.toNat ≤ b.toNat then b else a

/-- The smaller of two amounts. -/
def min (a b : Wei) : Wei :=
  if a.toNat ≤ b.toNat then a else b

/-- An amount given in gwei. -/
def ofGwei (gwei : Float) : Wei :=
  ofFloat (gwei * 1e9)

/-- A multiple of an amount; a multiplier that is not positive counts as zero. -/
def scale (amount : Wei) (multiplier : Float) : Wei :=
  ofFloat (amount.toFloat * (if 0 < multiplier then multiplier else 0))

end Wei

namespace Fee

/-- The price that decides whether a transaction replaces another. -/
def effective : Fee → Wei
  | legacy price => price
  | dynamic maxFee _ _ => maxFee

/-- The effective price in gwei. -/
def gwei (fee : Fee) : Float :=
  fee.effective.toFloat / 1e9

/-- The offer for a replacement: twice the last one, or the network's price times the multiplier if
that is more. The tip doubles too, but stays within the maximum fee. -/
def escalate (fee : Fee) (network : Wei) (multiplier : Float) : Fee :=
  let scaled := network.scale multiplier
  match fee with
  | legacy price => legacy (price.double.max scaled)
  | dynamic maxFee tip baseFee =>
    let raised := maxFee.double.max scaled
    dynamic raised (tip.double.min raised) baseFee

end Fee

/-- The fee fields of a transaction that is being put together. -/
structure FeeFields where
  gasPrice : Option Wei
  maxFee : Option Wei
  tip : Option Wei
deriving DecidableEq, Repr

end VaultKeeper
