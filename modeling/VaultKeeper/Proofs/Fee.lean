import VaultKeeper.Fee

/-! # Offers that outbid others

Escalation answers an offer with one that outbids it: at least twice the price and exactly twice the
tip, under the same pricing model. The network's price only ever adds to that. Nothing here looks
into its multiple, so everything holds of every multiplier, those included that are no numbers.
-/

namespace VaultKeeper

namespace Wei

theorem toNat_double (fee : Wei) :
    fee.double.toNat =
      if 2 * fee.toNat ≤ (BitVec.allOnes 128).toNat then 2 * fee.toNat
      else (BitVec.allOnes 128).toNat := by
  rw [double, BitVec.toNat_ofNat, BitVec.toNat_allOnes]
  split <;> omega

theorem le_toNat_double (fee : Wei) : fee.toNat ≤ fee.double.toNat := by
  have bound := fee.isLt
  rw [toNat_double, BitVec.toNat_allOnes]
  split <;> omega

theorem toNat_double_le {small large : Wei} (ordered : small.toNat ≤ large.toNat) :
    small.double.toNat ≤ large.double.toNat := by
  rw [toNat_double, toNat_double]
  split <;> split <;> omega

theorem toNat_min (first second : Wei) :
    (first.min second).toNat = Min.min first.toNat second.toNat := by
  rw [min, Nat.min_def]
  split
  · rfl
  · rfl

theorem toNat_max (first second : Wei) :
    (first.max second).toNat = Max.max first.toNat second.toNat := by
  rw [max, Nat.max_def]
  split
  · rfl
  · rfl

theorem le_toNat_max (first second : Wei) : first.toNat ≤ (first.max second).toNat := by
  rw [toNat_max]
  exact Nat.le_max_left _ _

theorem min_eq_left {small large : Wei} (ordered : small.toNat ≤ large.toNat) :
    small.min large = small :=
  if_pos ordered

theorem toNat_min_le_right (first second : Wei) : (first.min second).toNat ≤ second.toNat := by
  unfold min
  split
  · assumption
  · exact Nat.le_refl _

end Wei

namespace Fee

/-- The tip of an offer; an offer of one price has none. -/
def tip : Fee → Wei
  | legacy _ => 0
  | dynamic _ tip _ => tip

/-- The tip stays within the maximum fee. -/
def TipFits (fee : Fee) : Prop :=
  fee.tip.toNat ≤ fee.effective.toNat

/-- Neither the price nor the tip is lower than in another offer. -/
structure AtLeast (fee floor : Fee) : Prop where
  price : floor.effective.toNat ≤ fee.effective.toNat
  tip : floor.tip.toNat ≤ fee.tip.toNat

/-- An offer outbids another one if it raises the price to twice as much or more, and the tip to
twice as much, as far as amounts go. The pricing model stays the same, and so does the base fee that
was seen. -/
inductive Outbids : Fee → Fee → Prop
  | legacy {price raised : Wei} (doubled : price.double.toNat ≤ raised.toNat) :
      Outbids (.legacy raised) (.legacy price)
  | dynamic {maxFee raised tip baseFee : Wei} (doubled : maxFee.double.toNat ≤ raised.toNat)
      (fits : tip.double.toNat ≤ raised.toNat) :
      Outbids (.dynamic raised tip.double baseFee) (.dynamic maxFee tip baseFee)

variable {fee floor last : Fee}

theorem AtLeast.refl (fee : Fee) : fee.AtLeast fee :=
  ⟨Nat.le_refl _, Nat.le_refl _⟩

theorem AtLeast.trans (upper : fee.AtLeast last) (lower : last.AtLeast floor) :
    fee.AtLeast floor :=
  ⟨Nat.le_trans lower.price upper.price, Nat.le_trans lower.tip upper.tip⟩

namespace Outbids

theorem tipFits (outbids : fee.Outbids last) : fee.TipFits := by
  cases outbids with
  | legacy => exact Nat.zero_le _
  | dynamic _ fits => exact fits

theorem atLeast (outbids : fee.Outbids last) : fee.AtLeast last := by
  cases outbids with
  | legacy doubled => exact ⟨Nat.le_trans (Wei.le_toNat_double _) doubled, Nat.le_refl _⟩
  | dynamic doubled =>
    exact ⟨Nat.le_trans (Wei.le_toNat_double _) doubled, Wei.le_toNat_double _⟩

end Outbids

/-- A replacement outbids the offer that it was made from, whatever the network asks for. -/
theorem escalate_outbids (fits : fee.TipFits) (network : Wei) (multiplier : Float) :
    (fee.escalate network multiplier).Outbids fee := by
  cases fee with
  | legacy price => exact .legacy (Wei.le_toNat_max _ _)
  | dynamic maxFee tip baseFee =>
    have doubled := Wei.le_toNat_max maxFee.double (network.scale multiplier)
    have within : tip.double.toNat ≤ (maxFee.double.max (network.scale multiplier)).toNat :=
      Nat.le_trans (Wei.toNat_double_le fits) doubled
    simp only [escalate, Wei.min_eq_left within]
    exact .dynamic doubled within

end Fee

end VaultKeeper
