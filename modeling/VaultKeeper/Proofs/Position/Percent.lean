import VaultKeeper.Position

/-! # The share that is locked

A percentage is taken of a product that stops at the largest word. Where a hundredfold of what is
locked fits into a word the share is exact. Beyond that it never comes out too large, but it comes
out too small for totals whose hundredfold does not fit either: there it no longer depends on what
is locked, and even a position that is locked as a whole shows less than 100.
-/

namespace VaultKeeper.Position

/-- The largest word. -/
def ceiling : Nat := (BitVec.allOnes 256).toNat

/-- The locked share in whole percent and at most 100, computed without any bound on the way. -/
def exactPercent (locked total : Word) : Nat :=
  if total.toNat = 0 then 0 else Nat.min 100 (100 * locked.toNat / total.toNat)

section

variable {locked more total : Word}

theorem percentLocked_of_empty (empty : total.toNat = 0) : (percentLocked locked total).toNat = 0 := by
  rw [percentLocked, if_pos empty]
  rfl

/-- The share of a position with assets, as a number. -/
theorem toNat_percentLocked (assets : total.toNat ≠ 0) :
    (percentLocked locked total).toNat =
      Nat.min 100 (Nat.min (100 * locked.toNat) ceiling / total.toNat) := by
  have small (share : Nat) : (UInt8.ofNat (Nat.min 100 share)).toNat = Nat.min 100 share := by
    have bound : Nat.min 100 share ≤ 100 := Nat.min_le_left _ _
    exact UInt8.toNat_ofNat_of_lt' (Nat.lt_of_le_of_lt bound (by decide))
  rw [percentLocked, if_neg assets, Nat.mul_comm locked.toNat]
  exact small _

theorem exactPercent_of_assets (assets : total.toNat ≠ 0) :
    exactPercent locked total = Nat.min 100 (100 * locked.toNat / total.toNat) :=
  if_neg assets

/-- Stopping at the largest word can only lower a share. -/
theorem percentLocked_le_exactPercent :
    (percentLocked locked total).toNat ≤ exactPercent locked total := by
  by_cases empty : total.toNat = 0
  · rw [percentLocked_of_empty empty]
    exact Nat.zero_le _
  · rw [toNat_percentLocked empty, exactPercent_of_assets empty]
    have lowered : Nat.min (100 * locked.toNat) ceiling / total.toNat ≤
        100 * locked.toNat / total.toNat := Nat.div_le_div_right (Nat.min_le_left _ _)
    exact Nat.le_min.mpr ⟨Nat.min_le_left _ _, Nat.le_trans (Nat.min_le_right _ _) lowered⟩

/-- The share grows with what is locked. -/
theorem percentLocked_mono (grows : locked.toNat ≤ more.toNat) :
    (percentLocked locked total).toNat ≤ (percentLocked more total).toNat := by
  by_cases empty : total.toNat = 0
  · rw [percentLocked_of_empty empty]
    exact Nat.zero_le _
  · rw [toNat_percentLocked empty, toNat_percentLocked empty]
    have product : Nat.min (100 * locked.toNat) ceiling ≤ Nat.min (100 * more.toNat) ceiling := by
      have larger : 100 * locked.toNat ≤ 100 * more.toNat := Nat.mul_le_mul_left _ grows
      exact Nat.le_min.mpr ⟨Nat.le_trans (Nat.min_le_left _ _) larger, Nat.min_le_right _ _⟩
    have quotient := Nat.div_le_div_right (c := total.toNat) product
    exact Nat.le_min.mpr ⟨Nat.min_le_left _ _, Nat.le_trans (Nat.min_le_right _ _) quotient⟩

/-- A product that fits into a word is divided as it is. -/
theorem percentLocked_of_fits (fits : 100 * locked.toNat ≤ ceiling) :
    (percentLocked locked total).toNat = exactPercent locked total := by
  by_cases empty : total.toNat = 0
  · rw [percentLocked_of_empty empty, exactPercent, if_pos empty]
  · have whole : Nat.min (100 * locked.toNat) ceiling = 100 * locked.toNat := Nat.min_eq_left fits
    rw [toNat_percentLocked empty, exactPercent_of_assets empty, whole]

/-- A product that does not fit comes to the same as the largest word. -/
theorem percentLocked_of_saturated (assets : total.toNat ≠ 0)
    (saturated : ceiling < 100 * locked.toNat) :
    (percentLocked locked total).toNat = Nat.min 100 (ceiling / total.toNat) := by
  have stopped : Nat.min (100 * locked.toNat) ceiling = ceiling :=
    Nat.min_eq_right (Nat.le_of_lt saturated)
  rw [toNat_percentLocked assets, stopped]

/-- The largest word still is a hundredfold of totals whose own hundredfold fits, and of no
others. -/
theorem hundred_le_ceiling_div_iff (assets : total.toNat ≠ 0) :
    100 ≤ ceiling / total.toNat ↔ 100 * total.toNat ≤ ceiling :=
  Nat.le_div_iff_mul_le (Nat.pos_of_ne_zero assets)

/-- The share of a position that is locked as a whole comes out as 100 exactly if a hundredfold of
the total fits into a word. -/
theorem percentLocked_eq_hundred_iff (assets : total.toNat ≠ 0)
    (whole : total.toNat ≤ locked.toNat) :
    (percentLocked locked total).toNat = 100 ↔ 100 * total.toNat ≤ ceiling := by
  have product : 100 * total.toNat ≤ 100 * locked.toNat := Nat.mul_le_mul_left _ whole
  by_cases fits : 100 * locked.toNat ≤ ceiling
  · have quotient : 100 ≤ 100 * locked.toNat / total.toNat :=
      (Nat.le_div_iff_mul_le (Nat.pos_of_ne_zero assets)).mpr product
    have capped : Nat.min 100 (100 * locked.toNat / total.toNat) = 100 := Nat.min_eq_left quotient
    rw [percentLocked_of_fits fits, exactPercent_of_assets assets, capped]
    exact iff_of_true rfl (Nat.le_trans product fits)
  · rw [percentLocked_of_saturated assets (Nat.not_le.mp fits), ← hundred_le_ceiling_div_iff assets]
    constructor
    · intro capped
      have below : Nat.min 100 (ceiling / total.toNat) ≤ ceiling / total.toNat :=
        Nat.min_le_right _ _
      rwa [capped] at below
    · exact Nat.min_eq_left

end

/-- The share is exact unless the hundredfold of what is locked and the hundredfold of the total both
exceed the largest word. There the largest word is divided instead, so that the share is never too
large, but 100 for no position at all. It always grows with what is locked. -/
theorem percentLocked_saturates (locked total : Word) :
    (percentLocked locked total).toNat =
        (if ceiling < 100 * locked.toNat ∧ ceiling < 100 * total.toNat then ceiling / total.toNat
          else exactPercent locked total) ∧
      (percentLocked locked total).toNat ≤ exactPercent locked total ∧
      (total.toNat ≠ 0 → total.toNat ≤ locked.toNat →
        ((percentLocked locked total).toNat = 100 ↔ 100 * total.toNat ≤ ceiling)) ∧
      ∀ more : Word, locked.toNat ≤ more.toNat →
        (percentLocked locked total).toNat ≤ (percentLocked more total).toNat := by
  refine ⟨?_, percentLocked_le_exactPercent, percentLocked_eq_hundred_iff,
    fun more grows => percentLocked_mono grows⟩
  by_cases fits : 100 * locked.toNat ≤ ceiling
  · rw [if_neg fun beyond => Nat.not_lt.mpr fits beyond.1, percentLocked_of_fits fits]
  have saturated : ceiling < 100 * locked.toNat := Nat.not_le.mp fits
  by_cases assets : total.toNat = 0
  · rw [if_neg (by omega), percentLocked_of_empty assets, exactPercent, if_pos assets]
  rw [percentLocked_of_saturated assets saturated]
  split
  · next beyond =>
    have short : ¬100 ≤ ceiling / total.toNat := by
      rw [hundred_le_ceiling_div_iff assets]
      exact Nat.not_le.mpr beyond.2
    exact Nat.min_eq_right (by omega)
  · next within =>
    have roomy : 100 * total.toNat ≤ ceiling := by omega
    -- both quotients are 100 or more here, so neither of them shows
    have quotient := (hundred_le_ceiling_div_iff assets).mpr roomy
    have larger : ceiling / total.toNat ≤ 100 * locked.toNat / total.toNat :=
      Nat.div_le_div_right (Nat.le_of_lt saturated)
    have left : Nat.min 100 (ceiling / total.toNat) = 100 := Nat.min_eq_left quotient
    have right : Nat.min 100 (100 * locked.toNat / total.toNat) = 100 :=
      Nat.min_eq_left (Nat.le_trans quotient larger)
    rw [left, exactPercent_of_assets assets, right]

/-- Of the largest total there is, all of it shows as one percent. -/
theorem percentLocked_saturates_whole :
    (percentLocked (BitVec.allOnes 256) (BitVec.allOnes 256)).toNat = 1 ∧
      exactPercent (BitVec.allOnes 256) (BitVec.allOnes 256) = 100 ∧
      (percentLocked (BitVec.allOnes 256) (BitVec.allOnes 256)).toNat ≠ 100 := by
  obtain ⟨share, -, whole, -⟩ :=
    percentLocked_saturates (BitVec.allOnes 256) (BitVec.allOnes 256)
  have full := whole (by decide) (Nat.le_refl _)
  refine ⟨share.trans (by decide), by decide, fun hundred => ?_⟩
  exact absurd (full.mp hundred) (by decide)

end VaultKeeper.Position
