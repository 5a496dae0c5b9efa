import Mathlib.Algebra.Group.Nat.Defs
import VaultKeeper.Fee

/-! # Twice a number

The float nearest to a natural number keeps 53 leading bits of it. Doubling that float adds one to
its exponent and rounds nothing, so that the integer part of the result is exactly twice the number
that the 53 bits stand for. Everything is proved of the bit patterns themselves.
-/

namespace VaultKeeper.Decimal

open Float.Model.UnpackedFloat
open Float.Model (Format totalExponent)

/-- The number `significand · 2 ^ exponent` is a normal float. -/
structure Normal (significand : Nat) (exponent : Int) : Prop where
  low : 1 <<< 52 ≤ significand
  high : significand < 1 <<< 53
  least : -1074 ≤ exponent
  greatest : exponent ≤ 971

section

variable {significand : Nat} {exponent : Int}

theorem Normal.positive (normal : Normal significand exponent) : 0 < significand :=
  Nat.lt_of_lt_of_le (by decide) normal.low

/-- The bit pattern of a normal float. -/
def pattern (significand : Nat) (exponent : Int) : BitVec 64 :=
  packComponents Format.binary64 .positive (BitVec.ofNat 11 (exponent + 1075).toNat)
    (BitVec.ofNat 52 significand)

theorem unpackSign_packComponents {format : Format} {sign : Sign}
    {biased : BitVec format.exponentBits} {fraction : BitVec format.mantissaBitsWithoutImplicit} :
    unpackSign (packComponents format sign biased fraction) = sign.toBitVec := by
  ext i hi
  have first : i = 0 := by omega
  subst first
  delta unpackSign
  simp [packComponents, BitVec.getLsbD_append, BitVec.getElem_append]

/-- The leading bit of a significand is not stored; it adds one to the exponent field instead. -/
theorem toNat_pattern (normal : Normal significand exponent) :
    (pattern significand exponent).toNat = ((exponent + 1074).toNat <<< 52) + significand := by
  obtain ⟨low, high, least, greatest⟩ := normal
  have fraction : significand % 2 ^ 52 < 2 ^ 52 := Nat.mod_lt _ (by decide)
  have same : (pattern significand exponent).toNat =
      (0 <<< 11 ||| (exponent + 1075).toNat % 2 ^ 11) <<< 52 ||| significand % 2 ^ 52 := rfl
  rw [same, Nat.zero_shiftLeft, Nat.zero_or, ← Nat.shiftLeft_add_eq_or_of_lt fraction]
  omega

theorem unpack_pattern (normal : Normal significand exponent) :
    unpack Format.binary64 (pattern significand exponent) =
      .finite .positive significand exponent normal.positive := by
  obtain ⟨low, high, least, greatest⟩ := normal
  have biased : (BitVec.ofNat 11 (exponent + 1075).toNat).toNat = (exponent + 1075).toNat := by
    rw [BitVec.toNat_ofNat]
    exact Nat.mod_eq_of_lt (by omega)
  have nonzero : BitVec.ofNat 11 (exponent + 1075).toNat ≠ 0#11 := by
    intro zero
    rw [zero, BitVec.toNat_zero] at biased
    omega
  have bounded : BitVec.ofNat 11 (exponent + 1075).toNat ≠ -1#11 := by
    intro full
    rw [full] at biased
    change 2047 = (exponent + 1075).toNat at biased
    omega
  have leading : (1#1 ++ BitVec.ofNat 52 significand).toNat = significand := by
    have fraction : significand % 2 ^ 52 < 2 ^ 52 := Nat.mod_lt _ (by decide)
    rw [BitVec.toNat_append, BitVec.toNat_ofNat, BitVec.toNat_ofNat,
      ← Nat.shiftLeft_add_eq_or_of_lt fraction]
    omega
  have unbiased : ((exponent + 1075).toNat : Int) - (1023 + 52) = exponent := by omega
  have field : @unpackExponent .binary64 (pattern significand exponent) =
      BitVec.ofNat 11 (exponent + 1075).toNat := unpackExponent_packComponents
  have stored : @unpackMantissa .binary64 (pattern significand exponent) =
      BitVec.ofNat 52 significand := unpackMantissa_packComponents
  have sign : Sign.ofBitVec (@unpackSign .binary64 (pattern significand exponent)) =
      .positive := by
    rw [pattern, unpackSign_packComponents]
    rfl
  unfold unpack
  dsimp only
  rw [if_neg (by rwa [field]), if_neg (by rwa [field]), finite.injEq, field, stored, biased]
  exact ⟨sign, leading, unbiased⟩

theorem pack_finite (normal : Normal significand exponent) :
    pack Format.binary64 (.finite .positive significand exponent normal.positive) =
      pattern significand exponent := by
  obtain ⟨low, high, least, greatest⟩ := normal
  have log : significand.log2 + 1 = Format.binary64.mantissaBits := by
    have leading : significand.log2 = 52 := (Nat.log2_eq_iff (by omega)).mpr ⟨low, by omega⟩
    rw [leading]
    rfl
  have biased : (exponent + (Format.binary64.exponentBias : Int) +
      (Format.binary64.mantissaBitsWithoutImplicit : Int)).toNat = (exponent + 1075).toNat := by
    have sum : (Format.binary64.exponentBias : Int) +
      (Format.binary64.mantissaBitsWithoutImplicit : Int) = 1075 := rfl
    rw [Int.add_assoc, sum]
  have room : ¬2 ^ Format.binary64.exponentBits ≤ (exponent + 1075).toNat + 1 := by
    change ¬2048 ≤ (exponent + 1075).toNat + 1
    omega
  unfold pack pattern
  simp only [biased, log, if_true, if_neg room]

/-- A shift that drops only zeros keeps the rest exact. -/
theorem shiftRight_exact {mantissa : Nat} (amount : Nat) :
    (⟨mantissa <<< amount, false, false⟩ : ExtendedMantissa) >>> amount =
      ⟨mantissa, false, false⟩ := by
  induction amount generalizing mantissa with
  | zero => rfl
  | succ amount ih =>
    have further : mantissa <<< (amount + 1) = (mantissa * 2) <<< amount := by
      rw [Nat.shiftLeft_eq, Nat.shiftLeft_eq, Nat.pow_succ, Nat.mul_assoc, Nat.mul_comm 2]
    rw [further]
    change ((⟨(mantissa * 2) <<< amount, false, false⟩ : ExtendedMantissa) >>> amount).shiftRightOne =
      _
    rw [ih]
    simp [ExtendedMantissa.shiftRightOne]

/-- Trailing zeros of a significand go into the exponent. -/
theorem shiftToTargetExponent_exact {amount : Nat} (low : 1 <<< 52 ≤ significand)
    (high : significand < 1 <<< 53) (least : -1074 ≤ exponent + amount) :
    shiftToTargetExponent Format.binary64 (significand <<< amount) exponent .exact =
      (⟨significand, false, false⟩, exponent + amount) := by
  have log : (significand <<< amount).log2 = 52 + amount := by
    have power : 0 < 2 ^ amount := Nat.two_pow_pos amount
    have nonzero : significand * 2 ^ amount ≠ 0 := Nat.mul_ne_zero (by omega) (by omega)
    rw [Nat.shiftLeft_eq, Nat.log2_eq_iff nonzero, Nat.pow_add, Nat.add_right_comm, Nat.pow_add]
    exact ⟨Nat.mul_le_mul_right _ low, Nat.mul_lt_mul_of_pos_right high power⟩
  have target : Format.binary64.targetExponent
      (totalExponent (significand <<< amount) exponent) = exponent + amount := by
    have bits : (Format.binary64.mantissaBits : Int) = 53 := rfl
    have minimum : Format.binary64.minExponent = -1074 := rfl
    rw [Format.targetExponent, totalExponent, log, bits, minimum]
    omega
  have difference : (exponent + amount - exponent).toNat = amount := by omega
  unfold shiftToTargetExponent shiftToExponent
  simp only [target, difference, ExtendedMantissa.ofMantissaAndAccuracy, shiftRight_exact]

/-- A product with two has 52 trailing zeros, and nothing of it is rounded. -/
theorem mul_two (normal : Normal significand exponent) :
    mul Format.binary64 (.finite .positive significand exponent normal.positive)
        (.finite .positive (1 <<< 52) (-51) (by decide)) =
      .finite .positive significand (exponent + 1) normal.positive := by
  obtain ⟨low, high, least, -⟩ := normal
  have first : shiftToTargetExponent Format.binary64 (significand <<< 52) (exponent + -51) .exact =
      (⟨significand, false, false⟩, exponent + -51 + (52 : Nat)) :=
    shiftToTargetExponent_exact low high (by omega)
  have second : shiftToTargetExponent Format.binary64 (significand <<< 0) (exponent + 1) .exact =
      (⟨significand, false, false⟩, exponent + 1 + (0 : Nat)) :=
    shiftToTargetExponent_exact low high (by omega)
  have sum : exponent + -51 + (52 : Nat) = exponent + 1 := by omega
  have product : significand * 1 <<< 52 = significand <<< 52 := by
    rw [Nat.shiftLeft_eq, Nat.shiftLeft_eq, Nat.one_mul]
  rw [sum] at first
  rw [Nat.shiftLeft_zero, Int.natCast_zero, Int.add_zero] at second
  have rounded : (⟨significand, false, false⟩ : ExtendedMantissa).roundedMantissa = significand :=
    rfl
  have nonzero : ¬significand = 0 := by omega
  unfold mul roundWithAccuracy
  dsimp only
  rw [product, first]
  dsimp only
  rw [rounded, second]
  exact dif_neg nonzero

/-- The float `significand · 2 ^ exponent`. -/
def assembled (significand : Nat) (exponent : Int) : Float :=
  Float.ofBits (UInt64.ofNat (((exponent + 1074).toNat <<< 52) + significand))

theorem toModel_assembled (normal : Normal significand exponent) :
    (assembled significand exponent).toModel =
      .pack (.finite .positive significand exponent normal.positive) := by
  have bits : UInt64.ofNat (((exponent + 1074).toNat <<< 52) + significand) =
      UInt64.ofBitVec (pattern significand exponent) := by
    rw [← toNat_pattern normal]
    exact UInt64.ofNat_toNat
  rw [assembled, bits]
  change Float.Model.pack (unpack Format.binary64 (pattern significand exponent)) = _
  rw [unpack_pattern normal]

theorem toBits_assembled (normal : Normal significand exponent) :
    (assembled significand exponent).toBits.toNat =
      ((exponent + 1074).toNat <<< 52) + significand := by
  change (assembled significand exponent).toModel.toBits.toNat = _
  rw [← toNat_pattern normal, ← pack_finite normal, toModel_assembled normal]
  rfl

theorem assembled_mul_two (normal : Normal significand exponent) (room : exponent ≤ 970) :
    assembled significand exponent * 2 = assembled significand (exponent + 1) := by
  have raised : Normal significand (exponent + 1) :=
    ⟨normal.low, normal.high, by have := normal.least; omega, by omega⟩
  have two : (2 : Float).toModel.unpack = .finite .positive (1 <<< 52) (-51) (by decide) := rfl
  have first : (assembled significand exponent).toModel.unpack =
      .finite .positive significand exponent normal.positive := by
    have packed := congrArg (unpack Format.binary64) (pack_finite normal)
    rw [toModel_assembled normal]
    exact packed.trans (unpack_pattern normal)
  have product : (assembled significand exponent * 2).toModel =
      (assembled significand (exponent + 1)).toModel := by
    rw [toModel_assembled raised, ← mul_two normal, ← two, ← first]
    rfl
  exact congrArg Float.ofModel product

theorem parts_assembled (normal : Normal significand exponent) :
    parts (assembled significand exponent) = .finite false significand exponent := by
  obtain ⟨low, high, least, greatest⟩ := id normal
  have positive : ¬1 <<< 63 ≤ ((exponent + 1074).toNat <<< 52) + significand := by omega
  have biased : (((exponent + 1074).toNat <<< 52) + significand) >>> 52 % 1 <<< 11 =
      (exponent + 1075).toNat := by
    rw [Nat.one_shiftLeft]
    omega
  have fraction : 1 <<< 52 + (((exponent + 1074).toNat <<< 52) + significand) % 1 <<< 52 =
      significand := by
    rw [Nat.one_shiftLeft]
    omega
  have unbiased : ((exponent + 1075).toNat : Int) - 1075 = exponent := by omega
  rw [parts, toBits_assembled normal]
  unfold Parts.ofBits
  simp only [positive, biased, fraction, unbiased, decide_false]
  rw [if_neg (by omega), if_neg (by omega)]

/-- The integer part of `significand · 2 ^ exponent`. -/
def wholePart (significand : Nat) (exponent : Int) : Nat :=
  (significand <<< exponent.toNat) >>> (-exponent).toNat

theorem truncate_assembled {limit : Nat} (normal : Normal significand exponent) :
    truncate limit (assembled significand exponent) =
      Nat.min limit (wholePart significand exponent) := by
  rw [truncate, parts_assembled normal, wholePart]
  dsimp only
  unfold scaled
  by_cases fractional : 0 ≤ -exponent
  · have none : exponent.toNat = 0 := Int.toNat_of_nonpos (by omega)
    rw [if_pos fractional, none, Nat.shiftLeft_zero, Nat.shiftRight_eq_div_pow, Nat.one_shiftLeft]
  · have none : (-exponent).toNat = 0 := Int.toNat_of_nonpos (by omega)
    rw [if_neg fractional, none, Nat.shiftRight_zero, Int.neg_neg, Nat.div_one]

/-- A significand that was rounded up to 54 bits carries into the exponent. -/
theorem assembled_carry (least : -1074 ≤ exponent) :
    assembled (1 <<< 53) exponent = assembled (1 <<< 52) (exponent + 1) := by
  have same : ((exponent + 1074).toNat <<< 52) + 1 <<< 53 =
      ((exponent + 1 + 1074).toNat <<< 52) + 1 <<< 52 := by omega
  rw [assembled, assembled, same]

theorem wholePart_carry : wholePart (1 <<< 53) exponent = wholePart (1 <<< 52) (exponent + 1) := by
  unfold wholePart
  rcases Int.lt_or_le exponent 0 with fractional | whole
  · have none : exponent.toNat = 0 := Int.toNat_of_nonpos (by omega)
    have none' : (exponent + 1).toNat = 0 := Int.toNat_of_nonpos (by omega)
    have shift : (-exponent).toNat = 1 + (-(exponent + 1)).toNat := by omega
    rw [none, none', shift, Nat.shiftRight_add]
    rfl
  · have none : (-exponent).toNat = 0 := Int.toNat_of_nonpos (by omega)
    have none' : (-(exponent + 1)).toNat = 0 := Int.toNat_of_nonpos (by omega)
    have shift : (exponent + 1).toNat = 1 + exponent.toNat := by omega
    rw [none, none', shift, Nat.shiftLeft_add]
    rfl

end

section

variable {n : Nat}

theorem roundEven_one (n : Nat) : roundEven n 1 = n := by
  unfold roundEven
  simp [Nat.mod_one]

theorem roundEven_bounds (num den : Nat) :
    num / den ≤ roundEven num den ∧ roundEven num den ≤ num / den + 1 := by
  unfold roundEven
  dsimp only
  split
  · omega
  · split <;> omega

/-- A number with surplus bits is divided. -/
theorem scaled_of_long (long : 52 ≤ n.log2) :
    scaled n 1 ((n.log2 : Int) - 52) = (n, 1 <<< (n.log2 - 52)) := by
  have amount : ((n.log2 : Int) - 52).toNat = n.log2 - 52 := by omega
  rw [scaled, if_pos (by omega), amount]

/-- A number with missing bits is multiplied. -/
theorem scaled_of_short (short : n.log2 < 52) :
    scaled n 1 ((n.log2 : Int) - 52) = (n <<< (52 - n.log2), 1) := by
  have amount : (-((n.log2 : Int) - 52)).toNat = 52 - n.log2 := by omega
  rw [scaled, if_neg (by omega), amount]

/-- The quotient of what a number is scaled to takes 53 bits. -/
theorem scaled_bounds (positive : 0 < n) :
    let fraction := scaled n 1 ((n.log2 : Int) - 52)
    1 <<< 52 ≤ fraction.1 / fraction.2 ∧ fraction.1 / fraction.2 < 1 <<< 53 := by
  have least := Nat.log2_self_le (n := n) (by omega)
  have greatest := Nat.lt_log2_self (n := n)
  rcases Nat.lt_or_ge n.log2 52 with short | long
  · rw [scaled_of_short short]
    dsimp only
    have power : 0 < 2 ^ (52 - n.log2) := Nat.two_pow_pos _
    have low := Nat.mul_le_mul_right (2 ^ (52 - n.log2)) least
    have high := Nat.mul_lt_mul_of_pos_right greatest power
    rw [← Nat.pow_add] at low high
    have first : n.log2 + (52 - n.log2) = 52 := by omega
    have second : n.log2 + 1 + (52 - n.log2) = 53 := by omega
    rw [first] at low
    rw [second] at high
    rw [Nat.div_one, Nat.shiftLeft_eq n]
    exact ⟨low, high⟩
  · rw [scaled_of_long long]
    dsimp only
    have power : 0 < 2 ^ (n.log2 - 52) := Nat.two_pow_pos _
    have first : 52 + (n.log2 - 52) = n.log2 := by omega
    have second : 53 + (n.log2 - 52) = n.log2 + 1 := by omega
    simp only [Nat.one_shiftLeft]
    rw [Nat.le_div_iff_mul_le power, Nat.div_lt_iff_lt_mul power, ← Nat.pow_add, ← Nat.pow_add,
      first, second]
    exact ⟨least, greatest⟩

theorem exponentOf_one (positive : 0 < n) : exponentOf n 1 = (n.log2 : Int) - 52 := by
  have bounds := scaled_bounds positive
  have one : (Nat.log2 1 : Int) = 0 := rfl
  unfold exponentOf
  dsimp only at bounds ⊢
  rw [one, Int.sub_zero, if_neg (by omega), if_neg (by omega)]

/-- The significand of the float nearest to a number: 53 bits, or one more than they hold. -/
def significandOf (n : Nat) : Nat :=
  let fraction := scaled n 1 ((n.log2 : Int) - 52)
  roundEven fraction.1 fraction.2

theorem significandOf_bounds (positive : 0 < n) :
    1 <<< 52 ≤ significandOf n ∧ significandOf n ≤ 1 <<< 53 := by
  have bounds := scaled_bounds positive
  unfold significandOf
  dsimp only at bounds ⊢
  have rounded := roundEven_bounds (scaled n 1 ((n.log2 : Int) - 52)).1
    (scaled n 1 ((n.log2 : Int) - 52)).2
  omega

theorem ofNat_eq_assembled (positive : 0 < n) (bounded : n.log2 ≤ 1022) :
    ofNat n = assembled (significandOf n) ((n.log2 : Int) - 52) := by
  have bounds := significandOf_bounds positive
  have finite : ((((n.log2 : Int) - 52 + 1074).toNat <<< 52) + significandOf n) ≤ infinityBits := by
    unfold infinityBits
    omega
  have pattern : nearestBits n 1 =
      ((((n.log2 : Int) - 52 + 1074).toNat <<< 52) + significandOf n) := by
    unfold nearestBits
    rw [if_neg (by omega)]
    dsimp only
    rw [exponentOf_one positive]
    exact Nat.min_eq_right finite
  rw [ofNat, assembled, pattern]

/-- The float nearest to a number, doubled, has an exact integer part. -/
theorem truncate_double {limit : Nat} (positive : 0 < n) (bounded : n.log2 ≤ 1000) :
    truncate limit (ofNat n * 2) =
      Nat.min limit (wholePart (significandOf n) ((n.log2 : Int) - 52 + 1)) := by
  obtain ⟨low, high⟩ := significandOf_bounds positive
  rw [ofNat_eq_assembled positive (by omega)]
  rcases Nat.lt_or_ge (significandOf n) (1 <<< 53) with fits | carries
  · have normal : Normal (significandOf n) ((n.log2 : Int) - 52) := ⟨low, fits, by omega, by omega⟩
    have raised : Normal (significandOf n) ((n.log2 : Int) - 52 + 1) :=
      ⟨low, fits, by omega, by omega⟩
    rw [assembled_mul_two normal (by omega), truncate_assembled raised]
  · -- rounding made it a power of two, which is the least significand of the next exponent
    have full : significandOf n = 1 <<< 53 := Nat.le_antisymm high carries
    have normal : Normal (1 <<< 52) ((n.log2 : Int) - 52 + 1) :=
      ⟨by decide, by decide, by omega, by omega⟩
    have raised : Normal (1 <<< 52) ((n.log2 : Int) - 52 + 1 + 1) :=
      ⟨by decide, by decide, by omega, by omega⟩
    rw [full, assembled_carry (by omega), assembled_mul_two normal (by omega),
      truncate_assembled raised, wholePart_carry]

/-- The natural number that the float nearest to `n` stands for: `n` itself if 53 bits hold it, and
else `n` rounded to a multiple of a power of two. -/
def nearest (n : Nat) : Nat :=
  roundEven n (1 <<< (n.log2 - 52)) <<< (n.log2 - 52)

theorem nearest_of_short (short : n.log2 < 53) : nearest n = n := by
  have dropped : n.log2 - 52 = 0 := by omega
  rw [nearest, dropped, Nat.shiftLeft_zero, Nat.shiftLeft_zero, roundEven_one]

theorem nearest_of_long (long : 52 ≤ n.log2) :
    nearest n = significandOf n <<< (n.log2 - 52) := by
  unfold significandOf
  rw [scaled_of_long long, nearest]

/-- A number below a power of two has that many digits at most, and zero has one. -/
theorem log2_lt_of_lt {digits : Nat} (some : 0 < digits) (bound : n < 2 ^ digits) :
    n.log2 < digits := by
  rcases Nat.eq_zero_or_pos n with rfl | positive
  · rw [Nat.log2_zero]
    exact some
  · exact (Nat.log2_lt (by omega)).mpr bound

/-- Rounding reaches the next power of two at most. -/
theorem nearest_le (n : Nat) : nearest n ≤ 1 <<< (n.log2 + 1) := by
  rcases Nat.lt_or_ge n.log2 52 with short | long
  · rw [nearest_of_short (by omega), Nat.one_shiftLeft]
    exact Nat.le_of_lt Nat.lt_log2_self
  · have positive : 0 < n := by
      rcases Nat.eq_zero_or_pos n with rfl | positive
      · exact absurd long (by decide)
      · exact positive
    have rounded := Nat.mul_le_mul_right (2 ^ (n.log2 - 52)) (significandOf_bounds positive).2
    have sum : 53 + (n.log2 - 52) = n.log2 + 1 := by omega
    rw [Nat.one_shiftLeft, ← Nat.pow_add, sum] at rounded
    rw [nearest_of_long long, Nat.shiftLeft_eq, Nat.one_shiftLeft]
    exact rounded

theorem wholePart_double (n : Nat) :
    wholePart (significandOf n) ((n.log2 : Int) - 52 + 1) = 2 * nearest n := by
  unfold wholePart
  rcases Nat.lt_or_ge n.log2 52 with short | long
  · have none : ((n.log2 : Int) - 52 + 1).toNat = 0 := Int.toNat_of_nonpos (by omega)
    have amount : 52 - n.log2 = 1 + (-((n.log2 : Int) - 52 + 1)).toNat := by omega
    unfold significandOf
    rw [scaled_of_short short, none, nearest_of_short (by omega)]
    dsimp only
    rw [roundEven_one, amount, Nat.shiftLeft_zero, Nat.shiftLeft_add, Nat.shiftLeft_shiftRight,
      Nat.shiftLeft_eq, Nat.mul_comm]
  · have none : (-((n.log2 : Int) - 52 + 1)).toNat = 0 := Int.toNat_of_nonpos (by omega)
    have amount : ((n.log2 : Int) - 52 + 1).toNat = n.log2 - 52 + 1 := by omega
    rw [none, amount, nearest_of_long long, Nat.shiftRight_zero, Nat.shiftLeft_succ]

/-- Twice a number as a float, and back: what is lost is lost before the doubling. -/
theorem truncate_ofNat_mul_two (limit : Nat) (bounded : n.log2 ≤ 1000) :
    truncate limit (ofNat n * 2) = Nat.min limit (2 * nearest n) := by
  rcases Nat.eq_zero_or_pos n with rfl | positive
  · have zero : parts (ofNat 0 * 2) = .finite false 0 (-1074) := rfl
    have none : nearest 0 = 0 := nearest_of_short (by decide)
    rw [truncate, zero, none]
    exact congrArg (Nat.min limit) (Nat.zero_div _)
  · rw [truncate_double positive bounded, wholePart_double]

example : (nearest 9007199254740993, nearest 9007199254740995) =
    (9007199254740992, 9007199254740996) := by decide

end

end VaultKeeper.Decimal
