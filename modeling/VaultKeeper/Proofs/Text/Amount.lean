import VaultKeeper.Proofs.Hex
import VaultKeeper.Text.Amount

/-! # Which texts are amounts

A text is read as an amount exactly if it is a numeral whose value is below the bound: a prefix that
chooses the base, and digits of the base with underscores anywhere among them. The numeral without
digits is the zero.
-/

namespace VaultKeeper.Text

/-- A number in a base, the highest digit first. -/
structure Numeral where
  base : Nat
  digits : List Nat
  below : ∀ digit ∈ digits, digit < base

namespace Numeral

/-- Append digits to a value. -/
def extend (base value : Nat) (digits : List Nat) : Nat :=
  digits.foldl (fun value digit => value * base + digit) value

/-- The number that the digits stand for. -/
def value (numeral : Numeral) : Nat :=
  extend numeral.base 0 numeral.digits

/-- What may stand before the digits of each base. -/
def marks : List (List Char × Nat) :=
  [([], 10), (['0', 'x'], 16), (['0', 'X'], 16), (['0', 'o'], 8), (['0', 'O'], 8), (['0', 'b'], 2),
    (['0', 'B'], 2)]

/-- The characters are the digits, letters in either case, and underscores. -/
def Spells (chars : List Char) (digits : List Nat) : Prop :=
  (chars.filter fun c => c != '_').map Char.toLower = digits.map Nat.digitChar

/-- The text is the numeral, with what may stand before it. -/
def Writes (numeral : Numeral) (text : List Char) : Prop :=
  ∃ mark chars, (mark, numeral.base) ∈ marks ∧ text = mark ++ chars ∧ Spells chars numeral.digits

end Numeral

open Numeral

section

variable {c : Char} {chars text : List Char} {digits : List Nat} {digit base bound value n : Nat}

/-- A character has the value of a digit exactly if it is the digit in some case. -/
theorem alphanumeric?_iff (small : digit < 16) :
    alphanumeric? c = some digit ↔ c.toLower = digit.digitChar := by
  by_cases ascii : c.toNat < 128
  · have known := forall_ascii (P := fun c => ∀ digit : Fin 16,
      alphanumeric? c = some digit.val ↔ c.toLower = digit.val.digitChar)
      (by decide +kernel) ascii
    exact known ⟨digit, small⟩
  · have other : alphanumeric? c ≠ some digit := by
      have above (limit : Char) (low : limit.toNat < 128) : ¬c ≤ limit := fun le =>
        ascii (Nat.lt_of_le_of_lt le low)
      rw [alphanumeric?, if_neg fun range => above '9' (by decide) range.2,
        if_neg fun range => above 'z' (by decide) range.2,
        if_neg fun range => above 'Z' (by decide) range.2]
      nofun
    refine ⟨fun value => absurd value other, fun lower => absurd (ascii_of_toLower ?_) ascii⟩
    have written : ∀ digit : Fin 16, digit.val.digitChar.toNat < 128 := by decide
    rw [lower]
    exact written ⟨digit, small⟩

theorem spells_nil_iff : Spells [] digits ↔ digits = [] := by
  rw [Spells, List.filter_nil, List.map_nil]
  exact ⟨fun same => List.map_eq_nil_iff.mp same.symm, fun same => by rw [same, List.map_nil]⟩

theorem spells_underscore_iff : Spells ('_' :: chars) digits ↔ Spells chars digits :=
  Iff.rfl

theorem spells_cons_iff (visible : c ≠ '_') :
    Spells (c :: chars) digits ↔
      ∃ digit rest, digits = digit :: rest ∧ c.toLower = digit.digitChar ∧ Spells chars rest := by
  have kept : ((c :: chars).filter fun c => c != '_') = c :: chars.filter fun c => c != '_' :=
    List.filter_cons_of_pos (bne_iff_ne.mpr visible)
  rw [Spells, kept, List.map_cons]
  constructor
  · intro same
    obtain ⟨digit, rest, rfl, first, others⟩ := List.map_eq_cons_iff.mp same.symm
    exact ⟨digit, rest, rfl, first.symm, others.symm⟩
  · rintro ⟨digit, rest, rfl, first, others⟩
    rw [List.map_cons, first, others]

/-- Digits make a number larger. -/
theorem le_extend (below : ∀ digit ∈ digits, digit < base) : value ≤ extend base value digits := by
  induction digits generalizing value with
  | nil => exact Nat.le_refl value
  | cons digit rest ih =>
    obtain ⟨first, others⟩ := List.forall_mem_cons.mp below
    have positive : 0 < base := Nat.zero_lt_of_lt first
    calc value ≤ value * base := Nat.le_mul_of_pos_right value positive
      _ ≤ value * base + digit := Nat.le_add_right _ _
      _ ≤ extend base (value * base + digit) rest := ih others

/-- What is read in a base is the value of digits that the characters spell. -/
theorem readInBase_iff (start : value < bound) (small : base ≤ 16) :
    readInBase bound base value text = .ok n ↔
      ∃ digits, (∀ digit ∈ digits, digit < base) ∧ Spells text digits ∧
        extend base value digits = n ∧ n < bound := by
  induction text generalizing value with
  | nil =>
    rw [readInBase, Except.ok.injEq]
    constructor
    · rintro rfl
      exact ⟨[], by simp, spells_nil_iff.mpr rfl, rfl, start⟩
    · rintro ⟨digits, -, spells, same, -⟩
      rw [spells_nil_iff.mp spells] at same
      exact same
  | cons c rest ih =>
    by_cases skipped : c = '_'
    · rw [skipped, readInBase, if_pos rfl, ih start]
      simp only [spells_underscore_iff]
    · rw [readInBase, if_neg skipped]
      constructor
      · intro read
        split at read
        · cases read
        · next digit known =>
          split at read
          · cases read
          · next within =>
            split at read
            · cases read
            · next fits =>
              have less : digit < base := Nat.lt_of_not_le within
              obtain ⟨others, below, spells, same, limit⟩ := (ih (Nat.lt_of_not_le fits)).mp read
              have lower := (alphanumeric?_iff (Nat.lt_of_lt_of_le less small)).mp known
              exact ⟨digit :: others, List.forall_mem_cons.mpr ⟨less, below⟩,
                (spells_cons_iff skipped).mpr ⟨digit, others, rfl, lower, spells⟩, same, limit⟩
      · rintro ⟨_, below, spells, same, limit⟩
        obtain ⟨digit, others, rfl, lower, spells⟩ := (spells_cons_iff skipped).mp spells
        obtain ⟨less, below⟩ := List.forall_mem_cons.mp below
        have known := (alphanumeric?_iff (Nat.lt_of_lt_of_le less small)).mpr lower
        -- values only grow, so one that ends below the bound has been below it all along
        have partial' : value * base + digit < bound :=
          Nat.lt_of_le_of_lt (le_extend below) (same ▸ limit)
        rw [known]
        dsimp only
        rw [if_neg (Nat.not_le_of_lt less), if_neg (Nat.not_le_of_lt partial')]
        exact (ih partial').mpr ⟨others, below, spells, same, limit⟩

/-- The base of a text is the one that a prefix chooses, and its digits follow. -/
theorem splitBase_split (text : List Char) :
    ∃ mark, (mark, (splitBase text).1) ∈ marks ∧ text = mark ++ (splitBase text).2 := by
  unfold splitBase
  split
  · next mark rest =>
    split
    · next hexadecimal =>
      rcases hexadecimal with rfl | rfl <;> exact ⟨['0', _], by simp [marks], rfl⟩
    · split
      · next octal => rcases octal with rfl | rfl <;> exact ⟨['0', _], by simp [marks], rfl⟩
      · split
        · next binary => rcases binary with rfl | rfl <;> exact ⟨['0', _], by simp [marks], rfl⟩
        · exact ⟨[], by simp [marks], rfl⟩
  · exact ⟨[], by simp [marks], rfl⟩

/-- No digit below ten is a letter that chooses a base. -/
theorem splitBase_of_decimal (below : ∀ digit ∈ digits, digit < 10) (spells : Spells text digits) :
    splitBase text = (10, text) := by
  unfold splitBase
  split
  · next mark rest =>
    have other (letter : Char) (visible : letter ≠ '_') (high : ¬letter.toLower.isDigit) :
        mark ≠ letter := by
      rintro rfl
      obtain ⟨_, _, rfl, -, spells⟩ := (spells_cons_iff (by decide)).mp spells
      obtain ⟨digit, _, rfl, lower, -⟩ := (spells_cons_iff visible).mp spells
      have less : digit < 10 := below digit (by simp)
      rw [lower, Nat.isDigit_digitChar, decide_eq_true less] at high
      exact high rfl
    have hexadecimal : ¬(mark = 'x' ∨ mark = 'X') :=
      not_or.mpr ⟨other 'x' (by decide) (by decide), other 'X' (by decide) (by decide)⟩
    have octal : ¬(mark = 'o' ∨ mark = 'O') :=
      not_or.mpr ⟨other 'o' (by decide) (by decide), other 'O' (by decide) (by decide)⟩
    have binary : ¬(mark = 'b' ∨ mark = 'B') :=
      not_or.mpr ⟨other 'b' (by decide) (by decide), other 'B' (by decide) (by decide)⟩
    rw [if_neg hexadecimal, if_neg octal, if_neg binary]
  · rfl

/-- A numeral is split into its base and its digits. -/
theorem splitBase_of_mem {mark : List Char} (known : (mark, base) ∈ marks)
    (below : ∀ digit ∈ digits, digit < base) (spells : Spells chars digits) :
    splitBase (mark ++ chars) = (base, chars) := by
  simp only [marks, List.mem_cons, Prod.mk.injEq, List.not_mem_nil, or_false] at known
  rcases known with ⟨rfl, rfl⟩ | ⟨rfl, rfl⟩ | ⟨rfl, rfl⟩ | ⟨rfl, rfl⟩ | ⟨rfl, rfl⟩ | ⟨rfl, rfl⟩ |
    ⟨rfl, rfl⟩
  -- without a prefix the first digits must not be taken for one
  case inl => exact splitBase_of_decimal below spells
  all_goals rfl

/-- Two numerals that are one text have equally many digits. -/
theorem Numeral.Writes.length_digits {numeral other : Numeral} (writes : numeral.Writes text)
    (writes' : other.Writes text) : numeral.digits.length = other.digits.length := by
  obtain ⟨mark, chars, known, rfl, spells⟩ := writes
  obtain ⟨mark', chars', known', same, spells'⟩ := writes'
  have split := splitBase_of_mem known numeral.below spells
  rw [same, splitBase_of_mem known' other.below spells'] at split
  obtain ⟨-, rfl⟩ := Prod.mk.inj split
  simpa only [List.length_map] using congrArg List.length (spells.symm.trans spells')

/-- Numerals below the bound are read as their values, and nothing else is read. -/
theorem readAmount_iff (positive : 0 < bound) :
    readAmount bound text = .ok n ↔
      ∃ numeral : Numeral, numeral.Writes text ∧ numeral.value = n ∧ n < bound := by
  have known : ∀ choice ∈ marks, choice.2 ≤ 16 := by decide
  constructor
  · intro read
    obtain ⟨mark, member, split⟩ := splitBase_split text
    obtain ⟨digits, below, spells, same, limit⟩ :=
      (readInBase_iff positive (known _ member)).mp read
    exact ⟨⟨_, digits, below⟩, ⟨mark, _, member, split, spells⟩, same, limit⟩
  · rintro ⟨⟨base, digits, below⟩, ⟨mark, chars, member, rfl, spells⟩, same, limit⟩
    rw [readAmount, splitBase_of_mem member below spells]
    exact (readInBase_iff positive (known _ member)).mpr ⟨digits, below, spells, same, limit⟩

/-- Decimal digits spell the values of the digits. -/
theorem spells_decimal (decimal : ∀ c ∈ text, c.isDigit) :
    Spells text (text.map fun c => c.toNat - '0'.toNat) := by
  have known {c : Char} (digit : c.isDigit) :
      c ≠ '_' ∧ c.toLower = (c.toNat - '0'.toNat).digitChar := by
    have ascii : c.toNat < 128 := by
      have range := Bool.and_eq_true_iff.mp digit
      exact Nat.lt_of_le_of_lt (of_decide_eq_true range.2) (by decide)
    exact forall_ascii (P := fun c => c.isDigit → c ≠ '_' ∧
      c.toLower = (c.toNat - '0'.toNat).digitChar) (by decide +kernel) ascii digit
  induction text with
  | nil => exact spells_nil_iff.mpr rfl
  | cons c rest ih =>
    obtain ⟨first, others⟩ := List.forall_mem_cons.mp decimal
    obtain ⟨visible, lower⟩ := known first
    exact (spells_cons_iff visible).mpr ⟨_, _, rfl, lower, ih others⟩

/-- Decimal digits are read as their number. -/
theorem readAmount_decimal (decimal : ∀ c ∈ text, c.isDigit)
    (fits : Nat.ofDigitChars 10 text 0 < bound) :
    readAmount bound text = .ok (Nat.ofDigitChars 10 text 0) := by
  have below : ∀ digit ∈ text.map fun c => c.toNat - '0'.toNat, digit < 10 := by
    intro digit member
    obtain ⟨c, among, rfl⟩ := List.mem_map.mp member
    have range := Bool.and_eq_true_iff.mp (decimal c among)
    have le : c.toNat ≤ '9'.toNat := of_decide_eq_true range.2
    exact Nat.lt_succ_of_le (Nat.sub_le_sub_right le _)
  refine (readAmount_iff (Nat.zero_lt_of_lt fits)).mpr ⟨⟨10, _, below⟩,
    ⟨[], text, List.mem_cons_self, rfl, spells_decimal decimal⟩, ?_, fits⟩
  rw [Numeral.value, extend, List.foldl_map, Nat.ofDigitChars_eq_foldl]
  simp only [Nat.mul_comm]

/-- A number is read from its decimal digits, with any number of zeros before them. -/
theorem readAmount_toDigits (fits : n < bound) (zeros : Nat) :
    readAmount bound (List.replicate zeros '0' ++ Nat.toDigits 10 n) = .ok n := by
  have value : Nat.ofDigitChars 10 (List.replicate zeros '0' ++ Nat.toDigits 10 n) 0 = n := by
    rw [Nat.ofDigitChars_append, Nat.ofDigitChars_replicate_zero, Nat.mul_zero,
      Nat.ofDigitChars_ten_toDigits]
  have decimal : ∀ c ∈ List.replicate zeros '0' ++ Nat.toDigits 10 n, c.isDigit := by
    intro c member
    rcases List.mem_append.mp member with zero | digit
    · rw [(List.mem_replicate.mp zero).2]
      rfl
    · exact Nat.isDigit_of_mem_toDigits (by decide) (by decide) digit
  have read := readAmount_decimal decimal (value.symm ▸ fits)
  rwa [value] at read

end

end VaultKeeper.Text
