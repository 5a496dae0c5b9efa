import VaultKeeper.Json.Reader

/-! # The tokens of JSON

White space, numbers and strings as they may be written. The reader takes each of them off the start
of a text: what it takes is written so, and whatever is written so it takes. A number goes on as
long as it can, so what follows it must not continue it.
-/

namespace VaultKeeper.Json

open VaultKeeper.Text (hexValue? valueOf readHexDigits)

variable {c : Char} {chars rest text before digits fraction exponent literal : List Char}
  {unit fuel : Nat} {units : List Nat} {json : Json}

/-- A list is read item by item. -/
theorem mapM_eq_some_iff {α β : Type} {read : α → Option β} {items : List α} {values : List β} :
    items.mapM read = some values ↔ ∃ record : List (α × β), record.map Prod.fst = items ∧
      record.map Prod.snd = values ∧ ∀ entry ∈ record, read entry.1 = some entry.2 := by
  induction items generalizing values with
  | nil =>
    constructor
    · rintro ⟨⟩
      exact ⟨[], rfl, rfl, by simp⟩
    · rintro ⟨record, none, rfl, -⟩
      rw [List.map_eq_nil_iff.mp none]
      rfl
  | cons item items ih =>
    simp only [List.mapM_cons, Option.bind_eq_bind, Option.bind_eq_some_iff, ih]
    constructor
    · rintro ⟨value, first, _, ⟨record, rfl, rfl, others⟩, ⟨⟩⟩
      exact ⟨(item, value) :: record, rfl, rfl, List.forall_mem_cons.mpr ⟨first, others⟩⟩
    · rintro ⟨record, split, rfl, known⟩
      obtain ⟨⟨_, value⟩, record, rfl, rfl, rfl⟩ := List.map_eq_cons_iff.mp split
      obtain ⟨first, others⟩ := List.forall_mem_cons.mp known
      exact ⟨value, first, _, ⟨record, rfl, rfl, others⟩, rfl⟩

/-- The text does not go on with a character of a kind. -/
def Ended (kind : Char → Bool) (rest : List Char) : Prop :=
  ∀ c ∈ rest.head?, kind c = false

theorem ended_nil {kind : Char → Bool} : Ended kind [] := by
  simp [Ended]

theorem ended_cons {kind : Char → Bool} (other : kind c = false) : Ended kind (c :: rest) := by
  simpa [Ended] using other

theorem ended_dropWhile (kind : Char → Bool) (text : List Char) :
    Ended kind (text.dropWhile kind) := by
  intro c first
  have last := List.head?_dropWhile_not kind text
  rw [Option.mem_def.mp first] at last
  exact last

/-- What a text starts with is taken off as long as it is of a kind. -/
theorem split_of_ended {kind : Char → Bool} (same : ∀ c ∈ chars, kind c = true)
    (ended : Ended kind rest) :
    (chars ++ rest).takeWhile kind = chars ∧ (chars ++ rest).dropWhile kind = rest := by
  rw [List.takeWhile_append_of_pos same, List.dropWhile_append_of_pos same]
  cases rest with
  | nil => simp
  | cons c rest =>
    have other : kind c = false := ended c rfl
    simp [other]

/-! ## White space -/

/-- White space only. -/
def Blank (chars : List Char) : Prop :=
  ∀ c ∈ chars, isSpace c = true

theorem exists_blank (text : List Char) :
    ∃ before, Blank before ∧ text = before ++ skipSpace text :=
  ⟨text.takeWhile isSpace, List.all_eq_true.mp List.all_takeWhile,
    List.takeWhile_append_dropWhile.symm⟩

theorem skipSpace_append (blank : Blank before) (ended : Ended isSpace rest) :
    skipSpace (before ++ rest) = rest :=
  (split_of_ended blank ended).2

/-! ## Numbers -/

/-- One or more digits. -/
def Digits (chars : List Char) : Prop :=
  chars ≠ [] ∧ ∀ c ∈ chars, c.isDigit = true

/-- The part of a number before the point: only the zero begins with one. -/
def Whole (chars : List Char) : Prop :=
  Digits chars ∧ ¬ (1 < chars.length ∧ chars.head? = some '0')

/-- The point and the digits after it, or nothing. -/
inductive Fraction : List Char → Prop
  | none : Fraction []
  | point {digits : List Char} (some : Digits digits) : Fraction ('.' :: digits)

/-- An exponent, or nothing. -/
inductive Exponent : List Char → Prop
  | none : Exponent []
  | plain {mark : Char} {digits : List Char} (marks : mark = 'e' ∨ mark = 'E')
      (some : Digits digits) : Exponent (mark :: digits)
  | signed {mark sign : Char} {digits : List Char} (marks : mark = 'e' ∨ mark = 'E')
      (signs : sign = '+' ∨ sign = '-') (some : Digits digits) :
      Exponent (mark :: sign :: digits)

/-- A number. -/
inductive Literal : List Char → Prop
  | mk {sign whole fraction exponent : List Char} (minus : sign = [] ∨ sign = ['-'])
      (natural : Whole whole) (point : Fraction fraction) (power : Exponent exponent) :
      Literal (sign ++ whole ++ fraction ++ exponent)

/-- The characters that continue a number. -/
def continuesNumber (c : Char) : Bool :=
  c.isDigit || c == '.' || c == 'e' || c == 'E'

theorem readDigits_iff :
    readDigits text = some (digits, rest) ↔
      text = digits ++ rest ∧ Digits digits ∧ Ended Char.isDigit rest := by
  simp only [readDigits]
  constructor
  · intro read
    split at read
    · cases read
    · next some =>
      cases read
      refine ⟨List.takeWhile_append_dropWhile.symm, ⟨?_, ?_⟩, ended_dropWhile _ _⟩
      · simpa using some
      · exact List.all_eq_true.mp List.all_takeWhile
  · rintro ⟨rfl, ⟨some, digit⟩, ended⟩
    obtain ⟨taken, left⟩ := split_of_ended digit ended
    rw [taken, left, if_neg (by simpa using some)]

theorem fraction_of_read (read : readFraction text = some (fraction, rest)) :
    text = fraction ++ rest ∧ Fraction fraction := by
  unfold readFraction at read
  split at read
  · obtain ⟨⟨digits, _⟩, known, same⟩ := Option.bind_eq_some_iff.mp read
    cases same
    obtain ⟨rfl, some, -⟩ := readDigits_iff.mp known
    exact ⟨rfl, .point some⟩
  · cases read
    exact ⟨rfl, .none⟩

theorem Fraction.read (written : Fraction fraction)
    (ended : Ended (fun c => c.isDigit || c == '.') rest) :
    readFraction (fraction ++ rest) = some (fraction, rest) := by
  cases written with
  | none =>
    cases rest with
    | nil => rfl
    | cons c rest =>
      have other : c ≠ '.' := by
        have last := ended c rfl
        simp_all
      simp [readFraction, other]
  | @point digits some =>
    have behind : Ended Char.isDigit rest := by
      intro c first
      have last := ended c first
      simp_all
    have known := readDigits_iff.mpr ⟨rfl, some, behind⟩
    simp [readFraction, known]

theorem exponent_of_read (read : readExponent text = some (exponent, rest)) :
    text = exponent ++ rest ∧ Exponent exponent := by
  unfold readExponent at read
  split at read
  · next mark behind =>
    split at read
    · next marks =>
      split at read
      · next sign after =>
        split at read
        · next signs =>
          obtain ⟨⟨digits, _⟩, known, same⟩ := Option.bind_eq_some_iff.mp read
          cases same
          obtain ⟨rfl, some, -⟩ := readDigits_iff.mp known
          exact ⟨rfl, .signed marks signs some⟩
        · obtain ⟨⟨digits, _⟩, known, same⟩ := Option.bind_eq_some_iff.mp read
          cases same
          obtain ⟨split, some, -⟩ := readDigits_iff.mp known
          exact ⟨congrArg (List.cons mark) split, .plain marks some⟩
      · cases read
    · cases read
      exact ⟨rfl, .none⟩
  · cases read
    exact ⟨rfl, .none⟩

theorem Exponent.read (written : Exponent exponent) (ended : Ended continuesNumber rest) :
    readExponent (exponent ++ rest) = some (exponent, rest) := by
  have behind : Ended Char.isDigit rest := by
    intro c first
    have last := ended c first
    simp_all [continuesNumber]
  cases written with
  | none =>
    cases rest with
    | nil => rfl
    | cons c rest =>
      have other : ¬ (c = 'e' ∨ c = 'E') := by
        have last := ended c rfl
        simp_all [continuesNumber]
      simp [readExponent, other]
  | @plain mark digits marks some =>
    have known := readDigits_iff.mpr ⟨rfl, some, behind⟩
    obtain ⟨present, digit⟩ := some
    cases digits with
    | nil => exact absurd rfl present
    | cons first digits =>
      have unsigned : ¬ (first = '+' ∨ first = '-') := by
        rintro (rfl | rfl) <;> simp at digit
      rw [List.cons_append] at known
      simp [readExponent, marks, unsigned, known]
  | @signed mark sign digits marks signs some =>
    have known := readDigits_iff.mpr ⟨rfl, some, behind⟩
    simp [readExponent, marks, signs, known]

theorem Ended.imp {kind other : Char → Bool} (fewer : ∀ c, kind c = false → other c = false)
    (ended : Ended kind rest) : Ended other rest :=
  fun c first => fewer c (ended c first)

/-- Digits end where an exponent begins, or where the number ends. -/
theorem Exponent.ended (written : Exponent exponent) (ended : Ended continuesNumber rest) :
    Ended (fun c => c.isDigit || c == '.') (exponent ++ rest) := by
  cases written with
  | none => exact ended.imp fun c other => by simp_all [continuesNumber]
  | plain marks => rcases marks with rfl | rfl <;> exact ended_cons rfl
  | signed marks => rcases marks with rfl | rfl <;> exact ended_cons rfl

theorem Fraction.ended (written : Fraction fraction)
    (ended : Ended (fun c => c.isDigit || c == '.') rest) :
    Ended Char.isDigit (fraction ++ rest) := by
  cases written with
  | none => exact ended.imp fun c other => by simp_all
  | point => exact ended_cons rfl

/-- A number after its sign. -/
def readUnsigned (sign text : List Char) : Option (Json × List Char) := do
  let (whole, rest) ← readDigits text
  if whole.length > 1 && whole.head? == some '0' then none
  else
    let (fraction, rest) ← readFraction rest
    let (exponent, rest) ← readExponent rest
    pure (.number (String.ofList (sign ++ whole ++ fraction ++ exponent)), rest)

theorem readNumber_minus (text : List Char) :
    readNumber ('-' :: text) = readUnsigned ['-'] text := rfl

theorem readNumber_of_ne (unsigned : text.head? ≠ some '-') :
    readNumber text = readUnsigned [] text := by
  unfold readNumber
  split
  next sign behind signed =>
  split at signed
  · exact absurd rfl unsigned
  · cases signed
    rfl

/-- A number has a sign or none, and what follows is read alike. -/
theorem readNumber_cases (text : List Char) :
    ∃ sign unsigned, (sign = [] ∨ sign = ['-']) ∧ text = sign ++ unsigned ∧
      readNumber text = readUnsigned sign unsigned := by
  by_cases signed : text.head? = some '-'
  · obtain ⟨unsigned, rfl⟩ := List.head?_eq_some_iff.mp signed
    exact ⟨['-'], unsigned, .inr rfl, rfl, readNumber_minus unsigned⟩
  · exact ⟨[], text, .inl rfl, rfl, readNumber_of_ne signed⟩

theorem literal_of_read (read : readNumber text = some (json, rest)) :
    ∃ literal, text = literal ++ rest ∧ Literal literal ∧
      json = .number (String.ofList literal) := by
  obtain ⟨sign, unsigned, minus, rfl, same⟩ := readNumber_cases text
  obtain ⟨⟨whole, _⟩, taken, continued⟩ := Option.bind_eq_some_iff.mp (same ▸ read)
  obtain ⟨rfl, some, -⟩ := readDigits_iff.mp taken
  dsimp only at continued
  split at continued
  · cases continued
  · next natural =>
    obtain ⟨⟨fraction, _⟩, pointed, powered⟩ := Option.bind_eq_some_iff.mp continued
    obtain ⟨rfl, point⟩ := fraction_of_read pointed
    obtain ⟨⟨exponent, _⟩, raised, ended⟩ := Option.bind_eq_some_iff.mp powered
    obtain ⟨rfl, power⟩ := exponent_of_read raised
    cases ended
    have whole_natural : Whole whole := ⟨some, by simpa using natural⟩
    exact ⟨_, by simp only [List.append_assoc], .mk minus whole_natural point power, rfl⟩

theorem Literal.read (written : Literal literal) (ended : Ended continuesNumber rest) :
    readNumber (literal ++ rest) = some (.number (String.ofList literal), rest) := by
  obtain @⟨sign, whole, fraction, exponent, minus, ⟨some, natural⟩, point, power⟩ := written
  have known := readDigits_iff.mpr ⟨rfl, some, point.ended (power.ended ended)⟩
  have pointed := point.read (power.ended ended)
  have raised := power.read ended
  have unsigned : readUnsigned sign (whole ++ (fraction ++ (exponent ++ rest))) =
      Option.some (.number (String.ofList (sign ++ whole ++ fraction ++ exponent)), rest) := by
    simp only [readUnsigned, known, pointed, raised, Option.bind_eq_bind, Option.bind_some]
    rw [if_neg (by simpa using natural)]
    rfl
  simp only [List.append_assoc] at unsigned ⊢
  rcases minus with rfl | rfl
  · obtain ⟨c, digits, rfl⟩ := List.exists_cons_of_ne_nil some.1
    have positive : c ≠ '-' := by
      rintro rfl
      cases some.2 '-' List.mem_cons_self
    rw [← unsigned]
    exact readNumber_of_ne (by simpa using positive)
  · exact unsigned

/-! ## Strings -/

/-- A character of a string, or an escape, and the number that it stands for. -/
inductive Writes : List Char → Nat → Prop
  | plain {c : Char} (inside : c ≠ '"') (unescaped : c ≠ '\\') (visible : 0x20 ≤ c.toNat) :
      Writes [c] c.toNat
  | escape {letter c : Char} (short : shortEscape? letter = some c) :
      Writes ['\\', letter] c.toNat
  | code {digits : List Char} {values : List Nat} (four : digits.length = 4)
      (hex : digits.mapM hexValue? = some values) :
      Writes ('\\' :: 'u' :: digits) (valueOf 16 values)

/-- What stands between the quotes of a string. -/
inductive Quotes : List Char → List Nat → Prop
  | nil : Quotes [] []
  | cons {chars rest : List Char} {unit : Nat} {units : List Nat} (first : Writes chars unit)
      (later : Quotes rest units) : Quotes (chars ++ rest) (unit :: units)

/-- What a string denotes. -/
def denoted (units : List Nat) : Text :=
  (joinUnits units).map String.ofList

theorem readHexDigits_iff {count value : Nat} :
    readHexDigits count text = some (value, rest) ↔
      ∃ digits values, text = digits ++ rest ∧ digits.length = count ∧
        digits.mapM hexValue? = some values ∧ value = valueOf 16 values := by
  have count_values {digits : List Char} {values : List Nat}
      (hex : digits.mapM hexValue? = some values) : values.length = digits.length := by
    obtain ⟨record, rfl, rfl, -⟩ := mapM_eq_some_iff.mp hex
    rw [List.length_map, List.length_map]
  constructor
  · intro read
    obtain ⟨values, hex, known⟩ := Option.bind_eq_some_iff.mp read
    split at known
    · next four =>
      cases known
      exact ⟨text.take count, values, (List.take_append_drop count text).symm,
        (count_values hex).symm.trans four, hex, rfl⟩
    · cases known
  · rintro ⟨digits, values, rfl, rfl, hex, rfl⟩
    simp only [readHexDigits, List.take_left, hex, Option.bind_eq_bind, Option.bind_some,
      count_values hex, if_true, List.drop_left]

theorem quotes_of_readUnits (read : readUnits fuel text = some (units, rest)) :
    ∃ chars, text = chars ++ '"' :: rest ∧ Quotes chars units := by
  fun_induction readUnits fuel text generalizing units rest with
  | case1 | case2 => cases read
  | case3 =>
    cases read
    exact ⟨[], rfl, .nil⟩
  | case4 fuel text ih =>
    obtain ⟨⟨unit, behind⟩, coded, continued⟩ := Option.bind_eq_some_iff.mp read
    obtain ⟨⟨others, _⟩, later, ended⟩ := Option.bind_eq_some_iff.mp continued
    cases ended
    obtain ⟨digits, values, rfl, four, hex, rfl⟩ := readHexDigits_iff.mp coded
    obtain ⟨chars, rfl, quotes⟩ := ih _ later
    exact ⟨_ ++ chars, by simp, .cons (.code four hex) quotes⟩
  | case5 fuel letter text _ ih =>
    obtain ⟨c, short, continued⟩ := Option.bind_eq_some_iff.mp read
    obtain ⟨⟨others, _⟩, later, ended⟩ := Option.bind_eq_some_iff.mp continued
    cases ended
    obtain ⟨chars, rfl, quotes⟩ := ih later
    exact ⟨_ ++ chars, by simp, .cons (.escape short) quotes⟩
  | case6 => cases read
  | case7 fuel c text inside _ _ fine ih =>
    obtain ⟨⟨others, _⟩, later, ended⟩ := Option.bind_eq_some_iff.mp read
    cases ended
    obtain ⟨chars, rfl, quotes⟩ := ih later
    obtain ⟨visible, unescaped⟩ := not_or.mp fine
    exact ⟨[c] ++ chars, rfl, .cons (.plain inside unescaped (Nat.le_of_not_lt visible)) quotes⟩

theorem Quotes.read (written : Quotes chars units) (enough : chars.length < fuel) :
    readUnits fuel (chars ++ '"' :: rest) = some (units, rest) := by
  induction written generalizing fuel with
  | nil =>
    obtain ⟨fuel, rfl⟩ := Nat.exists_eq_add_one.mpr enough
    rfl
  | @cons chars others unit units first later ih =>
    obtain ⟨fuel, rfl⟩ := Nat.exists_eq_add_one.mpr (Nat.zero_lt_of_lt enough)
    have behind : readUnits fuel (others ++ '"' :: rest) = some (units, rest) := by
      refine ih ?_
      have some : 0 < chars.length := by cases first <;> simp
      rw [List.length_append] at enough
      omega
    rw [List.append_assoc]
    cases first with
    | plain inside unescaped visible =>
      simp [readUnits, unescaped, visible, behind]
    | @escape letter c short =>
      have other : letter ≠ 'u' := by
        rintro rfl
        cases short
      simp [readUnits, short, behind]
    | @code digits values four hex =>
      have coded : readHexDigits 4 (digits ++ (others ++ '"' :: rest)) =
          some (valueOf 16 values, others ++ '"' :: rest) :=
        readHexDigits_iff.mpr ⟨digits, values, rfl, four, hex, rfl⟩
      simp [readUnits, behind, coded]

/-- A string is read up to its closing quote. -/
theorem readString_iff {string : Text} :
    readString text = some (string, rest) ↔
      ∃ chars units, text = chars ++ '"' :: rest ∧ Quotes chars units ∧ string = denoted units := by
  constructor
  · intro read
    obtain ⟨⟨units, _⟩, quoted, ended⟩ := Option.bind_eq_some_iff.mp read
    cases ended
    obtain ⟨chars, rfl, quotes⟩ := quotes_of_readUnits quoted
    exact ⟨chars, units, rfl, quotes, rfl⟩
  · rintro ⟨chars, units, rfl, quotes, rfl⟩
    have enough : chars.length < (chars ++ '"' :: rest).length + 1 := by
      rw [List.length_append]
      omega
    simp only [readString, quotes.read enough, Option.bind_eq_bind, Option.bind_some]
    rfl

end VaultKeeper.Json
