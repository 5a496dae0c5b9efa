import VaultKeeper.Checksum

/-! # Which texts are hexadecimal

A text is read as a byte string exactly if it consists of the digits of the bytes, letters in either
case, behind no more `0x` than the reader removes. So what is written is read back, with `0x` before
it or without.
-/

namespace VaultKeeper

/-- What holds for each of the 128 codes holds for every character below 128. -/
theorem forall_ascii {P : Char → Prop} (all : ∀ code : Fin 128, P (Char.ofNat code)) {c : Char}
    (ascii : c.toNat < 128) : P c := by
  have known := all ⟨c.toNat, ascii⟩
  rwa [Char.ofNat_toNat] at known

theorem ascii_of_toLower {c : Char} (ascii : c.toLower.toNat < 128) : c.toNat < 128 := by
  by_cases upper : c.val ≥ 'A'.val ∧ c.val ≤ 'Z'.val
  · exact Nat.lt_of_le_of_lt upper.2 (by decide)
  · have same : c.toLower = c := dif_neg upper
    rwa [same] at ascii

namespace Hex

/-- Characters as bytes. -/
def utf8 (chars : List Char) : Bytes :=
  chars.flatMap String.utf8EncodeChar

/-- The digits of the bytes, letters in either case. -/
def Spells (chars : List Char) (bytes : Bytes) : Prop :=
  chars.map Char.toLower = digits bytes

/-- `0x` a number of times. -/
def marks (count : Nat) : List Char :=
  (List.replicate count ['0', 'x']).flatten

/-- The text is `0x` the given number of times and then the digits of the bytes, letters in either
case. -/
def Marked (count : Nat) (text : String) (bytes : Bytes) : Prop :=
  ∃ chars, text.toList = marks count ++ chars ∧ Spells chars bytes

section

variable {c : Char} {byte : UInt8} {chars : List Char} {bytes rest : Bytes} {n count : Nat}
  {text : String}

theorem digits_cons (byte : UInt8) (rest : Bytes) :
    digits (byte :: rest) = digit (byte.toNat / 16) :: digit (byte.toNat % 16) :: digits rest :=
  rfl

theorem utf8_cons (ascii : c.toNat < 128) (chars : List Char) :
    utf8 (c :: chars) = UInt8.ofNat c.toNat :: utf8 chars := by
  have single : String.utf8EncodeChar c = [UInt8.ofNat c.toNat] :=
    if_pos (Nat.le_of_lt_succ ascii)
  rw [utf8, List.flatMap_cons, single]
  rfl

theorem exists_utf8_cons (c : Char) (chars : List Char) :
    ∃ byte rest, utf8 (c :: chars) = byte :: rest ∧
      (byte.toNat < 128 → c.toNat < 128 ∧ UInt8.ofNat c.toNat = byte ∧ rest = utf8 chars) := by
  by_cases ascii : c.toNat < 128
  · exact ⟨_, _, utf8_cons ascii chars, fun _ => ⟨ascii, rfl, rfl⟩⟩
  · -- every other character begins with a byte of 192 or more
    have above : ¬c.val.toNat ≤ 127 := fun le => ascii (Nat.lt_succ_of_le le)
    have begins : ∃ byte rest, String.utf8EncodeChar c = byte :: rest ∧ 192 ≤ byte.toNat := by
      rw [String.utf8EncodeChar, if_neg above]
      split
      · exact ⟨_, _, rfl, by simp only [UInt8.toNat_ofNat']; omega⟩
      · split
        · exact ⟨_, _, rfl, by simp only [UInt8.toNat_ofNat']; omega⟩
        · exact ⟨_, _, rfl, by simp only [UInt8.toNat_ofNat']; omega⟩
    obtain ⟨byte, rest, starts, large⟩ := begins
    refine ⟨byte, rest ++ utf8 chars, ?_, fun small => ?_⟩
    · rw [utf8, List.flatMap_cons, starts]
      rfl
    · omega

/-- A byte below 128 stands for a character of its own. -/
theorem utf8_eq_cons (encoded : utf8 chars = byte :: rest) (ascii : byte.toNat < 128) :
    ∃ c tail, chars = c :: tail ∧ c.toNat < 128 ∧ UInt8.ofNat c.toNat = byte ∧
      utf8 tail = rest := by
  cases chars with
  | nil => cases encoded
  | cons c tail =>
    obtain ⟨_, _, starts, own⟩ := exists_utf8_cons c tail
    rw [starts] at encoded
    cases encoded
    obtain ⟨small, code, rfl⟩ := own ascii
    exact ⟨c, tail, rfl, small, code, rfl⟩

theorem utf8_eq_nil_iff : utf8 chars = [] ↔ chars = [] := by
  constructor
  · intro encoded
    cases chars with
    | nil => rfl
    | cons c tail =>
      obtain ⟨_, _, starts, -⟩ := exists_utf8_cons c tail
      rw [starts] at encoded
      cases encoded
  · rintro rfl
    rfl

/-- A character that is a digit in some case has the value of the digit. -/
theorem digitValue?_of_toLower (small : n < 16) (lower : c.toLower = digit n) :
    c.toNat < 128 ∧ digitValue? (UInt8.ofNat c.toNat) = some n := by
  have ascii : c.toNat < 128 := by
    have written : ∀ n : Fin 16, (digit n).toNat < 128 := by decide
    exact ascii_of_toLower (lower ▸ written ⟨n, small⟩)
  have value := forall_ascii (P := fun c => ∀ n : Fin 16, c.toLower = digit n →
    digitValue? (UInt8.ofNat c.toNat) = some n.val) (by decide +kernel) ascii
  exact ⟨ascii, value ⟨n, small⟩ lower⟩

/-- A byte with the value of a digit stands for the digit in some case. -/
theorem toLower_of_digitValue? (encoded : utf8 chars = byte :: rest)
    (value : digitValue? byte = some n) :
    n < 16 ∧ ∃ c tail, chars = c :: tail ∧ c.toLower = digit n ∧ utf8 tail = rest := by
  have ascii : byte.toNat < 128 := by
    have all : ∀ code : Fin 256, (digitValue? (UInt8.ofNat code)).isSome → code.val < 128 := by
      decide +kernel
    have known := all ⟨byte.toNat, byte.toNat_lt⟩
    rw [UInt8.ofNat_toNat, value] at known
    exact known rfl
  obtain ⟨c, tail, rfl, small, rfl, others⟩ := utf8_eq_cons encoded ascii
  have digits := forall_ascii (P := fun c => ∀ n ∈ digitValue? (UInt8.ofNat c.toNat),
    n < 16 ∧ c.toLower = digit n) (by decide +kernel) small
  obtain ⟨below, lower⟩ := digits n value
  exact ⟨below, c, tail, rfl, lower, others⟩

/-- Either nothing is read, or a byte from two digits and the others from what follows. -/
theorem decodePairs_cases {position : Nat} {text : Bytes}
    (read : decodePairs position text = .ok bytes) :
    text = [] ∧ bytes = [] ∨
      ∃ high low rest h l others, text = high :: low :: rest ∧
        digitValue? high = some h ∧ digitValue? low = some l ∧
        decodePairs (position + 2) rest = .ok others ∧
        bytes = UInt8.ofNat (16 * h + l) :: others := by
  match text with
  | [] =>
    cases read
    exact .inl ⟨rfl, rfl⟩
  | [_] => cases read
  | high :: low :: rest =>
    rw [decodePairs] at read
    split at read
    · cases read
    · cases read
    · next h l valueHigh valueLow =>
      cases others : decodePairs (position + 2) rest with
      | error =>
        rw [others] at read
        cases read
      | ok bytes =>
        rw [others] at read
        cases read
        exact .inr ⟨high, low, rest, h, l, bytes, rfl, valueHigh, valueLow, others, rfl⟩

/-- Two digits are read for every byte. -/
theorem length_of_decodePairs {position : Nat} {text : Bytes}
    (read : decodePairs position text = .ok bytes) : text.length = 2 * bytes.length := by
  induction bytes generalizing position text with
  | nil =>
    obtain ⟨rfl, -⟩ | ⟨_, _, _, _, _, _, -, -, -, -, impossible⟩ := decodePairs_cases read
    · rfl
    · cases impossible
  | cons byte bytes ih =>
    obtain ⟨-, impossible⟩ | ⟨high, low, rest, _, _, _, rfl, -, -, others, same⟩ :=
      decodePairs_cases read
    · cases impossible
    · cases same
      rw [List.length_cons, List.length_cons, List.length_cons, ih others]
      omega

/-- Digits are read as the bytes that they are the digits of. -/
theorem Spells.decodePairs (spells : Spells chars bytes) (position : Nat) :
    decodePairs position (utf8 chars) = .ok bytes := by
  induction bytes generalizing chars position with
  | nil =>
    obtain rfl := List.map_eq_nil_iff.mp spells
    rfl
  | cons byte rest ih =>
    have bound := byte.toNat_lt
    obtain ⟨high, _, rfl, first, spells⟩ := List.map_eq_cons_iff.mp spells
    obtain ⟨low, chars, rfl, second, spells⟩ := List.map_eq_cons_iff.mp spells
    obtain ⟨ascii, valueHigh⟩ := digitValue?_of_toLower (by omega) first
    obtain ⟨ascii', valueLow⟩ := digitValue?_of_toLower (by omega) second
    have whole : UInt8.ofNat (16 * (byte.toNat / 16) + byte.toNat % 16) = byte := by
      rw [Nat.div_add_mod, UInt8.ofNat_toNat]
    rw [utf8_cons ascii, utf8_cons ascii', Hex.decodePairs, valueHigh, valueLow]
    dsimp only
    rw [ih spells, whole]
    rfl

/-- What is read consists of the digits of the bytes. -/
theorem spells_of_decodePairs {position : Nat}
    (read : decodePairs position (utf8 chars) = .ok bytes) : Spells chars bytes := by
  induction bytes generalizing position chars with
  | nil =>
    obtain ⟨encoded, -⟩ | ⟨_, _, _, _, _, _, -, -, -, -, impossible⟩ := decodePairs_cases read
    · obtain rfl := utf8_eq_nil_iff.mp encoded
      rfl
    · cases impossible
  | cons byte bytes ih =>
    obtain ⟨-, impossible⟩ | ⟨high, low, rest, h, l, _, encoded, valueHigh, valueLow, others,
      same⟩ := decodePairs_cases read
    · cases impossible
    cases same
    obtain ⟨small, c, _, rfl, first, behind⟩ := toLower_of_digitValue? encoded valueHigh
    obtain ⟨small', d, tail, rfl, second, rfl⟩ := toLower_of_digitValue? behind valueLow
    have byte : (UInt8.ofNat (16 * h + l)).toNat = 16 * h + l := by
      simp only [UInt8.toNat_ofNat']
      omega
    have quotient : (16 * h + l) / 16 = h := by omega
    have remainder : (16 * h + l) % 16 = l := by omega
    rw [Spells, List.map_cons, List.map_cons, ih others, first, second, digits_cons, byte, quotient,
      remainder]

theorem length_of_decode {text : Bytes} (read : decode text = .ok bytes) :
    text.length = 2 * bytes.length := by
  rw [decode] at read
  split at read
  · cases read
  · exact length_of_decodePairs read

/-- Digits are read as the bytes that they are the digits of, and nothing else is read. -/
theorem decode_utf8_iff : decode (utf8 chars) = .ok bytes ↔ Spells chars bytes := by
  rw [decode]
  constructor
  · intro read
    split at read
    · cases read
    · exact spells_of_decodePairs read
  · intro spells
    have pairs := spells.decodePairs 0
    have even : ¬(utf8 chars).length % 2 = 1 := by
      rw [length_of_decodePairs pairs]
      omega
    rw [if_neg even, pairs]

/-- Bytes are written in lower case. -/
theorem spells_digits (bytes : Bytes) : Spells (digits bytes) bytes := by
  have lower : ∀ n : Fin 16, (digit n).toLower = digit n := by decide
  induction bytes with
  | nil => rfl
  | cons byte rest ih =>
    have bound := byte.toNat_lt
    rw [Spells, digits_cons, List.map_cons, List.map_cons, ih,
      lower ⟨byte.toNat / 16, by omega⟩, lower ⟨byte.toNat % 16, by omega⟩]

/-- A digit is no `x`, so spelled bytes do not begin with `0x`. -/
theorem Spells.unmarked (spells : Spells chars bytes) (rest : List Char) :
    chars ≠ '0' :: 'x' :: rest := by
  rintro rfl
  have none : ∀ n : Fin 16, 'x'.toLower ≠ digit n := by decide
  cases bytes with
  | nil => cases spells
  | cons byte _ =>
    have second := (List.cons.inj (List.cons.inj spells).2).1
    exact none ⟨byte.toNat % 16, Nat.mod_lt _ (by decide)⟩ second

/-- Bytes begin with those of `0x` exactly if the characters do. -/
theorem utf8_marked (encoded : utf8 chars = 0x30 :: 0x78 :: rest) :
    ∃ tail, chars = '0' :: 'x' :: tail ∧ utf8 tail = rest := by
  have single {c : Char} {code : Nat} (small : c.toNat < 128) (bound : code < 128)
      (same : UInt8.ofNat c.toNat = UInt8.ofNat code) : c = Char.ofNat code := by
    have codes := congrArg UInt8.toNat same
    simp only [UInt8.toNat_ofNat'] at codes
    have whole : c.toNat = code := by omega
    rw [← whole, Char.ofNat_toNat]
  obtain ⟨c, _, rfl, small, first, others⟩ := utf8_eq_cons encoded (by decide)
  obtain ⟨d, tail, rfl, small', second, behind⟩ := utf8_eq_cons others (by decide)
  rw [single small (by decide : 0x30 < 128) first, single small' (by decide : 0x78 < 128) second]
  exact ⟨tail, rfl, behind⟩

theorem dropMark_utf8 (chars : List Char) :
    (∃ tail, chars = '0' :: 'x' :: tail ∧ dropMark (utf8 chars) = utf8 tail) ∨
      dropMark (utf8 chars) = utf8 chars := by
  unfold dropMark
  split
  · next rest encoded =>
    obtain ⟨tail, rfl, same⟩ := utf8_marked encoded
    exact .inl ⟨tail, rfl, same.symm⟩
  · exact .inr rfl

theorem dropMarks_utf8 (chars : List Char) :
    ∃ count tail, chars = marks count ++ tail ∧ dropMarks (utf8 chars) = utf8 tail := by
  generalize encoded : utf8 chars = text
  induction text using dropMarks.induct generalizing chars with
  | case1 rest ih =>
    obtain ⟨tail, rfl, behind⟩ := utf8_marked encoded
    obtain ⟨count, tail, rfl, dropped⟩ := ih tail behind
    exact ⟨count + 1, tail, rfl, by rw [dropMarks, dropped]⟩
  | case2 text unmarked =>
    refine ⟨0, chars, rfl, ?_⟩
    rw [dropMarks, encoded]
    exact unmarked

/-- Behind the marks nothing more is removed from digits. -/
theorem Spells.dropMarks (spells : Spells chars bytes) (count : Nat) :
    dropMarks (utf8 (marks count ++ chars)) = utf8 chars := by
  induction count with
  | zero =>
    obtain ⟨count, tail, whole, dropped⟩ := dropMarks_utf8 chars
    cases count with
    | zero =>
      obtain rfl : chars = tail := whole
      exact dropped
    | succ count => exact absurd whole (spells.unmarked _)
  | succ count ih => exact ih

/-- Behind any number of marks the digits of the bytes are read. -/
theorem decode_dropMarks_iff :
    decode (dropMarks (Bytes.ofText text)) = .ok bytes ↔ ∃ count, Marked count text bytes := by
  have whole : Bytes.ofText text = utf8 text.toList := rfl
  rw [whole]
  constructor
  · intro read
    obtain ⟨count, tail, split, dropped⟩ := dropMarks_utf8 text.toList
    rw [dropped] at read
    exact ⟨count, tail, split, decode_utf8_iff.mp read⟩
  · rintro ⟨count, chars, split, spells⟩
    rw [split, spells.dropMarks, decode_utf8_iff.mpr spells]

/-- Behind at most one mark the digits of the bytes are read. -/
theorem decodeMarked_iff :
    decodeMarked text = .ok bytes ↔ ∃ count, count ≤ 1 ∧ Marked count text bytes := by
  have whole : Bytes.ofText text = utf8 text.toList := rfl
  rw [decodeMarked, whole]
  constructor
  · intro read
    rcases dropMark_utf8 text.toList with ⟨tail, split, dropped⟩ | dropped
    · rw [dropped] at read
      exact ⟨1, Nat.le_refl 1, tail, split, decode_utf8_iff.mp read⟩
    · rw [dropped] at read
      exact ⟨0, Nat.zero_le 1, text.toList, rfl, decode_utf8_iff.mp read⟩
  · rintro ⟨count, few, chars, split, spells⟩
    rw [split]
    match count with
    | 0 =>
      rcases dropMark_utf8 chars with ⟨tail, marked, -⟩ | dropped
      · exact absurd marked (spells.unmarked tail)
      · exact (congrArg decode dropped).trans (decode_utf8_iff.mpr spells)
    | 1 => exact decode_utf8_iff.mpr spells

theorem length_marks (count : Nat) : (marks count).length = 2 * count := by
  induction count with
  | zero => rfl
  | succ count ih =>
    have more : marks (count + 1) = '0' :: 'x' :: marks count := rfl
    rw [more, List.length_cons, List.length_cons, ih]
    omega

/-- A text stands behind one number of marks only. -/
theorem Marked.unique {other : Nat} {others : Bytes} (marked : Marked count text bytes)
    (marked' : Marked other text others) : count = other := by
  -- the bytes behind the marks are the same, so are their digits, and the rest is marks
  obtain ⟨chars, split, spells⟩ := marked
  obtain ⟨chars', split', spells'⟩ := marked'
  have behind := spells.dropMarks count
  rw [← split, split', spells'.dropMarks other] at behind
  have read := decode_utf8_iff.mpr spells
  rw [← behind, decode_utf8_iff.mpr spells'] at read
  cases read
  have lengths := congrArg List.length (split.symm.trans split')
  have digits := congrArg List.length (spells.trans spells'.symm)
  simp only [List.length_append, length_marks, List.length_map] at lengths digits
  omega

/-- Bytes that are written with `0x` before them are read back. -/
theorem decodeMarked_encode (bytes : Bytes) : decodeMarked (encode bytes) = .ok bytes := by
  refine decodeMarked_iff.mpr ⟨1, Nat.le_refl 1, digits bytes, ?_, ?_⟩
  · rw [encode, String.toList_ofList]
    rfl
  · exact spells_digits bytes

end

end Hex

theorem Address.ofBytes_toBytes (address : Address) : ofBytes address.toBytes = address := by
  have fits : address.toNat < 1 <<< (8 * 20) := address.isLt
  apply BitVec.eq_of_toNat_eq
  rw [ofBytes, toBytes, Bytes.ofBigEndian_bigEndian, Nat.mod_eq_of_lt fits, BitVec.toNat_ofNat,
    Nat.mod_eq_of_lt address.isLt]

theorem Address.toBytes_ofBytes {bytes : Bytes} (length : bytes.length = 20) :
    (ofBytes bytes).toBytes = bytes := by
  have fits := Bytes.ofBigEndian_lt bytes
  rw [length] at fits
  have number : (ofBytes bytes).toNat = Bytes.ofBigEndian bytes :=
    (BitVec.toNat_ofNat _ 160).trans (Nat.mod_eq_of_lt fits)
  rw [toBytes, number, ← length, Bytes.bigEndian_ofBigEndian]

/-- The digits of twenty bytes behind at most one `0x` are read as an address, and nothing else. -/
theorem Address.parse_iff {text : String} {address : Address} :
    parse text = .ok address ↔ ∃ count, count ≤ 1 ∧ Hex.Marked count text address.toBytes := by
  rw [← Hex.decodeMarked_iff, Hex.decodeMarked, parse]
  generalize Hex.dropMark (Bytes.ofText text) = digits
  constructor
  · intro read
    split at read
    · cases read
    · split at read
      · cases read
      · next length =>
        cases decoded : Hex.decode digits with
        | error error => cases error <;> simp [decoded] at read
        | ok bytes =>
          have pairs := Hex.length_of_decode decoded
          rw [decoded] at read
          cases read
          rw [toBytes_ofBytes (by omega)]
  · intro decoded
    have pairs := Hex.length_of_decode decoded
    have twenty : address.toBytes.length = 20 := Bytes.length_bigEndian 20 _
    rw [if_neg (by omega), if_neg (by omega), decoded]
    exact congrArg Except.ok (ofBytes_toBytes address)

end VaultKeeper
