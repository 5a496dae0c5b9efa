import Mathlib.Data.List.Forall2
import VaultKeeper.Proofs.Contract

/-! # Where values stand in their encoding

Every value of a list has a place of one word in the head and, unless it is a word itself, a part of
the tail. Whoever follows the distances in the head finds each part of the tail where it is: reading
the values of an encoding returns them, and exact reading accepts nothing else.
-/

namespace VaultKeeper

theorem Word.ofBytes_toBytes (word : Word) : Word.ofBytes word.toBytes = word := by
  have fits : word.toNat < 1 <<< (8 * 32) := word.isLt
  apply BitVec.eq_of_toNat_eq
  rw [Word.ofBytes, Word.toBytes, Bytes.ofBigEndian_bigEndian, Nat.mod_eq_of_lt fits,
    BitVec.toNat_ofNat, Nat.mod_eq_of_lt word.isLt]

theorem Word.toBytes_ofBytes {bytes : Bytes} (whole : bytes.length = 32) :
    (Word.ofBytes bytes).toBytes = bytes := by
  have fits : Bytes.ofBigEndian bytes < 1 <<< (8 * 32) := whole ▸ Bytes.ofBigEndian_lt bytes
  have number : (Word.ofBytes bytes).toNat = Bytes.ofBigEndian bytes :=
    (BitVec.toNat_ofNat _ 256).trans (Nat.mod_eq_of_lt fits)
  rw [Word.toBytes, number, ← whole, Bytes.bigEndian_ofBigEndian]

@[simp] theorem Word.length_toBytes (word : Word) : word.toBytes.length = 32 :=
  Bytes.length_bigEndian 32 _

theorem Address.toNat_toWord (address : Address) : address.toWord.toNat = address.toNat := by
  have small : address.toNat < 1 <<< 160 := address.isLt
  exact (BitVec.toNat_ofNat _ 256).trans (Nat.mod_eq_of_lt (Nat.lt_trans small (by decide)))

theorem Address.toWord_ofWord {word : Word} (small : word.toNat < 1 <<< 160) :
    (Address.ofWord word).toWord = word := by
  have account : (Address.ofWord word).toNat = word.toNat :=
    (BitVec.toNat_ofNat _ 160).trans (Nat.mod_eq_of_lt small)
  apply BitVec.eq_of_toNat_eq
  rw [Address.toNat_toWord, account]

theorem Address.ofWord_toWord (address : Address) : Address.ofWord address.toWord = address := by
  apply BitVec.eq_of_toNat_eq
  rw [Address.ofWord, Address.toNat_toWord, BitVec.toNat_ofNat, Nat.mod_eq_of_lt address.isLt]

namespace Abi

/-- Words in their order, each of 32 bytes. -/
def row (words : List Word) : Bytes :=
  words.flatMap Word.toBytes

@[simp] theorem length_row (words : List Word) : (row words).length = 32 * words.length := by
  induction words with
  | nil => rfl
  | cons word rest ih =>
    rw [row, List.flatMap_cons, List.length_append, Word.length_toBytes, ← row, ih,
      List.length_cons]
    omega

theorem toNat_wordOfNat {n : Nat} (fits : n < 1 <<< 256) : (wordOfNat n).toNat = n :=
  (BitVec.toNat_ofNat n 256).trans (Nat.mod_eq_of_lt fits)

/-- The part stands in the data from the position on. -/
def StandsAt (data : Bytes) (position : Nat) (part : Bytes) : Prop :=
  ∃ before after, before.length = position ∧ data = before ++ part ++ after

section

variable {data part rest : Bytes} {position offset : Nat} {word : Word} {words : List Word}
  {value : Value} {values : List Value}

namespace StandsAt

theorem left (stands : StandsAt data position (part ++ rest)) : StandsAt data position part := by
  obtain ⟨before, after, length, rfl⟩ := stands
  exact ⟨before, rest ++ after, length, by simp only [List.append_assoc]⟩

theorem right (stands : StandsAt data position (part ++ rest)) :
    StandsAt data (position + part.length) rest := by
  obtain ⟨before, after, length, rfl⟩ := stands
  exact ⟨before ++ part, after, by rw [List.length_append, length],
    by simp only [List.append_assoc]⟩

theorem within (stands : StandsAt data position part) :
    position + part.length ≤ data.length := by
  obtain ⟨before, after, length, rfl⟩ := stands
  rw [List.length_append, List.length_append, length]
  exact Nat.le_add_right _ _

theorem take_drop (stands : StandsAt data position part) :
    (data.drop position).take part.length = part := by
  obtain ⟨before, after, rfl, rfl⟩ := stands
  rw [List.append_assoc, List.drop_left, List.take_left]

/-- Two parts, one where the other ends, stand there together. -/
theorem append (first : StandsAt data position part)
    (second : StandsAt data (position + part.length) rest) :
    StandsAt data position (part ++ rest) := by
  obtain ⟨before, others, rfl, rfl⟩ := first
  obtain ⟨front, after, length, same⟩ := second
  rw [List.append_assoc front] at same
  have front : before ++ part = front := by
    refine List.append_inj_left same ?_
    rw [List.length_append, length]
  subst front
  have behind : others = rest ++ after := List.append_cancel_left same
  subst behind
  exact ⟨before, after, rfl, by simp only [List.append_assoc]⟩

end StandsAt

/-- A word is read where it stands. -/
theorem wordAt_of_standsAt (stands : StandsAt data position word.toBytes) :
    wordAt data position = some word := by
  have within := stands.within
  have slice := stands.take_drop
  rw [Word.length_toBytes] at within slice
  rw [wordAt, if_pos within, slice, Word.ofBytes_toBytes]

/-- The word that is read at a place is the one that stands there. -/
theorem wordAt_eq_some_iff :
    wordAt data position = some word ↔ StandsAt data position word.toBytes := by
  refine ⟨fun read => ?_, wordAt_of_standsAt⟩
  unfold wordAt at read
  split at read
  · next within =>
    cases read
    have before : (data.take position).length = position := by
      rw [List.length_take]
      omega
    have slice : ((data.drop position).take 32).length = 32 := by
      rw [List.length_take, List.length_drop]
      omega
    refine ⟨data.take position, (data.drop position).drop 32, before, ?_⟩
    rw [Word.toBytes_ofBytes slice, List.append_assoc, List.take_append_drop,
      List.take_append_drop]
  · cases read

/-- A row of words is read where it stands. -/
theorem wordsAt_of_standsAt (stands : StandsAt data position (row words)) :
    wordsAt data position words.length = some words := by
  induction words generalizing position with
  | nil => rfl
  | cons word rest ih =>
    have first := wordAt_of_standsAt stands.left
    have others := stands.right
    rw [Word.length_toBytes] at others
    rw [List.length_cons, wordsAt, first, Option.bind_eq_bind, Option.bind_some, ih others]
    rfl

/-- A row stands where its first word stands and the others follow. -/
theorem standsAt_row_cons_iff :
    StandsAt data position (row (word :: words)) ↔
      StandsAt data position word.toBytes ∧ StandsAt data (position + 32) (row words) := by
  rw [row, List.flatMap_cons, ← row]
  constructor
  · intro stands
    have behind := stands.right
    rw [Word.length_toBytes] at behind
    exact ⟨stands.left, behind⟩
  · rintro ⟨first, others⟩
    rw [← Word.length_toBytes word] at others
    exact first.append others

theorem row_singleton (word : Word) : row [word] = word.toBytes := by
  rw [row, List.flatMap_singleton]

/-- A row says which words it consists of. -/
theorem row_injective {others : List Word} (length : words.length = others.length)
    (same : row words = row others) : words = others := by
  have stands (words : List Word) : StandsAt (row words) 0 (row words) :=
    ⟨[], [], rfl, (List.append_nil _).symm⟩
  have read := wordsAt_of_standsAt (stands words)
  rw [length, same, wordsAt_of_standsAt (stands others)] at read
  exact (Option.some.inj read).symm

/-- Values stand in the data as an encoding lays them out: their places from `position` on and their
tails from `offset` on. -/
structure Laid (data : Bytes) (position offset : Nat) (values : List Value) : Prop where
  heads : StandsAt data position (heads offset values)
  tails : StandsAt data offset (values.flatMap tail)

/-- An encoding begins with the places of its values, and the tails follow. -/
theorem laid_encode (values : List Value) :
    Laid (encode values) 0 (32 * values.length) values where
  heads := ⟨[], values.flatMap tail, rfl, rfl⟩
  tails := ⟨Abi.heads (32 * values.length) values, [], length_heads _ _,
    (List.append_nil _).symm⟩

namespace Laid

/-- The place of the first value holds the word of its head. -/
theorem head (laid : Laid data position offset (value :: values)) :
    wordAt data position = some (head offset value) :=
  wordAt_of_standsAt laid.heads.left

theorem tail (laid : Laid data position offset (value :: values)) :
    StandsAt data offset (tail value) :=
  laid.tails.left

theorem behind (laid : Laid data position offset (value :: values)) :
    Laid data (position + 32) (offset + (Abi.tail value).length) values where
  heads := by simpa only [Word.length_toBytes] using laid.heads.right
  tails := laid.tails.right

/-- Where a tail starts is less than what a word can hold. -/
theorem offset_lt (laid : Laid data position offset values) (small : data.length < 1 <<< 256) :
    offset < 1 <<< 256 := by
  have within := laid.tails.within
  omega

end Laid

/-- A value that its kind allows is read where it stands. -/
theorem decodeAt_of_laid {kind : Kind} (small : data.length < 1 <<< 256)
    (laid : Laid data position offset (value :: values)) (allowed : kind.allows value) :
    decodeAt data position kind = some value := by
  have place := laid.head
  have stands := laid.tail
  cases kind with
  | single element =>
    cases value with
    | word word => exact congrArg (Option.map Value.word) place
    | bytes _ | words _ => cases allowed
  | array element =>
    cases value with
    | word _ | bytes _ => cases allowed
    | words words =>
      have start : (wordOfNat offset).toNat = offset := toNat_wordOfNat (laid.offset_lt small)
      have within := stands.within
      have length : wordAt data offset = some (wordOfNat words.length) :=
        wordAt_of_standsAt stands.left
      have items : StandsAt data (offset + 32) (row words) := by
        rw [← Word.length_toBytes (wordOfNat words.length)]
        exact stands.right
      have room := items.within
      rw [length_row] at room
      have count : (wordOfNat words.length).toNat = words.length := toNat_wordOfNat (by omega)
      have read := wordsAt_of_standsAt items
      simp only [decodeAt, place, Abi.head, Option.bind_eq_bind, Option.bind_some, start, length,
        count, room, if_true, read, Option.map_some]

/-- Values that their kinds allow are read where they stand. -/
theorem decodeFrom_of_laid {kinds : List Kind} (small : data.length < 1 <<< 256)
    (allowed : List.Forall₂ (fun kind value => kind.allows value = true) kinds values)
    (laid : Laid data position offset values) : decodeFrom data position kinds = some values := by
  induction allowed generalizing position offset with
  | nil => rfl
  | cons first _ ih =>
    rw [decodeFrom, decodeAt_of_laid small laid first, Option.bind_eq_bind, Option.bind_some,
      ih laid.behind]
    rfl

/-- A single word is read first, and the other values behind it. -/
theorem decodeFrom_single_iff {element : Element} {kinds : List Kind} :
    decodeFrom data position (.single element :: kinds) = some values ↔
      ∃ word rest, values = .word word :: rest ∧ StandsAt data position word.toBytes ∧
        decodeFrom data (position + 32) kinds = some rest := by
  constructor
  · intro read
    obtain ⟨_, first, read⟩ := Option.bind_eq_some_iff.mp read
    obtain ⟨rest, others, read⟩ := Option.bind_eq_some_iff.mp read
    obtain ⟨word, found, rfl⟩ := Option.map_eq_some_iff.mp first
    cases read
    exact ⟨word, rest, rfl, wordAt_eq_some_iff.mp found, others⟩
  · rintro ⟨word, rest, rfl, stands, others⟩
    rw [decodeFrom, decodeAt, wordAt_of_standsAt stands, others]
    rfl

theorem length_of_decodeFrom {kinds : List Kind}
    (read : decodeFrom data position kinds = some values) : kinds.length = values.length := by
  induction kinds generalizing position values with
  | nil =>
    cases read
    rfl
  | cons kind kinds ih =>
    obtain ⟨value, _, read⟩ := Option.bind_eq_some_iff.mp read
    obtain ⟨rest, others, read⟩ := Option.bind_eq_some_iff.mp read
    cases read
    rw [List.length_cons, List.length_cons, ih others]

/-- What is read exactly stands in the data in canonical form. -/
theorem canonical_of_decodeExact {kinds : List Kind} (read : decodeExact kinds data = some values) :
    data = encode values ∧
      List.Forall₂ (fun kind value => kind.allows value = true) kinds values := by
  obtain ⟨read', decoded, accepted⟩ := Option.bind_eq_some_iff.mp read
  split at accepted
  · next checks =>
    cases accepted
    obtain ⟨allowed, same⟩ := Bool.and_eq_true_iff.mp checks
    have length := length_of_decodeFrom decoded
    refine ⟨(eq_of_beq same).symm, List.forall₂_iff_zip.mpr ⟨length, fun member => ?_⟩⟩
    exact List.all_eq_true.mp allowed _ member
  · cases accepted

/-- Values that their kinds allow are read exactly from their canonical form. -/
theorem decodeExact_encode {kinds : List Kind}
    (allowed : List.Forall₂ (fun kind value => kind.allows value = true) kinds values)
    (small : (encode values).length < 1 <<< 256) :
    decodeExact kinds (encode values) = some values := by
  have decoded : decode kinds (encode values) = some values :=
    decodeFrom_of_laid small allowed (laid_encode values)
  have all {check : Kind × Value → Bool} (same : ∀ pair, check pair = pair.1.allows pair.2) :
      (kinds.zip values).all check = true := by
    refine List.all_eq_true.mpr fun pair member => ?_
    rw [same]
    exact (List.forall₂_iff_zip.mp allowed).2 member
  rw [decodeExact, decoded, Option.bind_eq_bind, Option.bind_some, all fun _ => rfl,
    beq_self_eq_true]
  rfl

end

end Abi

end VaultKeeper
