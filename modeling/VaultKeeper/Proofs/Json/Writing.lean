import Mathlib.Data.List.Basic
import VaultKeeper.Json.Writer
import VaultKeeper.Proofs.Json.Reading

/-! # What the writer writes

The writer writes each value as a text that denotes it, and so the reader gives the value back. Not
every value can be written: a string that denotes no text cannot, and a number has to be kept as a
number is written.
-/

namespace VaultKeeper.Json

/-! ## Strings -/

/-- The four digits of a control character. -/
def controlDigits (code : Nat) : List Char :=
  List.replicate (4 - (Text.hexDigits code).length) '0' ++ Text.hexDigits code

theorem controlDigits_spec : ∀ code : Fin 32,
    (controlDigits code).length = 4 ∧
      (controlDigits code).mapM Text.hexValue? = some [0, 0, code.val / 16, code.val % 16] ∧
      Text.valueOf 16 [0, 0, code.val / 16, code.val % 16] = code.val := by
  decide +kernel

/-- A character is written as itself, by a short escape or by its code. -/
theorem writes_writeChar (c : Char) : Writes (writeChar c) c.toNat := by
  unfold writeChar
  split_ifs with quote slash back feed line carriage tab control
  · subst quote
    exact .escape rfl
  · subst slash
    exact .escape rfl
  · exact back ▸ .escape rfl
  · exact feed ▸ .escape rfl
  · exact line ▸ .escape rfl
  · exact carriage ▸ .escape rfl
  · exact tab ▸ .escape rfl
  · obtain ⟨four, hex, value⟩ := controlDigits_spec ⟨c.toNat, control⟩
    have code := Writes.code four hex
    rw [value] at code
    exact code
  · exact .plain quote slash (Nat.le_of_not_lt control)

theorem quotes_flatMap (chars : List Char) :
    Quotes (chars.flatMap writeChar) (chars.map Char.toNat) := by
  induction chars with
  | nil => exact .nil
  | cons c chars ih => exact .cons (writes_writeChar c) ih

/-- No character is half of a surrogate pair. -/
theorem joinUnits_toNat (chars : List Char) : joinUnits (chars.map Char.toNat) = some chars := by
  induction chars with
  | nil => rfl
  | cons c chars ih =>
    have valid : c.toNat < 0xd800 ∨ 0xdfff < c.toNat ∧ c.toNat < 0x110000 := c.valid
    cases chars with
    | nil =>
      rw [List.map_singleton, joinUnits, if_neg (by omega), Char.ofNat_toNat]
    | cons next chars =>
      rw [List.map_cons] at ih ⊢
      rw [List.map_cons, joinUnits, if_neg (by omega), if_neg (by omega), ih, Char.ofNat_toNat]
      rfl

theorem denoted_toNat (text : String) : denoted (text.toList.map Char.toNat) = some text := by
  rw [denoted, joinUnits_toNat, Option.map_some, String.ofList_toList]

theorem toList_writeText (text : String) :
    (writeText text).toList = '"' :: (text.toList.flatMap writeChar ++ ['"']) := by
  rw [writeText, String.toList_ofList]
  rfl

theorem spells_writeText (text : String) :
    Spells (writeText text).toList (.string (some text)) := by
  rw [toList_writeText, ← denoted_toNat text]
  exact .string (quotes_flatMap text.toList)

/-! ## Values -/

/-- Values that can be written: every string denotes text, and every number is kept as a number is
written. -/
inductive Writable : Json → Prop
  | null : Writable .null
  | bool (value : Bool) : Writable (.bool value)
  | number {literal : List Char} (written : Literal literal) :
      Writable (.number (String.ofList literal))
  | string (text : String) : Writable (.string (some text))
  | array {items : List Json} (each : ∀ item ∈ items, Writable item) : Writable (.array items)
  | object {members : List (Text × Json)} (keys : ∀ member ∈ members, member.1.isSome)
      (each : ∀ member ∈ members, Writable member.2) : Writable (.object members)

theorem blank_nil : Blank [] :=
  nofun

/-- Parts that are written one by one make a list when commas stand between them. -/
theorem listed_intercalate {α : Type} {close : Char} {Part : List Char → α → Prop}
    {write : α → String} {first : α} {others : List α}
    (written : ∀ value ∈ first :: others, Part (write value).toList value) :
    Listed close Part ((",".intercalate ((first :: others).map write)).toList ++ [close])
      (first :: others) := by
  induction others generalizing first with
  | nil =>
    rw [List.map_singleton, String.intercalate_singleton]
    exact .last (written first List.mem_cons_self) blank_nil
  | cons second others ih =>
    have later := ih fun value member => written value (List.mem_cons_of_mem first member)
    have split : (",".intercalate ((first :: second :: others).map write)).toList ++ [close] =
        (write first).toList ++ ([] ++ ',' :: ([] ++
          ((",".intercalate ((second :: others).map write)).toList ++ [close]))) := by
      rw [List.map_cons, List.map_cons, String.intercalate_cons_cons, String.toList_append,
        String.toList_append, List.append_assoc, List.append_assoc]
      rfl
    rw [split]
    exact .more (written first List.mem_cons_self) blank_nil blank_nil later

theorem enclosed_intercalate {α : Type} {close : Char} {Part : List Char → α → Prop}
    {write : α → String} {values : List α}
    (written : ∀ value ∈ values, Part (write value).toList value) :
    Enclosed close Part ((",".intercalate (values.map write)).toList ++ [close]) values := by
  cases values with
  | nil => exact .empty blank_nil
  | cons first others =>
    exact @Enclosed.list _ _ _ [] _ _ blank_nil (listed_intercalate written)

theorem writeItems_eq (items : List Json) : writeItems items = items.map write := by
  induction items with
  | nil => rfl
  | cons item items ih => rw [writeItems, ih, List.map_cons]

/-- A member as it is written. -/
def writeMember (member : Text × Json) : String :=
  writeText (member.1.getD "") ++ ":" ++ write member.2

theorem writeMembers_eq (members : List (Text × Json)) :
    writeMembers members = members.map writeMember := by
  induction members with
  | nil => rfl
  | cons member members ih => rw [writeMembers, ih, List.map_cons, writeMember]

theorem member_writeMember {member : Text × Json} (key : member.1.isSome)
    (value : Spells (write member.2).toList member.2) :
    Member Spells (writeMember member).toList member := by
  obtain ⟨text, json⟩ := member
  obtain ⟨text, rfl⟩ := Option.isSome_iff_exists.mp key
  have written := Member.mk (quotes_flatMap text.toList) blank_nil blank_nil value
  rw [denoted_toNat] at written
  have split : (writeMember (some text, json)).toList =
      '"' :: (text.toList.flatMap writeChar ++ '"' :: ([] ++ ':' :: ([] ++ (write json).toList))) := by
    rw [writeMember, String.toList_append, String.toList_append, Option.getD_some,
      toList_writeText]
    simp
  rw [split]
  exact written

/-- A writable value is written as a text that denotes it. -/
theorem Writable.spells {json : Json} (writable : Writable json) :
    Spells (write json).toList json := by
  induction writable with
  | null =>
    rw [write]
    exact .word .null
  | bool value =>
    rw [write]
    cases value with
    | false => exact .word .false
    | true => exact .word .true
  | number written =>
    rw [write, String.toList_ofList]
    exact .number written
  | string text =>
    rw [write]
    exact spells_writeText text
  | array each ih =>
    rw [write, writeItems_eq, String.toList_append, String.toList_append]
    exact .array (enclosed_intercalate ih)
  | object keys each ih =>
    rw [write, writeMembers_eq, String.toList_append, String.toList_append]
    exact .object (enclosed_intercalate fun member listed =>
      member_writeMember (keys member listed) (ih member listed))

/-- What is written is read back as what it was. -/
theorem read_write {json : Json} (writable : Writable json) : read (write json) = some json :=
  read_iff.mpr ⟨[], (write json).toList, [], by simp, blank_nil, blank_nil, writable.spells⟩

end VaultKeeper.Json
