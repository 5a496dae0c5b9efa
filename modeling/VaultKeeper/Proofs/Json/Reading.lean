import VaultKeeper.Proofs.Json.Token

/-! # What a text denotes

`Denotes` says which value a text stands for, by the rules that JSON is written by. The reader
gives that value for every text that denotes one and nothing for any other text.
-/

namespace VaultKeeper.Json

open VaultKeeper.Text (dropWord)

variable {α : Type} {close : Char} {chars rest text : List Char} {value : α} {values : List α}
  {json : Json} {fuel : Nat}

/-! ## The grammar -/

/-- The words that are values. -/
inductive Names : String → Json → Prop
  | null : Names "null" .null
  | true : Names "true" (.bool true)
  | false : Names "false" (.bool false)

/-- One or more parts with commas between them, and the closing bracket. -/
inductive Listed {α : Type} (close : Char) (Part : List Char → α → Prop) :
    List Char → List α → Prop
  | last {part gap : List Char} {value : α} (written : Part part value) (blank : Blank gap) :
      Listed close Part (part ++ (gap ++ [close])) [value]
  | more {part before after later : List Char} {value : α} {values : List α}
      (written : Part part value) (blank : Blank before) (space : Blank after)
      (others : Listed close Part later values) :
      Listed close Part (part ++ (before ++ ',' :: (after ++ later))) (value :: values)

/-- What stands behind an opening bracket: the closing one, or a list. -/
inductive Enclosed {α : Type} (close : Char) (Part : List Char → α → Prop) :
    List Char → List α → Prop
  | empty {gap : List Char} (blank : Blank gap) : Enclosed close Part (gap ++ [close]) []
  | list {gap chars : List Char} {values : List α} (blank : Blank gap)
      (listed : Listed close Part chars values) : Enclosed close Part (gap ++ chars) values

/-- A member of an object: its key, a colon and its value. -/
inductive Member (Value : List Char → Json → Prop) : List Char → Text × Json → Prop
  | mk {key before after chars : List Char} {units : List Nat} {json : Json}
      (quotes : Quotes key units) (blank : Blank before) (space : Blank after)
      (written : Value chars json) :
      Member Value ('"' :: (key ++ '"' :: (before ++ ':' :: (after ++ chars))))
        (denoted units, json)

/-- A value as it may be written. -/
inductive Spells : List Char → Json → Prop
  | word {word : String} {json : Json} (names : Names word json) : Spells word.toList json
  | number {literal : List Char} (written : Literal literal) :
      Spells literal (.number (String.ofList literal))
  | string {chars : List Char} {units : List Nat} (quotes : Quotes chars units) :
      Spells ('"' :: (chars ++ ['"'])) (.string (denoted units))
  | array {chars : List Char} {items : List Json} (enclosed : Enclosed ']' Spells chars items) :
      Spells ('[' :: chars) (.array items)
  | object {chars : List Char} {members : List (Text × Json)}
      (enclosed : Enclosed '\x7d' (Member Spells) chars members) :
      Spells ('\x7b' :: chars) (.object members)

/-- A text that holds one value and white space around it. -/
def Denotes (text : String) (json : Json) : Prop :=
  ∃ before chars after, text.toList = before ++ (chars ++ after) ∧ Blank before ∧ Blank after ∧
    Spells chars json

/-! ## How what is written begins -/

/-- The first character is no white space and closes nothing. -/
def Begun (chars : List Char) : Prop :=
  ∃ c rest, chars = c :: rest ∧ isSpace c = false ∧ c ≠ ']' ∧ c ≠ '\x7d'

theorem Begun.ended (begun : Begun chars) (rest : List Char) : Ended isSpace (chars ++ rest) := by
  obtain ⟨c, chars, rfl, visible, -⟩ := begun
  exact ended_cons visible

theorem Begun.append (begun : Begun chars) (rest : List Char) : Begun (chars ++ rest) := by
  obtain ⟨c, chars, rfl, visible⟩ := begun
  exact ⟨c, chars ++ rest, rfl, visible⟩

theorem isSpace_iff {c : Char} : isSpace c = true ↔ c = ' ' ∨ c = '\n' ∨ c = '\t' ∨ c = '\r' := by
  simp [isSpace, or_assoc]

theorem ne_of_isDigit {c other : Char} (digit : c.isDigit = true) (odd : other.isDigit = false) :
    c ≠ other := by
  rintro rfl
  cases digit.symm.trans odd

/-- A number begins with its sign or with a digit. -/
theorem Literal.first (written : Literal chars) :
    ∃ c rest, chars = c :: rest ∧ ∀ other, other ≠ '-' → other.isDigit = false → c ≠ other := by
  obtain @⟨sign, whole, fraction, exponent, minus, ⟨⟨some, digit⟩, -⟩, -⟩ := written
  obtain ⟨c, digits, rfl⟩ := List.exists_cons_of_ne_nil some
  rcases minus with rfl | rfl
  · exact ⟨c, _, rfl, fun _ _ odd => ne_of_isDigit (digit c List.mem_cons_self) odd⟩
  · exact ⟨'-', _, rfl, fun _ signless _ => signless.symm⟩

theorem Spells.begun (spells : Spells chars json) : Begun chars := by
  cases spells with
  | word names => cases names <;> exact ⟨_, _, rfl, by decide⟩
  | number written =>
    obtain ⟨c, rest, rfl, other⟩ := written.first
    refine ⟨c, rest, rfl, ?_, other _ (by decide) rfl, other _ (by decide) rfl⟩
    rw [← Bool.not_eq_true, isSpace_iff]
    rintro (same | same | same | same) <;> exact other _ (by decide) rfl same
  | string | array | object => exact ⟨_, _, rfl, by decide⟩

theorem Listed.begun {Part : List Char → α → Prop}
    (begins : ∀ {chars value}, Part chars value → Begun chars)
    (listed : Listed close Part chars values) : Begun chars := by
  cases listed with
  | last written | more written => exact (begins written).append _

/-! ## Readers -/

/-- A reader of what is written in one way. Whatever it takes off a text is written so, and it
takes off whatever is written so, up to a length, unless the text goes on as a number does. -/
structure Reads (size : Nat) (read : List Char → Option (α × List Char))
    (Written : List Char → α → Prop) : Prop where
  takes {text rest : List Char} {value : α} (taken : read text = some (value, rest)) :
    ∃ chars, text = chars ++ rest ∧ Written chars value
  accepts {chars rest : List Char} {value : α} (written : Written chars value)
    (short : chars.length < size) (ended : Ended continuesNumber rest) :
    read (chars ++ rest) = some (value, rest)

/-- The closing bracket, or a comma and more parts. -/
def readRest (close : Char) (more : List Char → Option (List α × List Char)) (value : α) :
    List Char → Option (List α × List Char)
  | [] => none
  | c :: rest =>
    if c = close then some ([value], rest)
    else if c = ',' then
      (more (skipSpace rest)).bind fun later => some (value :: later.1, later.2)
    else none

/-- One part of a list and what is behind it. -/
def readPart (close : Char) (part : List Char → Option (α × List Char))
    (more : List Char → Option (List α × List Char)) (text : List Char) :
    Option (List α × List Char) :=
  (part text).bind fun taken => readRest close more taken.1 (skipSpace taken.2)

/-- The closing bracket, or the parts. -/
def readEnclosed (close : Char) (parts : List Char → Option (List α × List Char))
    (text : List Char) : Option (List α × List Char) :=
  if (skipSpace text).head? = some close then some ([], (skipSpace text).tail)
  else parts (skipSpace text)

/-- One member of an object. -/
def readMember (fuel : Nat) (text : List Char) : Option ((Text × Json) × List Char) :=
  if text.head? = some '"' then
    (readString text.tail).bind fun named =>
      if (skipSpace named.2).head? = some ':' then
        (readValue fuel (skipSpace (skipSpace named.2).tail)).bind fun taken =>
          some ((named.1, taken.1), taken.2)
      else none
  else none

theorem not_head_of_ne {c : Char} (other : ∀ rest, text = c :: rest → False) :
    ¬ text.head? = some c := by
  intro first
  obtain ⟨rest, same⟩ := List.head?_eq_some_iff.mp first
  exact other rest same

section

variable {more : List Char → Option (List α × List Char)}

theorem readRest_comma (open_ : close ≠ ',') (rest : List Char) :
    readRest close more value (',' :: rest) =
      (more (skipSpace rest)).bind fun later => some (value :: later.1, later.2) := by
  rw [readRest, if_neg open_.symm, if_pos rfl]

theorem readRest_other (closed : ∀ rest, text = close :: rest → False)
    (comma : ∀ rest, text = ',' :: rest → False) : readRest close more value text = none := by
  cases text with
  | nil => rfl
  | cons c rest =>
    have unclosed : c ≠ close := fun same => closed rest (same ▸ rfl)
    have uncontinued : c ≠ ',' := fun same => comma rest (same ▸ rfl)
    rw [readRest, if_neg unclosed, if_neg uncontinued]

theorem readEnclosed_empty (closed : skipSpace text = close :: rest) :
    readEnclosed close more text = some ([], rest) := by
  rw [readEnclosed, closed, if_pos List.head?_cons, List.tail_cons]

theorem readEnclosed_other (closed : ∀ rest, skipSpace text = close :: rest → False) :
    readEnclosed close more text = more (skipSpace text) :=
  if_neg (not_head_of_ne closed)

end

theorem readItems_succ (fuel : Nat) (text : List Char) :
    readItems (fuel + 1) text = readPart ']' (readValue fuel) (readItems fuel) text := by
  rw [readItems, readPart, Option.bind_eq_bind]
  congr 1
  funext ⟨item, rest⟩
  dsimp only
  split
  · next same => rw [same]; rfl
  · next same =>
    rw [same, readRest_comma (by decide)]
    rfl
  · next closed comma => exact (readRest_other closed comma).symm

theorem readMembers_succ (fuel : Nat) (text : List Char) :
    readMembers (fuel + 1) text = readPart '\x7d' (readMember fuel) (readMembers fuel) text := by
  rw [readMembers.eq_def, readPart]
  dsimp only
  split
  · next text =>
    rw [readMember, if_pos List.head?_cons, List.tail_cons, Option.bind_assoc]
    refine congrArg (Option.bind _) (funext fun named => ?_)
    split
    · next rest colon =>
      rw [colon, if_pos List.head?_cons, List.tail_cons, Option.bind_assoc]
      refine congrArg (Option.bind _) (funext fun taken => ?_)
      rw [Option.bind_some]
      split
      · next same => rw [same]; rfl
      · next same =>
        rw [same, readRest_comma (by decide)]
        rfl
      · next closed comma => exact (readRest_other closed comma).symm
    · next uncoloned =>
      rw [if_neg (not_head_of_ne uncoloned)]
      rfl
  · next unquoted =>
    rw [readMember, if_neg (not_head_of_ne unquoted)]
    rfl

/-- A value that a reader reads a part of. -/
theorem boxed_iff {read : List Char → Option (α × List Char)} {box : α → Json} :
    ((read text).bind fun taken => some (box taken.1, taken.2)) = some (json, rest) ↔
      ∃ value, read text = some (value, rest) ∧ json = box value := by
  rw [Option.bind_eq_some_iff]
  constructor
  · rintro ⟨⟨value, _⟩, taken, ⟨⟩⟩
    exact ⟨value, taken, rfl⟩
  · rintro ⟨value, taken, rfl⟩
    exact ⟨(value, rest), taken, rfl⟩

theorem readValue_string : readValue (fuel + 1) ('"' :: text) = some (json, rest) ↔
    ∃ string, readString text = some (string, rest) ∧ json = .string string := by
  rw [← boxed_iff, readValue, if_pos rfl]
  rfl

theorem readValue_array : readValue (fuel + 1) ('[' :: text) = some (json, rest) ↔
    ∃ items, readEnclosed ']' (readItems fuel) text = some (items, rest) ∧ json = .array items := by
  rw [← boxed_iff, readValue, if_neg (by decide), if_pos rfl]
  split
  · next closed =>
    rw [readEnclosed_empty closed]
    rfl
  · next closed =>
    rw [readEnclosed_other closed]
    rfl

theorem readValue_object : readValue (fuel + 1) ('\x7b' :: text) = some (json, rest) ↔
    ∃ members, readEnclosed '\x7d' (readMembers fuel) text = some (members, rest) ∧
      json = .object members := by
  rw [← boxed_iff, readValue, if_neg (by decide), if_neg (by decide), if_pos rfl]
  split
  · next closed =>
    rw [readEnclosed_empty closed]
    rfl
  · next closed =>
    rw [readEnclosed_other closed]
    rfl

theorem dropWord_iff {word : String} :
    dropWord word text = some rest ↔ text = word.toList ++ rest := by
  rw [dropWord]
  constructor
  · intro dropped
    split at dropped
    · next starts =>
      obtain ⟨behind, rfl⟩ := List.isPrefixOf_iff_prefix.mp starts
      rw [List.drop_left] at dropped
      cases dropped
      rfl
    · cases dropped
  · rintro rfl
    rw [if_pos (List.isPrefixOf_iff_prefix.mpr (List.prefix_append _ _)), List.drop_left]

theorem readWord_iff (word : String) {value : Json} :
    (dropWord word text).map (value, ·) = some (json, rest) ↔
      text = word.toList ++ rest ∧ json = value := by
  rw [Option.map_eq_some_iff]
  constructor
  · rintro ⟨_, dropped, ⟨⟩⟩
    exact ⟨dropWord_iff.mp dropped, rfl⟩
  · rintro ⟨same, rfl⟩
    exact ⟨rest, dropWord_iff.mpr same, rfl⟩

/-- Without a quote or a bracket before it, a value is a word or a number. -/
theorem readValue_bare {c : Char} (quote : c ≠ '"') (bracket : c ≠ '[') (brace : c ≠ '\x7b') :
    readValue (fuel + 1) (c :: text) = some (json, rest) ↔
      (∃ word, Names word json ∧ c :: text = word.toList ++ rest) ∨
        readNumber (c :: text) = some (json, rest) := by
  rw [readValue, if_neg quote, if_neg bracket, if_neg brace]
  constructor
  · intro read
    split at read
    · obtain ⟨same, rfl⟩ := (readWord_iff "null").mp read
      exact .inl ⟨_, .null, same⟩
    split at read
    · obtain ⟨same, rfl⟩ := (readWord_iff "true").mp read
      exact .inl ⟨_, .true, same⟩
    split at read
    · obtain ⟨same, rfl⟩ := (readWord_iff "false").mp read
      exact .inl ⟨_, .false, same⟩
    · exact .inr read
  · rintro (⟨word, names, same⟩ | counted)
    · cases names with
      | null =>
        cases same
        exact (readWord_iff "null").mpr ⟨rfl, rfl⟩
      | true =>
        cases same
        exact (readWord_iff "true").mpr ⟨rfl, rfl⟩
      | false =>
        cases same
        exact (readWord_iff "false").mpr ⟨rfl, rfl⟩
    · obtain ⟨literal, same, written, -⟩ := literal_of_read counted
      obtain ⟨_, _, rfl, other⟩ := written.first
      cases same
      rw [if_neg (other _ (by decide) rfl), if_neg (other _ (by decide) rfl),
        if_neg (other _ (by decide) rfl), counted]

/-! ## What the readers take and accept -/

theorem Blank.ended (blank : Blank chars) (ended : Ended continuesNumber rest) :
    Ended continuesNumber (chars ++ rest) := by
  cases chars with
  | nil => exact ended
  | cons c chars =>
    refine ended_cons ?_
    rcases isSpace_iff.mp (blank c List.mem_cons_self) with rfl | rfl | rfl | rfl <;> rfl

theorem Blank.skipSpace (blank : Blank chars) : skipSpace chars = [] := by
  have gone : Json.skipSpace (chars ++ []) = [] := skipSpace_append blank ended_nil
  rwa [List.append_nil] at gone

theorem reads_zero {Written : List Char → α → Prop} : Reads 0 (fun _ => none) Written where
  takes taken := by cases taken
  accepts _ short := absurd short (Nat.not_lt_zero _)

section

variable {size : Nat} {one : List Char → Option (α × List Char)}
  {more : List Char → Option (List α × List Char)} {Part : List Char → α → Prop}

theorem readRest_iff (open_ : close ≠ ',') :
    readRest close more value text = some (values, rest) ↔
      (text = close :: rest ∧ values = [value]) ∨
        ∃ behind others, text = ',' :: behind ∧ more (skipSpace behind) = some (others, rest) ∧
          values = value :: others := by
  constructor
  · intro read
    cases text with
    | nil => cases read
    | cons c behind =>
      rw [readRest] at read
      split at read
      · next closed =>
        cases read
        exact .inl ⟨congrArg (List.cons · rest) closed, rfl⟩
      · split at read
        · next comma =>
          obtain ⟨⟨others, _⟩, later, ended⟩ := Option.bind_eq_some_iff.mp read
          cases ended
          exact .inr ⟨behind, others, congrArg (List.cons · behind) comma, later, rfl⟩
        · cases read
  · rintro (⟨rfl, rfl⟩ | ⟨behind, others, rfl, later, rfl⟩)
    · exact if_pos rfl
    · rw [readRest_comma open_, later, Option.bind_some]

section

variable (closes : close = ']' ∨ close = '\x7d')
  (begins : ∀ {chars value}, Part chars value → Begun chars) (first : Reads size one Part)
  (others : Reads size more (Listed close Part))

include closes first others

theorem listed_of_read (taken : readPart close one more text = some (values, rest)) :
    ∃ chars, text = chars ++ rest ∧ Listed close Part chars values := by
  have open_ : close ≠ ',' := by rcases closes with rfl | rfl <;> decide
  obtain ⟨⟨value, behind⟩, read, continued⟩ := Option.bind_eq_some_iff.mp taken
  obtain ⟨chars, rfl, written⟩ := first.takes read
  obtain ⟨gap, blank, split⟩ := exists_blank behind
  rcases (readRest_iff open_).mp continued with ⟨closed, rfl⟩ | ⟨after, later, comma, read, rfl⟩
  · rw [closed] at split
    exact ⟨chars ++ (gap ++ [close]), by simp [split], .last written blank⟩
  · obtain ⟨space, clear, apart⟩ := exists_blank after
    obtain ⟨list, left, listed⟩ := others.takes read
    rw [comma, apart, left] at split
    exact ⟨chars ++ (gap ++ ',' :: (space ++ list)), by simp [split],
      .more written blank clear listed⟩

include begins in
theorem Listed.read (listed : Listed close Part chars values) (short : chars.length < size + 1)
    (ended : Ended continuesNumber rest) :
    readPart close one more (chars ++ rest) = some (values, rest) := by
  have open_ : close ≠ ',' := by rcases closes with rfl | rfl <;> decide
  cases listed with
  | @last chars gap value written blank =>
    simp only [List.append_assoc, List.cons_append, List.nil_append, List.length_append,
      List.length_singleton] at short ⊢
    have closed : skipSpace (gap ++ close :: rest) = close :: rest :=
      skipSpace_append blank (ended_cons (by rcases closes with rfl | rfl <;> rfl))
    have behind : Ended continuesNumber (gap ++ close :: rest) :=
      blank.ended (ended_cons (by rcases closes with rfl | rfl <;> rfl))
    have read := first.accepts written (by omega) behind
    rw [readPart, read, Option.bind_some, closed]
    exact (readRest_iff open_).mpr (.inl ⟨rfl, rfl⟩)
  | @more chars before after list value values written blank space listed =>
    simp only [List.append_assoc, List.cons_append, List.length_append, List.length_cons]
      at short ⊢
    have comma : skipSpace (before ++ ',' :: (after ++ (list ++ rest))) =
        ',' :: (after ++ (list ++ rest)) := skipSpace_append blank (ended_cons rfl)
    have apart : skipSpace (after ++ (list ++ rest)) = list ++ rest :=
      skipSpace_append space ((listed.begun begins).ended rest)
    have behind : Ended continuesNumber (before ++ ',' :: (after ++ (list ++ rest))) :=
      blank.ended (ended_cons rfl)
    have read := first.accepts written (by omega) behind
    have later := others.accepts listed (by omega) ended
    rw [← apart] at later
    rw [readPart, read, Option.bind_some, comma]
    exact (readRest_iff open_).mpr (.inr ⟨_, _, rfl, later, rfl⟩)

include begins in
theorem Reads.part : Reads (size + 1) (readPart close one more) (Listed close Part) where
  takes := listed_of_read closes first others
  accepts := Listed.read closes begins first others

end

theorem readEnclosed_iff :
    readEnclosed close more text = some (values, rest) ↔
      (skipSpace text = close :: rest ∧ values = []) ∨
        ((skipSpace text).head? ≠ some close ∧ more (skipSpace text) = some (values, rest)) := by
  rw [readEnclosed]
  constructor
  · intro read
    split at read
    · next closed =>
      obtain ⟨behind, same⟩ := List.head?_eq_some_iff.mp closed
      rw [same] at read
      cases read
      exact .inl ⟨same, rfl⟩
    · next open_ => exact .inr ⟨open_, read⟩
  · rintro (⟨closed, rfl⟩ | ⟨open_, read⟩)
    · rw [closed, if_pos List.head?_cons, List.tail_cons]
    · rw [if_neg open_, read]

theorem Reads.enclosed (closes : close = ']' ∨ close = '\x7d')
    (begins : ∀ {chars value}, Part chars value → Begun chars)
    (parts : Reads size more (Listed close Part)) :
    Reads size (readEnclosed close more) (Enclosed close Part) where
  takes {text rest values} taken := by
    obtain ⟨gap, blank, split⟩ := exists_blank text
    rcases readEnclosed_iff.mp taken with ⟨closed, rfl⟩ | ⟨-, read⟩
    · rw [closed] at split
      exact ⟨gap ++ [close], by simp [split], .empty blank⟩
    · obtain ⟨chars, left, listed⟩ := parts.takes read
      rw [left] at split
      exact ⟨gap ++ chars, by rw [split, List.append_assoc], .list blank listed⟩
  accepts {chars rest values} enclosed short ended := by
    have visible : isSpace close = false := by rcases closes with rfl | rfl <;> rfl
    refine readEnclosed_iff.mpr ?_
    cases enclosed with
    | empty blank =>
      rw [List.append_assoc]
      exact .inl ⟨skipSpace_append blank (ended_cons visible), rfl⟩
    | @list gap chars values blank listed =>
      have begun := listed.begun begins
      rw [List.length_append] at short
      rw [List.append_assoc, skipSpace_append blank (begun.ended rest)]
      refine .inr ⟨?_, parts.accepts listed (by omega) ended⟩
      obtain ⟨c, chars, rfl, -, bracket, brace⟩ := begun
      rcases closes with rfl | rfl <;> simpa

end

theorem Member.begun {Value : List Char → Json → Prop} {member : Text × Json}
    (written : Member Value chars member) : Begun chars := by
  cases written
  exact ⟨_, _, rfl, by decide⟩

theorem readMember_iff {key : Text} : readMember fuel text = some ((key, json), rest) ↔
    ∃ named behind after, text = '"' :: named ∧ readString named = some (key, behind) ∧
      skipSpace behind = ':' :: after ∧ readValue fuel (skipSpace after) = some (json, rest) := by
  constructor
  · intro read
    rw [readMember] at read
    split at read
    · next quoted =>
      obtain ⟨named, rfl⟩ := List.head?_eq_some_iff.mp quoted
      obtain ⟨⟨key, behind⟩, keyed, continued⟩ := Option.bind_eq_some_iff.mp read
      dsimp only at continued
      split at continued
      · next colon =>
        obtain ⟨after, colon⟩ := List.head?_eq_some_iff.mp colon
        obtain ⟨⟨json, _⟩, valued, ended⟩ := Option.bind_eq_some_iff.mp continued
        cases ended
        rw [colon, List.tail_cons] at valued
        exact ⟨named, behind, after, rfl, keyed, colon, valued⟩
      · cases continued
    · cases read
  · rintro ⟨named, behind, after, rfl, keyed, colon, valued⟩
    simp only [readMember, List.head?_cons, List.tail_cons, if_true, keyed, colon, valued,
      Option.bind_some]

theorem reads_member (value : Reads fuel (readValue fuel) Spells) :
    Reads fuel (readMember fuel) (Member Spells) where
  takes {text rest member} taken := by
    obtain ⟨named, behind, after, rfl, keyed, colon, valued⟩ := readMember_iff.mp taken
    obtain ⟨key, units, rfl, quotes, same⟩ := readString_iff.mp keyed
    obtain ⟨before, blank, split⟩ := exists_blank behind
    obtain ⟨gap, space, apart⟩ := exists_blank after
    obtain ⟨chars, left, spells⟩ := value.takes valued
    rw [colon, apart, left] at split
    refine ⟨'"' :: (key ++ '"' :: (before ++ ':' :: (gap ++ chars))), by simp [split], ?_⟩
    have written := Member.mk quotes blank space spells
    rwa [← same] at written
  accepts {chars rest member} written short ended := by
    obtain @⟨key, before, after, chars, units, json, quotes, blank, space, spells⟩ := written
    simp only [List.append_assoc, List.cons_append, List.length_append, List.length_cons] at short ⊢
    refine readMember_iff.mpr ⟨_, _, _, rfl, readString_iff.mpr ⟨key, units, rfl, quotes, rfl⟩,
      skipSpace_append blank (ended_cons rfl), ?_⟩
    rw [skipSpace_append space (spells.begun.ended rest)]
    exact value.accepts spells (by omega) ended

section

variable (items : Reads fuel (readItems fuel) (Listed ']' Spells))
  (members : Reads fuel (readMembers fuel) (Listed '\x7d' (Member Spells)))

include items members

theorem spells_of_read (taken : readValue (fuel + 1) text = some (json, rest)) :
    ∃ chars, text = chars ++ rest ∧ Spells chars json := by
  cases text with
  | nil => cases taken
  | cons c text =>
    by_cases quote : c = '"'
    · subst quote
      obtain ⟨string, quoted, rfl⟩ := readValue_string.mp taken
      obtain ⟨chars, units, rfl, quotes, rfl⟩ := readString_iff.mp quoted
      exact ⟨'"' :: (chars ++ ['"']), by simp, .string quotes⟩
    by_cases bracket : c = '['
    · subst bracket
      obtain ⟨values, listed, rfl⟩ := readValue_array.mp taken
      obtain ⟨chars, rfl, enclosed⟩ := (items.enclosed (.inl rfl) Spells.begun).takes listed
      exact ⟨'[' :: chars, rfl, .array enclosed⟩
    by_cases brace : c = '\x7b'
    · subst brace
      obtain ⟨values, listed, rfl⟩ := readValue_object.mp taken
      obtain ⟨chars, rfl, enclosed⟩ := (members.enclosed (.inr rfl) Member.begun).takes listed
      exact ⟨'\x7b' :: chars, rfl, .object enclosed⟩
    rcases (readValue_bare quote bracket brace).mp taken with ⟨word, names, same⟩ | counted
    · exact ⟨word.toList, same, .word names⟩
    · obtain ⟨literal, same, written, rfl⟩ := literal_of_read counted
      exact ⟨literal, same, .number written⟩

theorem Spells.read (spells : Spells chars json) (short : chars.length < fuel + 1)
    (ended : Ended continuesNumber rest) :
    readValue (fuel + 1) (chars ++ rest) = some (json, rest) := by
  cases spells with
  | word names =>
    -- The word is needed as a whole and by its first letter.
    have bare := names
    cases bare <;>
      exact (readValue_bare (by decide) (by decide) (by decide)).mpr (.inl ⟨_, names, rfl⟩)
  | number written =>
    have counted := written.read ended
    obtain ⟨c, digits, rfl, other⟩ := written.first
    exact (readValue_bare (other _ (by decide) rfl) (other _ (by decide) rfl)
      (other _ (by decide) rfl)).mpr (.inr counted)
  | @string chars units quotes =>
    rw [List.cons_append, List.append_assoc]
    exact readValue_string.mpr ⟨_, readString_iff.mpr ⟨chars, units, rfl, quotes, rfl⟩, rfl⟩
  | array enclosed =>
    have short := Nat.lt_of_succ_lt_succ short
    have listed := (items.enclosed (.inl rfl) Spells.begun).accepts enclosed short ended
    exact readValue_array.mpr ⟨_, listed, rfl⟩
  | object enclosed =>
    have short := Nat.lt_of_succ_lt_succ short
    have listed := (members.enclosed (.inr rfl) Member.begun).accepts enclosed short ended
    exact readValue_object.mpr ⟨_, listed, rfl⟩

end

/-- Fuel above the length of what is written is enough: each of the three readers spends one unit
and takes at least one character before it calls another. -/
theorem reads (fuel : Nat) :
    Reads fuel (readValue fuel) Spells ∧
    Reads fuel (readItems fuel) (Listed ']' Spells) ∧
    Reads fuel (readMembers fuel) (Listed '\x7d' (Member Spells)) := by
  induction fuel with
  | zero =>
    rw [funext readValue.eq_1, funext readItems.eq_1, funext readMembers.eq_1]
    exact ⟨reads_zero, reads_zero, reads_zero⟩
  | succ fuel ih =>
    obtain ⟨value, items, members⟩ := ih
    refine ⟨⟨spells_of_read items members, Spells.read items members⟩, ?_, ?_⟩
    · rw [funext (readItems_succ fuel)]
      exact .part (.inl rfl) Spells.begun value items
    · rw [funext (readMembers_succ fuel)]
      exact .part (.inr rfl) Member.begun (reads_member value) members

/-- A text is read as a value when it denotes that value, and only then. -/
theorem read_iff {text : String} : read text = some json ↔ Denotes text json := by
  have value := (reads (2 * text.length + 2)).1
  constructor
  · intro read
    obtain ⟨⟨_, behind⟩, valued, ended⟩ := Option.bind_eq_some_iff.mp read
    obtain ⟨before, blank, split⟩ := exists_blank text.toList
    obtain ⟨chars, left, spells⟩ := value.takes valued
    obtain ⟨after, space, apart⟩ := exists_blank behind
    dsimp only at ended
    split at ended
    · next last =>
      cases ended
      rw [List.isEmpty_iff.mp last, List.append_nil] at apart
      subst apart
      rw [left] at split
      exact ⟨before, chars, _, split, blank, space, spells⟩
    · cases ended
  · rintro ⟨before, chars, after, split, blank, space, spells⟩
    have short : chars.length < 2 * text.length + 2 := by
      rw [← String.length_toList, split, List.length_append, List.length_append]
      omega
    have behind : Ended continuesNumber after := List.append_nil after ▸ space.ended ended_nil
    have valued := value.accepts spells short behind
    rw [Json.read, split, skipSpace_append blank (spells.begun.ended after)]
    exact Option.bind_eq_some_iff.mpr ⟨_, valued, by simp [space.skipSpace]⟩

end VaultKeeper.Json
