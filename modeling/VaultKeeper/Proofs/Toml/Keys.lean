import Mathlib.Data.List.Nodup
import Mathlib.Tactic.SplitIfs
import VaultKeeper.Toml.Reader

/-! # Keys of a document

No table of a document that can be read has a key twice, on whatever lines and by whatever headers
and dotted keys its entries came together. Each line adds to the draft of the document by putting
one entry in the place of another one or at the end, and it does so only where no value stands yet.
-/

namespace VaultKeeper.Toml

/-- Every table in the value has each of its keys once. -/
inductive Distinct : Toml → Prop
  | boolean (value : Bool) : Distinct (boolean value)
  | integer (value : Int) : Distinct (integer value)
  | float (value : Float) : Distinct (float value)
  | string (value : String) : Distinct (string value)
  | moment (value : Moment) : Distinct (moment value)
  | array {items : List Toml} (each : ∀ item ∈ items, Distinct item) : Distinct (array items)
  | table {entries : List (String × Toml)} (keys : (entries.map Prod.fst).Nodup)
      (each : ∀ entry ∈ entries, Distinct entry.2) : Distinct (table entries)

namespace Draft

/-- Every table in the draft has each of its keys once. -/
inductive Distinct : Draft → Prop
  | leaf {value : Toml} (distinct : value.Distinct) : Distinct (leaf value)
  | table {origin : Origin} {entries : Entries} (keys : (entries.map Prod.fst).Nodup)
      (each : ∀ entry ∈ entries, Distinct entry.2) : Distinct (table origin entries)
  | tables {items : List Entries} (keys : ∀ entries ∈ items, (entries.map Prod.fst).Nodup)
      (each : ∀ entries ∈ items, ∀ entry ∈ entries, Distinct entry.2) : Distinct (tables items)

/-- The entries of a table with distinct keys, all the way down. -/
structure Orderly (entries : Entries) : Prop where
  keys : (entries.map Prod.fst).Nodup
  each : ∀ entry ∈ entries, entry.2.Distinct

section

variable {entries inner after : Entries} {key : String} {draft : Draft} {origin step : Origin}
  {path : List String}

theorem orderly_nil : Orderly [] :=
  ⟨.nil, nofun⟩

theorem Orderly.found (orderly : Orderly entries) (found : entries.lookup key = some draft) :
    draft.Distinct := by
  obtain ⟨before, after, rfl, -⟩ := List.lookup_eq_some_iff.mp found
  exact orderly.each (key, draft) (by simp)

theorem mem_put {entry : String × Draft} (member : entry ∈ put key draft entries) :
    entry = (key, draft) ∨ entry ∈ entries := by
  induction entries with
  | nil => exact .inl (List.mem_singleton.mp member)
  | cons first rest ih =>
    rw [put] at member
    split at member
    · exact (List.mem_cons.mp member).imp_right (List.mem_cons_of_mem first)
    · rcases List.mem_cons.mp member with rfl | later
      · exact .inr List.mem_cons_self
      · exact (ih later).imp_right (List.mem_cons_of_mem first)

theorem nodup_put (keys : (entries.map Prod.fst).Nodup) :
    ((put key draft entries).map Prod.fst).Nodup := by
  induction entries with
  | nil => exact List.nodup_singleton key
  | cons first rest ih =>
    obtain ⟨apart, keys'⟩ := List.nodup_cons.mp keys
    rw [put]
    split
    · next same => exact List.nodup_cons.mpr ⟨same ▸ apart, keys'⟩
    · next different =>
      refine List.nodup_cons.mpr ⟨?_, ih keys'⟩
      intro member
      obtain ⟨entry, present, same⟩ := List.mem_map.mp member
      rcases mem_put present with rfl | present
      · exact different same.symm
      · exact apart (same ▸ List.mem_map_of_mem present)

theorem Orderly.put (orderly : Orderly entries) (distinct : draft.Distinct) :
    Orderly (put key draft entries) where
  keys := nodup_put orderly.keys
  each := by
    intro entry member
    rcases mem_put member with rfl | member
    · exact distinct
    · exact orderly.each entry member

theorem Orderly.table (orderly : Orderly entries) : (table origin entries).Distinct :=
  .table orderly.keys orderly.each

theorem orderly_of_table (distinct : (Draft.table origin entries).Distinct) : Orderly entries := by
  cases distinct with
  | table keys each => exact ⟨keys, each⟩

theorem distinct_tables_iff {items : List Entries} :
    (tables items).Distinct ↔ ∀ entries ∈ items, Orderly entries := by
  constructor
  · intro distinct
    cases distinct with
    | tables keys each => exact fun entries member => ⟨keys entries member, each entries member⟩
  · intro orderly
    exact .tables (fun entries member => (orderly entries member).keys)
      fun entries member => (orderly entries member).each

/-- A change that keeps tables orderly does so wherever the path to it leads. -/
theorem orderly_descend {change : Origin → Entries → Option Entries}
    (kept : ∀ {origin entries after}, Orderly entries → change origin entries = some after →
      Orderly after)
    (orderly : Orderly entries) (changed : descend step change path origin entries = some after) :
    Orderly after := by
  induction path generalizing origin entries after with
  | nil => exact kept orderly changed
  | cons key path ih =>
    rw [descend] at changed
    split at changed
    · obtain ⟨inner, below, same⟩ := Option.bind_eq_some_iff.mp changed
      cases same
      exact orderly.put (ih orderly_nil below).table
    · cases changed
    · next found =>
      split at changed
      · cases changed
      · obtain ⟨inner, below, same⟩ := Option.bind_eq_some_iff.mp changed
        cases same
        exact orderly.put (ih (orderly_of_table (orderly.found found)) below).table
    · next items found =>
      have each := distinct_tables_iff.mp (orderly.found found)
      obtain ⟨last, atLast, changed⟩ := Option.bind_eq_some_iff.mp changed
      obtain ⟨inner, below, same⟩ := Option.bind_eq_some_iff.mp changed
      cases same
      refine orderly.put (distinct_tables_iff.mpr ?_)
      intro table member
      rcases List.mem_append.mp member with earlier | own
      · exact each table (List.dropLast_subset items earlier)
      · obtain rfl := List.mem_singleton.mp own
        exact ih (each last (List.mem_of_getLast? atLast)) below

theorem orderly_openTable (orderly : Orderly entries)
    (opened : openTable key origin entries = some after) : Orderly after := by
  unfold openTable at opened
  split at opened
  · cases opened
    exact orderly.put orderly_nil.table
  · next found =>
    cases opened
    exact orderly.put (orderly_of_table (orderly.found found)).table
  · cases opened

theorem orderly_openItem (orderly : Orderly entries)
    (opened : openItem key origin entries = some after) : Orderly after := by
  have fresh : ∀ entries ∈ [([] : Entries)], Orderly entries := by
    rintro _ (_ | ⟨_, ⟨⟩⟩)
    exact orderly_nil
  unfold openItem at opened
  split at opened
  · cases opened
    exact orderly.put (distinct_tables_iff.mpr fresh)
  · next items found =>
    cases opened
    refine orderly.put (distinct_tables_iff.mpr ?_)
    intro entries member
    rcases List.mem_append.mp member with earlier | new
    · exact distinct_tables_iff.mp (orderly.found found) entries earlier
    · exact fresh entries new
  · cases opened

theorem orderly_addPair {new : Toml} (distinct : new.Distinct) (orderly : Orderly entries)
    (added : addPair path key new origin entries = some after) : Orderly after := by
  refine orderly_descend ?_ orderly added
  intro origin entries after orderly changed
  unfold addValue at changed
  split at changed
  · cases changed
    exact orderly.put (.leaf distinct)
  · cases changed

/-- What a line gives as a value has distinct keys. -/
def Sound : Statement → Prop
  | .header .. | .item .. => True
  | .pair _ _ value => value.Distinct

theorem orderly_add {state next : State} {statement : Statement} (sound : Sound statement)
    (orderly : Orderly state.root) (added : add state statement = some next) :
    Orderly next.root := by
  cases statement with
  | header path key =>
    obtain ⟨root, changed, same⟩ := Option.bind_eq_some_iff.mp added
    cases same
    exact orderly_descend orderly_openTable orderly changed
  | item path key =>
    obtain ⟨root, changed, same⟩ := Option.bind_eq_some_iff.mp added
    cases same
    exact orderly_descend orderly_openItem orderly changed
  | pair path key new =>
    obtain ⟨root, changed, same⟩ := Option.bind_eq_some_iff.mp added
    cases same
    exact orderly_descend (orderly_addPair sound) orderly changed

theorem entriesToToml_eq_map :
    entriesToToml entries = entries.map fun entry => (entry.1, entry.2.toToml) := by
  induction entries with
  | nil => rw [entriesToToml, List.map_nil]
  | cons entry rest ih =>
    obtain ⟨key, draft⟩ := entry
    rw [entriesToToml, ih, List.map_cons]

theorem itemsToToml_eq_map {items : List Entries} :
    itemsToToml items = items.map fun entries => .table (entriesToToml entries) := by
  induction items with
  | nil => rw [itemsToToml, List.map_nil]
  | cons entries rest ih => rw [itemsToToml, ih, List.map_cons]

theorem distinct_entriesToToml (keys : (entries.map Prod.fst).Nodup)
    (each : ∀ entry ∈ entries, entry.2.toToml.Distinct) :
    (Toml.table (entriesToToml entries)).Distinct := by
  rw [entriesToToml_eq_map]
  refine .table ?_ ?_
  · rw [List.map_map]
    exact keys
  · intro _ member
    obtain ⟨entry, present, rfl⟩ := List.mem_map.mp member
    exact each entry present

/-- A draft stands for a value with distinct keys if it has distinct keys itself. -/
theorem distinct_toToml (distinct : draft.Distinct) : draft.toToml.Distinct := by
  induction distinct with
  | leaf distinct => rwa [toToml]
  | table keys _ ih =>
    rw [toToml]
    exact distinct_entriesToToml keys ih
  | tables keys _ ih =>
    rw [toToml, itemsToToml_eq_map]
    refine .array ?_
    intro _ member
    obtain ⟨entries, present, rfl⟩ := List.mem_map.mp member
    exact distinct_entriesToToml (keys entries present) (ih entries present)

theorem Orderly.distinct (orderly : Orderly entries) :
    (Toml.table (entriesToToml entries)).Distinct :=
  distinct_entriesToToml orderly.keys fun entry member =>
    distinct_toToml (orderly.each entry member)

end

end Draft

/-- What holds of a state and is kept by every step holds after all of them. -/
theorem holds_of_foldlM {State Item : Type} {step : State → Item → Option State}
    (holds : State → Prop) {sound : Item → Prop}
    (kept : ∀ {state next item}, sound item → holds state → step state item = some next →
      holds next)
    {items : List Item} (each : ∀ item ∈ items, sound item) {state final : State}
    (start : holds state) (folded : items.foldlM step state = some final) : holds final := by
  induction items generalizing state with
  | nil =>
    cases folded
    exact start
  | cons item items ih =>
    obtain ⟨first, others⟩ := List.forall_mem_cons.mp each
    rw [List.foldlM_cons] at folded
    obtain ⟨next, stepped, folded⟩ := Option.bind_eq_some_iff.mp folded
    exact ih others (kept first start stepped) folded

section

variable {fuel depth : Nat} {text rest : List Char} {value document : Toml}

theorem distinct_of_statements {statements : List Statement}
    (sound : ∀ statement ∈ statements, Draft.Sound statement)
    (made : ofStatements statements = some document) : document.Distinct := by
  obtain ⟨final, folded, same⟩ := Option.bind_eq_some_iff.mp made
  cases same
  have orderly : Draft.Orderly final.root :=
    holds_of_foldlM (fun state => Draft.Orderly state.root) Draft.orderly_add sound
      Draft.orderly_nil folded
  exact orderly.distinct

theorem distinct_of_pairs {pairs : List (List String × String × Toml)}
    (sound : ∀ pair ∈ pairs, pair.2.2.Distinct) (made : ofPairs pairs = some value) :
    value.Distinct := by
  obtain ⟨final, folded, same⟩ := Option.bind_eq_some_iff.mp made
  cases same
  have orderly : Draft.Orderly final :=
    holds_of_foldlM Draft.Orderly Draft.orderly_addPair sound Draft.orderly_nil folded
  exact orderly.distinct

/-! ## Values and lines -/

theorem distinct_of_ofInteger {number : Int} (made : ofInteger number = some value) :
    value.Distinct := by
  unfold ofInteger at made
  split at made
  · cases made
    exact .integer number
  · cases made

theorem distinct_of_readInBase {base : Nat} (read : readInBase base text = some (value, rest)) :
    value.Distinct := by
  obtain ⟨_, _, read⟩ := Option.bind_eq_some_iff.mp read
  obtain ⟨number, made, same⟩ := Option.bind_eq_some_iff.mp read
  cases same
  exact distinct_of_ofInteger made

theorem distinct_of_ofFloatText (made : ofFloatText text = some value) : value.Distinct := by
  unfold ofFloatText at made
  split at made
  · split at made
    · cases made
    · cases made
      exact .float _
  · cases made

theorem distinct_of_readDecimal {sign : List Char}
    (read : readDecimal sign text = some (value, rest)) : value.Distinct := by
  obtain ⟨_, _, read⟩ := Option.bind_eq_some_iff.mp read
  dsimp only at read
  split at read
  · cases read
  · obtain ⟨_, _, read⟩ := Option.bind_eq_some_iff.mp read
    obtain ⟨_, _, read⟩ := Option.bind_eq_some_iff.mp read
    split at read
    · obtain ⟨number, made, same⟩ := Option.bind_eq_some_iff.mp read
      cases same
      exact distinct_of_ofInteger made
    · obtain ⟨number, made, same⟩ := Option.bind_eq_some_iff.mp read
      cases same
      exact distinct_of_ofFloatText made

theorem distinct_of_readFloatWord {sign : List Char} {word : String}
    (read : readFloatWord sign word text = some (value, rest)) : value.Distinct := by
  obtain ⟨_, _, read⟩ := Option.bind_eq_some_iff.mp read
  split at read
  · cases read
    exact .float _
  · cases read

theorem distinct_of_readNumber (read : readNumber text = some (value, rest)) : value.Distinct := by
  unfold readNumber at read
  split at read
  · exact distinct_of_readInBase read
  · exact distinct_of_readInBase read
  · exact distinct_of_readInBase read
  · obtain read | ⟨_, read⟩ := Option.or_eq_some_iff.mp read
    · obtain read | ⟨_, read⟩ := Option.or_eq_some_iff.mp read
      · exact distinct_of_readFloatWord read
      · exact distinct_of_readFloatWord read
    · exact distinct_of_readDecimal read

theorem distinct_of_readScalar (read : readScalar text = some (value, rest)) : value.Distinct := by
  unfold readScalar at read
  split at read
  · cases read
  · split_ifs at read
    · obtain ⟨_, _, same⟩ := Option.map_eq_some_iff.mp read
      cases same
      exact .string _
    · obtain ⟨_, _, same⟩ := Option.map_eq_some_iff.mp read
      cases same
      exact .boolean _
    · obtain ⟨_, _, same⟩ := Option.map_eq_some_iff.mp read
      cases same
      exact .boolean _
    · split at read
      · cases read
        exact .moment _
      · exact distinct_of_readNumber read

/-- Whatever is left to be read and however deep it may be nested, values, the items of arrays and
the values of inline tables have distinct keys. -/
theorem distinct_of_readValues (fuel : Nat) :
    (∀ depth text value rest, readValue fuel depth text = some (value, rest) → value.Distinct) ∧
    (∀ depth text items rest, readItems fuel depth text = some (items, rest) →
      ∀ item ∈ items, item.Distinct) ∧
    ∀ depth text pairs rest, readPairs fuel depth text = some (pairs, rest) →
      ∀ pair ∈ pairs, pair.2.2.Distinct := by
  induction fuel with
  | zero =>
    refine ⟨?_, nofun, nofun⟩
    intro depth text value rest read
    unfold readValue at read
    exact distinct_of_readScalar read
  | succ fuel ih =>
    obtain ⟨values, lists, pairs⟩ := ih
    refine ⟨?_, ?_, ?_⟩
    · intro depth text value rest read
      unfold readValue at read
      split at read
      · next left =>
        cases left
        obtain ⟨⟨items, after⟩, listed, same⟩ := Option.bind_eq_some_iff.mp read
        cases same
        exact .array (lists _ _ _ _ listed)
      · next left =>
        cases left
        split at read
        · cases read
          exact .table .nil nofun
        · obtain ⟨⟨entries, after⟩, paired, read⟩ := Option.bind_eq_some_iff.mp read
          obtain ⟨table, made, same⟩ := Option.bind_eq_some_iff.mp read
          cases same
          exact distinct_of_pairs (pairs _ _ _ _ paired) made
      · exact distinct_of_readScalar read
    · intro depth text items rest read
      unfold readItems at read
      split at read
      · cases read
        exact nofun
      · obtain ⟨⟨item, after⟩, first, read⟩ := Option.bind_eq_some_iff.mp read
        have distinct := values _ _ _ _ first
        dsimp only at read
        split at read
        · obtain ⟨⟨others, after⟩, later, same⟩ := Option.bind_eq_some_iff.mp read
          cases same
          exact List.forall_mem_cons.mpr ⟨distinct, lists _ _ _ _ later⟩
        · cases read
          exact List.forall_mem_singleton.mpr distinct
        · cases read
    · intro depth text items rest read
      unfold readPairs at read
      obtain ⟨⟨_, _⟩, _, read⟩ := Option.bind_eq_some_iff.mp read
      obtain ⟨⟨_, _⟩, _, read⟩ := Option.bind_eq_some_iff.mp read
      dsimp only at read
      split at read
      · obtain ⟨⟨value, after⟩, first, read⟩ := Option.bind_eq_some_iff.mp read
        have distinct := values _ _ _ _ first
        dsimp only at read
        split at read
        · obtain ⟨⟨others, after⟩, later, same⟩ := Option.bind_eq_some_iff.mp read
          cases same
          exact List.forall_mem_cons.mpr ⟨distinct, pairs _ _ _ _ later⟩
        · cases read
          exact List.forall_mem_singleton.mpr distinct
        · cases read
      · cases read

theorem sound_of_readStatement {statement : Statement}
    (read : readStatement text = some (statement, rest)) : Draft.Sound statement := by
  unfold readStatement at read
  split at read
  · obtain ⟨⟨_, _⟩, _, read⟩ := Option.bind_eq_some_iff.mp read
    obtain ⟨⟨_, _⟩, _, read⟩ := Option.bind_eq_some_iff.mp read
    obtain ⟨_, _, same⟩ := Option.bind_eq_some_iff.mp read
    cases same
    trivial
  · obtain ⟨⟨_, _⟩, _, read⟩ := Option.bind_eq_some_iff.mp read
    obtain ⟨⟨_, _⟩, _, read⟩ := Option.bind_eq_some_iff.mp read
    obtain ⟨_, _, same⟩ := Option.bind_eq_some_iff.mp read
    cases same
    trivial
  · obtain ⟨⟨_, _⟩, _, read⟩ := Option.bind_eq_some_iff.mp read
    obtain ⟨⟨_, _⟩, _, read⟩ := Option.bind_eq_some_iff.mp read
    obtain ⟨_, _, read⟩ := Option.bind_eq_some_iff.mp read
    obtain ⟨⟨_, _⟩, valued, read⟩ := Option.bind_eq_some_iff.mp read
    obtain ⟨_, _, same⟩ := Option.bind_eq_some_iff.mp read
    cases same
    exact (distinct_of_readValues _).1 _ _ _ _ valued

theorem sound_of_readStatements {statements : List Statement}
    (read : readStatements fuel text = some statements) :
    ∀ statement ∈ statements, Draft.Sound statement := by
  induction fuel generalizing text statements with
  | zero => cases read
  | succ fuel ih =>
    unfold readStatements at read
    split at read
    · cases read
      exact nofun
    · obtain ⟨⟨statement, after⟩, first, read⟩ := Option.bind_eq_some_iff.mp read
      obtain ⟨others, later, same⟩ := Option.bind_eq_some_iff.mp read
      cases same
      exact List.forall_mem_cons.mpr ⟨sound_of_readStatement first, ih later⟩

/-- In a document that can be read, every table has each of its keys once. -/
theorem distinct_of_read {text : String} (readable : read text = some document) :
    document.Distinct := by
  obtain ⟨statements, lines, made⟩ := Option.bind_eq_some_iff.mp readable
  exact distinct_of_statements (sound_of_readStatements lines) made

end

end VaultKeeper.Toml
