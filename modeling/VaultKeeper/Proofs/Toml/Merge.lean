import VaultKeeper.Toml.Basic

/-! # What is under a key of a merged table

The merged table is described by what can be looked up in it. Under each key there is what the upper
table has, or what the base has where the upper table has nothing, and the merge of the two where
both have something. A merge goes further only through tables: over a value that is no table the
upper value stands as it is.
-/

namespace VaultKeeper.Toml

/-- A value with keys of its own. -/
def IsTable : Toml → Prop
  | table _ => True
  | _ => False

instance : (value : Toml) → Decidable value.IsTable
  | table _ => .isTrue trivial
  | boolean _ | integer _ | float _ | string _ | moment _ | array _ => .isFalse id

theorem isTable_iff {value : Toml} : value.IsTable ↔ ∃ entries, value = table entries := by
  cases value <;> simp [IsTable]

@[simp] theorem get?_table (key : String) (entries : List (String × Toml)) :
    get? key (table entries) = entries.lookup key :=
  rfl

theorem merge_table (base upper : List (String × Toml)) :
    merge (table base) (table upper) = table (mergeEntries base upper ++ newEntries base upper) := by
  rw [merge]

/-- Nothing is left of a value that is no table. -/
theorem merge_of_plain {base : Toml} (plain : ¬base.IsTable) (upper : Toml) :
    merge base upper = upper := by
  cases base with
  | table => exact absurd trivial plain
  | _ => simp only [merge]

section

variable {base upper : List (String × Toml)} {key : String}

/-- The old keys are kept, with what is laid over their values. -/
theorem lookup_mergeEntries :
    (mergeEntries base upper).lookup key =
      (base.lookup key).map fun old => match upper.lookup key with
        | some new => merge old new
        | none => old := by
  induction base with
  | nil => rw [mergeEntries, List.lookup_nil, Option.map_none]
  | cons entry rest ih =>
    obtain ⟨name, value⟩ := entry
    rw [mergeEntries, List.lookup_cons, List.lookup_cons]
    cases same : key == name with
    | true =>
      obtain rfl := eq_of_beq same
      rfl
    | false => exact ih

/-- A key is new if the base does not have it. -/
theorem lookup_newEntries :
    (newEntries base upper).lookup key =
      if (base.lookup key).isNone then upper.lookup key else none := by
  unfold newEntries
  induction upper with
  | nil => simp
  | cons entry rest ih =>
    obtain ⟨name, value⟩ := entry
    rw [List.lookup_cons, List.filter_cons]
    cases same : key == name with
    | true =>
      obtain rfl := eq_of_beq same
      cases fresh : (base.lookup key).isNone with
      | true => rw [if_pos rfl, if_pos rfl, List.lookup_cons, same]
      | false => rw [if_neg nofun, if_neg nofun, ih, fresh, if_neg nofun]
    | false =>
      split
      · rw [List.lookup_cons, same, ih]
      · exact ih

/-- What a merged table has under a key. -/
theorem get?_merge :
    (merge (table base) (table upper)).get? key =
      match base.lookup key, upper.lookup key with
      | some old, some new => some (merge old new)
      | some old, none => some old
      | none, new? => new? := by
  rw [merge_table, get?_table, List.lookup_append, lookup_mergeEntries, lookup_newEntries]
  cases base.lookup key with
  | none => simp
  | some old => cases upper.lookup key <;> simp

/-- Over a plain value, or where the base has nothing, the upper table is all that counts. -/
theorem get?_merge_of_plain (plain : ∀ old, base.lookup key = some old → ¬old.IsTable) :
    (merge (table base) (table upper)).get? key = (upper.lookup key).or (base.lookup key) := by
  rw [get?_merge]
  cases lower : base.lookup key with
  | none => simp
  | some old =>
    cases upper.lookup key with
    | none => rfl
    | some new => exact congrArg some (merge_of_plain (plain old lower) new)

end

end VaultKeeper.Toml
