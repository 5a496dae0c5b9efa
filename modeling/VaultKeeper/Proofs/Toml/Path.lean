import VaultKeeper.Proofs.Toml.Keys
import VaultKeeper.Proofs.Toml.Merge

/-! # What is at a path of a merged table

A path leads through tables. Laid over a base, a document decides on every path that ends at one of
its own plain values or would lead through one. It leaves a path to the base if it has nothing
there, and where it has a table the base is merged into it. Every path falls under one of these
three, so that the merged table is known path by path. A document counts once, however often it is
laid over.
-/

namespace VaultKeeper.Toml

/-- A value that is no table stands at the end of the path or on the way there. -/
def Blocked (value : Toml) (path : List String) : Prop :=
  ∃ front rest plain, path = front ++ rest ∧ value.at? front = some plain ∧ ¬plain.IsTable

section

variable {base upper value : Toml} {key : String} {path : List String}
  {entries lower above : List (String × Toml)}

/-! ## Paths -/

theorem at?_cons : value.at? (key :: path) = (value.get? key).bind fun inner => inner.at? path := by
  rw [at?]

/-- Only tables have keys. -/
theorem get?_of_plain (plain : ¬value.IsTable) : value.get? key = none := by
  cases value with
  | table => exact absurd trivial plain
  | _ => rfl

theorem blocked_of_plain (plain : ¬value.IsTable) : value.Blocked path :=
  ⟨[], path, value, rfl, rfl, plain⟩

/-- A path is blocked at once or behind its first key. -/
theorem blocked_cons_iff :
    value.Blocked (key :: path) ↔
      ¬value.IsTable ∨ ∃ inner, value.get? key = some inner ∧ inner.Blocked path := by
  constructor
  · rintro ⟨_ | ⟨first, front⟩, rest, plain, split, found, notTable⟩
    · cases found
      exact .inl notTable
    · obtain ⟨rfl, rfl⟩ := List.cons.inj split
      rw [at?_cons] at found
      obtain ⟨inner, under, found⟩ := Option.bind_eq_some_iff.mp found
      exact .inr ⟨inner, under, front, rest, plain, rfl, found, notTable⟩
  · rintro (notTable | ⟨inner, under, front, rest, plain, rfl, found, notTable⟩)
    · exact blocked_of_plain notTable
    · refine ⟨key :: front, rest, plain, rfl, ?_, notTable⟩
      rw [at?_cons, under]
      exact found

theorem merge_plain (plain : ¬upper.IsTable) : merge base upper = upper := by
  cases upper with
  | table => exact absurd trivial plain
  | _ => cases base <;> simp only [merge]

/-- What a table laid over a value leaves under a key. -/
theorem get?_merge_of_isTable (isTable : upper.IsTable) :
    (merge base upper).get? key =
      match base.get? key, upper.get? key with
      | some old, some new => some (merge old new)
      | some old, none => some old
      | none, new? => new? := by
  obtain ⟨above, rfl⟩ := isTable_iff.mp isTable
  by_cases lower : base.IsTable
  · obtain ⟨below, rfl⟩ := isTable_iff.mp lower
    exact get?_merge
  · rw [merge_of_plain lower, get?_of_plain lower]

/-- A path that is blocked has nothing of the base. -/
theorem at?_merge_of_blocked (blocked : upper.Blocked path) :
    (merge base upper).at? path = upper.at? path := by
  induction path generalizing base upper with
  | nil =>
    obtain ⟨front, rest, plain, split, found, notTable⟩ := blocked
    obtain ⟨rfl, rfl⟩ := List.nil_eq_append_iff.mp split
    cases found
    rw [merge_plain notTable]
  | cons key path ih =>
    by_cases isTable : upper.IsTable
    · obtain notTable | ⟨new, under, blocked⟩ := blocked_cons_iff.mp blocked
      · exact absurd isTable notTable
      · rw [at?_cons, at?_cons, get?_merge_of_isTable isTable, under]
        cases base.get? key with
        | none => rfl
        | some old => exact ih blocked
    · rw [merge_plain isTable]

/-- A path on which nothing is laid over the base stays as it is. -/
theorem at?_merge_of_absent (free : ¬upper.Blocked path) (absent : upper.at? path = none) :
    (merge base upper).at? path = base.at? path := by
  induction path generalizing base upper with
  | nil => cases absent
  | cons key path ih =>
    have isTable : upper.IsTable := by
      by_contra notTable
      exact free (blocked_of_plain notTable)
    rw [at?_cons] at absent
    rw [at?_cons, at?_cons, get?_merge_of_isTable isTable]
    cases under : upper.get? key with
    | none => cases base.get? key <;> rfl
    | some new =>
      rw [under] at absent
      cases base.get? key with
      | none => exact absent
      | some old =>
        exact ih (fun blocked => free (blocked_cons_iff.mpr (.inr ⟨new, under, blocked⟩))) absent

/-- At a table of the upper value stands that table, laid over what the base has there. -/
theorem at?_merge_of_table (found : upper.at? path = some (table above)) :
    (merge base upper).at? path =
      some ((base.at? path).elim (table above) fun old => merge old (table above)) := by
  induction path generalizing base upper with
  | nil =>
    cases found
    rfl
  | cons key path ih =>
    rw [at?_cons] at found
    obtain ⟨new, under, found⟩ := Option.bind_eq_some_iff.mp found
    have isTable : upper.IsTable := by
      by_contra notTable
      rw [get?_of_plain notTable] at under
      cases under
    rw [at?_cons, at?_cons, get?_merge_of_isTable isTable, under]
    cases base.get? key with
    | none => exact found
    | some old => exact ih found

/-! ## Laying a table over itself and over its own merge -/

theorem lookup_of_mem (keys : (entries.map Prod.fst).Nodup) {entry : String × Toml}
    (member : entry ∈ entries) : entries.lookup entry.1 = some entry.2 := by
  obtain ⟨before, after, rfl⟩ := List.append_of_mem member
  refine List.lookup_eq_some_iff.mpr ⟨before, after, rfl, ?_⟩
  intro earlier present
  rw [List.map_append, List.nodup_append] at keys
  have apart := keys.2.2 earlier.1 (List.mem_map_of_mem present) entry.1 (by simp)
  simpa using Ne.symm apart

theorem mem_of_lookup (found : entries.lookup key = some value) : (key, value) ∈ entries := by
  obtain ⟨before, after, rfl, -⟩ := List.lookup_eq_some_iff.mp found
  simp

theorem mergeEntries_eq_map :
    mergeEntries lower above =
      lower.map fun entry => (entry.1, (above.lookup entry.1).elim entry.2 (merge entry.2)) := by
  induction lower with
  | nil => rw [mergeEntries, List.map_nil]
  | cons entry rest ih =>
    obtain ⟨name, value⟩ := entry
    rw [mergeEntries, List.map_cons, ih]
    cases above.lookup name <;> rfl

/-- Nothing changes under keys whose values stay as they are. -/
theorem mergeEntries_eq_self (settled : ∀ entry ∈ lower, ∀ new,
    above.lookup entry.1 = some new → merge entry.2 new = entry.2) :
    mergeEntries lower above = lower := by
  rw [mergeEntries_eq_map]
  refine (List.map_congr_left ?_).trans (List.map_id lower)
  intro entry member
  cases found : above.lookup entry.1 with
  | none => rfl
  | some new => exact congrArg (Prod.mk entry.1) (settled entry member new found)

/-- No key is new if the base has them all. -/
theorem newEntries_eq_nil (known : ∀ entry ∈ above, (lower.lookup entry.1).isSome) :
    newEntries lower above = [] := by
  refine List.filter_eq_nil_iff.mpr ?_
  intro entry member
  simp [Option.isSome_iff_ne_none.mp (known entry member)]

/-- A table stays as it is if all that is laid over it is there already. -/
theorem merge_eq_self
    (known : ∀ entry ∈ above, (lower.lookup entry.1).isSome)
    (settled : ∀ entry ∈ lower, ∀ new,
      above.lookup entry.1 = some new → merge entry.2 new = entry.2) :
    merge (table lower) (table above) = table lower := by
  rw [merge_table, mergeEntries_eq_self settled, newEntries_eq_nil known, List.append_nil]

theorem merge_empty (entries : List (String × Toml)) :
    merge (table entries) (table []) = table entries :=
  merge_eq_self nofun nofun

theorem merge_self (distinct : value.Distinct) : merge value value = value := by
  induction distinct with
  | table keys _ ih =>
    refine merge_eq_self ?_ ?_
    · intro entry member
      rw [lookup_of_mem keys member]
      rfl
    · intro entry member new found
      rw [lookup_of_mem keys member] at found
      cases found
      exact ih entry member
  | _ => exact merge_plain id

/-- What is laid over a base once more makes no difference. -/
theorem merge_merge (distinct : upper.Distinct) :
    merge (merge base upper) upper = merge base upper := by
  induction distinct generalizing base with
  | @table above keys each ih =>
    by_cases isTable : base.IsTable
    · obtain ⟨lower, rfl⟩ := isTable_iff.mp isTable
      rw [merge_table]
      refine merge_eq_self ?_ ?_
      · intro entry member
        rw [← get?_table, ← merge_table, get?_merge, lookup_of_mem keys member]
        cases lower.lookup entry.1 <;> rfl
      · intro entry member new found
        obtain member | member := List.mem_append.mp member
        · rw [mergeEntries_eq_map] at member
          obtain ⟨old, -, rfl⟩ := List.mem_map.mp member
          dsimp only at found ⊢
          rw [found]
          exact ih _ (mem_of_lookup found)
        · have own := (List.mem_filter.mp member).1
          rw [lookup_of_mem keys own] at found
          cases found
          exact merge_self (each entry own)
    · rw [merge_of_plain isTable, merge_self (.table keys each)]
  | _ => exact (merge_plain id).trans (merge_plain id).symm

/-- Keys stay distinct where two tables are merged. -/
theorem nodup_merge (keys : (lower.map Prod.fst).Nodup) (keys' : (above.map Prod.fst).Nodup) :
    ((mergeEntries lower above ++ newEntries lower above).map Prod.fst).Nodup := by
  have kept : (mergeEntries lower above).map Prod.fst = lower.map Prod.fst := by
    rw [mergeEntries_eq_map, List.map_map]
    rfl
  rw [List.map_append, kept, List.nodup_append]
  refine ⟨keys, keys'.sublist (List.filter_sublist.map _), ?_⟩
  rintro key old _ new rfl
  obtain ⟨entry, member, rfl⟩ := List.mem_map.mp old
  obtain ⟨added, member', same⟩ := List.mem_map.mp new
  have fresh := (List.mem_filter.mp member').2
  rw [same, lookup_of_mem keys member] at fresh
  cases fresh

theorem distinct_merge (distinct : base.Distinct) (distinct' : upper.Distinct) :
    (merge base upper).Distinct := by
  induction distinct generalizing upper with
  | @table lower keys each ih =>
    by_cases isTable : upper.IsTable
    · obtain ⟨above, rfl⟩ := isTable_iff.mp isTable
      cases distinct' with
      | table keys' each' =>
        rw [merge_table]
        refine .table (nodup_merge keys keys') ?_
        intro entry member
        obtain member | member := List.mem_append.mp member
        · rw [mergeEntries_eq_map] at member
          obtain ⟨old, present, rfl⟩ := List.mem_map.mp member
          cases found : above.lookup old.1 with
          | none => exact each old present
          | some new => exact ih old present (each' _ (mem_of_lookup found))
        · exact each' entry (List.mem_filter.mp member).1
    · rwa [merge_plain isTable]
  | _ => simpa only [merge] using distinct'

end

/-- Laid over any value, a value decides on every path: where it has a plain value at the path or on
the way there, the path has what it has there and nothing else; where it has nothing, the path is
left to the base; and where it has a table, that table is laid over what the base has there. An
empty table changes nothing, and laying a value with distinct keys over a base twice is laying it
once. Every document that can be read has distinct keys, and so has the merge of two such values. -/
theorem merge_pathwise (base upper : Toml) :
    (∀ path,
      (upper.Blocked path → (merge base upper).at? path = upper.at? path) ∧
      (¬upper.Blocked path → upper.at? path = none →
        (merge base upper).at? path = base.at? path) ∧
      ∀ above, upper.at? path = some (table above) →
        (∀ below, base.at? path = some (table below) →
          (merge base upper).at? path = some (merge (table below) (table above))) ∧
        ((∀ old, base.at? path = some old → ¬old.IsTable) →
          (merge base upper).at? path = some (table above))) ∧
    (∀ entries, merge (table entries) (table []) = table entries) ∧
    (upper.Distinct → merge (merge base upper) upper = merge base upper) ∧
    (∀ text, read text = some upper → upper.Distinct) ∧
    (base.Distinct → upper.Distinct → (merge base upper).Distinct) := by
  refine ⟨fun path => ⟨at?_merge_of_blocked, at?_merge_of_absent, ?_⟩, merge_empty, merge_merge,
    fun text => distinct_of_read, distinct_merge⟩
  intro above found
  rw [at?_merge_of_table found]
  constructor
  · intro below present
    rw [present, Option.elim_some]
  · intro plain
    cases under : base.at? path with
    | none => rfl
    | some old => exact congrArg some (merge_of_plain (plain old under) _)

/-- A profile with one section, and a plain value where a document may have another one. -/
def plainProfile : Toml :=
  table [("gas", table [("cap", integer 500), ("tip", integer 30)]), ("loop", integer 1)]

/-- A document with both sections. -/
def sectioned : Toml :=
  table [("gas", table [("tip", integer 40)]), ("loop", table [("interval", integer 60)])]

theorem distinct_plainProfile : plainProfile.Distinct := by
  have gas : (table [("cap", integer 500), ("tip", integer 30)]).Distinct := by
    refine .table (by decide) ?_
    rintro _ (_ | ⟨_, _ | ⟨_, ⟨⟩⟩⟩)
    · exact .integer 500
    · exact .integer 30
  refine .table (by decide) ?_
  rintro _ (_ | ⟨_, _ | ⟨_, ⟨⟩⟩⟩)
  · exact gas
  · exact .integer 1

theorem not_blocked_sectioned : ¬sectioned.Blocked ["gas", "cap"] := by
  rw [blocked_cons_iff]
  rintro (notTable | ⟨gas, under, blocked⟩)
  · exact notTable trivial
  · cases under
    obtain notTable | ⟨_, absent, -⟩ := blocked_cons_iff.mp blocked
    · exact notTable trivial
    · cases absent

theorem merge_pathwise_sectioned :
    (merge plainProfile sectioned).at? ["gas", "tip"] = some (integer 40) ∧
      (merge plainProfile sectioned).at? ["gas", "tip", "unit"] = none ∧
      (merge plainProfile sectioned).at? ["gas", "cap"] = some (integer 500) ∧
      (merge plainProfile sectioned).at? ["gas"] =
        some (table [("cap", integer 500), ("tip", integer 40)]) ∧
      (merge plainProfile sectioned).at? ["loop"] = some (table [("interval", integer 60)]) ∧
      merge (merge plainProfile sectioned) sectioned = merge plainProfile sectioned ∧
      (merge plainProfile sectioned).Distinct := by
  obtain ⟨paths, -, twice, readable, kept⟩ := merge_pathwise plainProfile sectioned
  have blocked (rest : List String) : sectioned.Blocked (["gas", "tip"] ++ rest) :=
    ⟨["gas", "tip"], rest, integer 40, rfl, rfl, id⟩
  have distinct : sectioned.Distinct :=
    readable "[gas]\ntip = 40\n[loop]\ninterval = 60\n" (by decide +kernel)
  refine ⟨(paths _).1 (blocked []), (paths _).1 (blocked ["unit"]), ?_, ?_, ?_, twice distinct,
    kept distinct_plainProfile distinct⟩
  · exact (paths ["gas", "cap"]).2.1 not_blocked_sectioned rfl
  · exact ((paths ["gas"]).2.2 _ rfl).1 _ rfl
  · refine ((paths ["loop"]).2.2 _ rfl).2 ?_
    rintro _ ⟨⟩
    exact id

end VaultKeeper.Toml
