import VaultKeeper.Proofs.Settings.Override

/-! # Which value a setting takes

The document that is read names a profile, or else the environment does. Its settings win over those
of the profile, and what the environment overrides wins over both.
-/

namespace VaultKeeper

namespace Settings

/-- Two names with the same letters, in any case. -/
def SameName (name other : String) : Prop :=
  name.toList.map Char.toLower = other.toList.map Char.toLower

/-- The profile that a name stands for. -/
inductive Named (name : String) : Settings → Prop where
  | conservative (same : SameName name "conservative" ∨ SameName name "safe") :
    Named name conservative
  | aggressive (same : SameName name "aggressive" ∨ SameName name "aggro") : Named name aggressive
  | default
    (unknown : ∀ known ∈ ["conservative", "safe", "aggressive", "aggro"], ¬SameName name known) :
    Named name default

/-- The profile under a document: the one that it names as its own, or else the fallback. -/
inductive Based (document : Toml) (fallback : String) (base : Settings) : Prop where
  | own {name : String} (names : document.at? ["profile"] = some (.string name))
    (named : Named name base)
  | fallback (unnamed : ∀ name, document.at? ["profile"] ≠ some (.string name))
    (named : Named fallback base)

theorem lower_eq_iff {name known : String} (lower : known.toList.map Char.toLower = known.toList) :
    String.ofList (name.toList.map Char.toLower) = known ↔ SameName name known := by
  rw [SameName, lower, ← String.toList_inj, String.toList_ofList]

theorem named_ofProfile (name : String) : Named name (ofProfile name) := by
  unfold ofProfile
  dsimp only
  split
  · next same => exact .conservative (same.imp (lower_eq_iff rfl).mp (lower_eq_iff rfl).mp)
  split
  · next same => exact .aggressive (same.imp (lower_eq_iff rfl).mp (lower_eq_iff rfl).mp)
  · next careful fast =>
    refine .default ?_
    simp only [List.forall_mem_cons]
    exact ⟨fun same => careful (.inl ((lower_eq_iff rfl).mpr same)),
      fun same => careful (.inr ((lower_eq_iff rfl).mpr same)),
      fun same => fast (.inl ((lower_eq_iff rfl).mpr same)),
      fun same => fast (.inr ((lower_eq_iff rfl).mpr same)), List.forall_mem_nil _⟩

theorem based_ofProfile (document : Toml) (fallback : String) :
    Based document fallback (ofProfile (profileOf document fallback)) := by
  have at_profile : document.at? ["profile"] = document.get? "profile" := by
    simp only [Toml.at?, Option.bind_fun_some]
  rw [profileOf]
  cases given : document.get? "profile" with
  | none =>
    refine .fallback (fun name names => ?_) (named_ofProfile fallback)
    rw [at_profile, given] at names
    cases names
  | some value =>
    cases value with
    | string name => exact .own (at_profile.trans given) (named_ofProfile name)
    | _ =>
      -- a profile that is no string is none, although a date would be read as one
      refine .fallback (fun name names => ?_) (named_ofProfile fallback)
      rw [at_profile, given] at names
      cases names

/-- All profiles wait for so short a time between two checks that it can be written. -/
theorem pollInterval_ofProfile (name : String) :
    (ofProfile name).escalation.pollInterval < UInt64.size := by
  unfold ofProfile
  dsimp only
  split
  · decide
  split
  · decide
  · decide

end Settings

theorem Toml.eq_table_of_read {text : String} {document : Toml}
    (parsed : Toml.read text = some document) : ∃ entries, document = .table entries := by
  simp only [Toml.read, Toml.ofStatements, Option.bind_eq_bind, Option.bind_eq_some_iff,
    Option.pure_def, Option.some.injEq] at parsed
  obtain ⟨_, -, state, -, rfl⟩ := parsed
  exact ⟨_, rfl⟩

/-- Two documents with the same values for all settings, whatever else they have. -/
structure Toml.Agree (document other : Toml) : Prop where
  profile : document.at? ["profile"] = other.at? ["profile"]
  settings : ∀ setting ∈ Setting.all,
    (document.at? setting.path).map setting.read = (other.at? setting.path).map setting.read

theorem Setting.follows_congr {setting : Setting} {document other : Toml} {base settings : Settings}
    (same : (document.at? setting.path).map setting.read =
      (other.at? setting.path).map setting.read) :
    setting.Follows document base settings ↔ setting.Follows other base settings := by
  have follows_iff (document : Toml) : setting.Follows document base settings ↔
      match (document.at? setting.path).map setting.read with
      | some read => read = some (setting.value settings)
      | none => setting.value settings = setting.value base := by
    rw [Setting.Follows]
    cases document.at? setting.path <;> rfl
  rw [follows_iff, follows_iff, same]

/-- A vault's entry counts only with the keys of a vault. -/
theorem Vault.ofToml?_congr {entries other : List (String × Toml)}
    (same : ∀ key ∈ ["name", "address", "platform", "strategies"],
      entries.lookup key = other.lookup key) :
    ofToml? (.table entries) = ofToml? (.table other) := by
  have name := same "name" (by simp)
  have address := same "address" (by simp)
  have platform := same "platform" (by simp)
  have strategies := same "strategies" (by simp)
  simp only [ofToml?, Toml.required, Toml.field, Toml.item?, name, address, platform, strategies]
  rfl

namespace Settings

theorem read?_of_parsed {text : String} {document : Toml} (parsed : Toml.read text = some document)
    (fallback : String) : read? text fallback = ofDocument? document fallback := by
  rw [read?, parsed]
  rfl

/-- A document is read as the settings that follow it over its profile. -/
theorem ofDocument?_eq_some_iff {document : Toml} {entries : List (String × Toml)}
    (table : document = .table entries) (regular : document.Regular) {fallback : String}
    {settings : Settings} :
    ofDocument? document fallback = some settings ↔
      ∀ setting ∈ Setting.all,
        setting.Follows document (ofProfile (profileOf document fallback)) settings := by
  subst table
  exact ofToml?_merge (pollInterval_ofProfile _) regular

theorem profileOf_congr {document other : Toml}
    (same : document.at? ["profile"] = other.at? ["profile"]) (fallback : String) :
    profileOf document fallback = profileOf other fallback := by
  simp only [Toml.at?, Option.bind_fun_some] at same
  rw [profileOf, profileOf, same]

/-- A document for a careful keeper that hurries and asks one aggregator only. -/
def sheet : String :=
  "profile = \"SAFE\"\nowner = \"nobody\"\n[loop]\ninterval_secs = 7\n"
    ++ "[aggregators]\nproviders = [\"0x\"]\n"

def sheetDocument : Toml := .table [
  ("profile", .string "SAFE"),
  ("owner", .string "nobody"),
  ("loop", .table [("interval_secs", .integer 7)]),
  ("aggregators", .table [("providers", .array [.string "0x"])])]

/-- What it comes to. -/
def sheetSettings : Settings := { conservative with
  profile := "SAFE"
  loop := { conservative.loop with interval := 7 }
  aggregators := { conservative.aggregators with providers := [.zeroEx] } }

end Settings

end VaultKeeper
