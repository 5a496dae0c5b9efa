import VaultKeeper.Proofs.Settings.Fields

/-! # Settings in layers

Settings that are read from a document over a base follow the document wherever it has a value and
the base everywhere else. This holds for each setting by itself, at the top of the document and in
its sections, as long as the sections that are there are tables.
-/

namespace VaultKeeper

open Toml (asString asList)

namespace Toml

theorem item?_merge_table {base upper : List (String × Toml)} {name : String} {place : Nat} :
    (merge (table base) (table upper)).item? name place =
      (merge (table base) (table upper)).get? name := by
  rw [merge_table]
  rfl

namespace Field

variable {Record : Type}

/-- The field has the value that is given for it, or the one of the layer below. -/
def Follows (field : Field Record) (given? : Option Toml) (lower record : Record) : Prop :=
  match given? with
  | some given => field.read given = some (field.get record)
  | none => field.get record = field.get lower

/-- What is read where nothing is given is what is in the layer below. -/
theorem reads_iff_of_reads {field : Field Record} {part : Toml} {lower record : Record}
    (own : field.Reads part lower) :
    field.Reads part record ↔ field.get record = field.get lower := by
  rw [Reads] at own ⊢
  rw [own, Option.some.injEq]
  exact eq_comm

/-- A field of a merged table follows the upper table. -/
theorem reads_merge {field : Field Record} {base upper : List (String × Toml)}
    {lower record : Record} (own : field.Reads (table base) lower)
    (plain : ∀ old, base.lookup field.name = some old → ¬old.IsTable) :
    field.Reads (merge (table base) (table upper)) record ↔
      field.Follows (upper.lookup field.name) lower record := by
  rw [Reads, Toml.field, item?_merge_table, get?_merge_of_plain plain]
  cases given : upper.lookup field.name with
  | some value => rfl
  | none =>
    rw [Option.none_or]
    exact reads_iff_of_reads own

end Field

end Toml

/-- A setting: where it stands in a document, how it is read there, and what it is. -/
structure Setting where
  Value : Type
  path : List String
  read : Toml → Option Value
  value : Settings → Value

/-- The setting is what the document has for it, or what it is in the base where the document has
nothing. -/
def Setting.Follows (setting : Setting) (document : Toml) (base settings : Settings) : Prop :=
  match document.at? setting.path with
  | some given => setting.read given = some (setting.value settings)
  | none => setting.value settings = setting.value base

/-- A field at the top of a document as a setting. -/
def Toml.Field.setting (field : Toml.Field Settings) : Setting :=
  ⟨field.Value, [field.name], field.read, field.get⟩

/-- A section of the settings: a field that has fields of its own. -/
structure Part extends Toml.Field Settings where
  fields : List (Toml.Field Value)
  toToml : Value → Toml
  /-- A section is read field by field. -/
  reads_iff : ∀ {entries : List (String × Toml)} {record : Value},
    read (.table entries) = some record ↔ ∀ field ∈ fields, field.Reads (.table entries) record

namespace Part

def loop : Part where
  Value := LoopSettings
  name := "loop"
  place := 1
  missing := .default
  read := LoopSettings.ofToml?
  get := Settings.loop
  fields := LoopSettings.fields
  toToml := LoopSettings.toToml
  reads_iff := LoopSettings.ofToml?_eq_some_iff.trans (and_iff_right rfl)

def rpc : Part where
  Value := RpcSettings
  name := "rpc"
  place := 2
  missing := .default
  read := RpcSettings.ofToml?
  get := Settings.rpc
  fields := RpcSettings.fields
  toToml := RpcSettings.toToml
  reads_iff := RpcSettings.ofToml?_eq_some_iff.trans (and_iff_right rfl)

def escalation : Part where
  Value := EscalationPolicy
  name := "escalation"
  place := 3
  missing := .default
  read := EscalationPolicy.ofToml?
  get := Settings.escalation
  fields := EscalationPolicy.fields
  toToml := EscalationPolicy.toToml
  reads_iff := EscalationPolicy.ofToml?_eq_some_iff.trans (and_iff_right rfl)

def aggregators : Part where
  Value := AggregatorSettings
  name := "aggregators"
  place := 4
  missing := .default
  read := AggregatorSettings.ofToml?
  get := Settings.aggregators
  fields := AggregatorSettings.fields
  toToml := AggregatorSettings.toToml
  reads_iff := AggregatorSettings.ofToml?_eq_some_iff.trans (and_iff_right rfl)

def gas : Part where
  Value := GasSettings
  name := "gas"
  place := 5
  missing := .default
  read := GasSettings.ofToml?
  get := Settings.gas
  fields := GasSettings.fields
  toToml := GasSettings.toToml
  reads_iff := GasSettings.ofToml?_eq_some_iff.trans (and_iff_right rfl)

def contracts : Part where
  Value := ContractSettings
  name := "contracts"
  place := 6
  missing := .default
  read := ContractSettings.ofToml?
  get := Settings.contracts
  fields := ContractSettings.fields
  toToml := ContractSettings.toToml
  reads_iff := ContractSettings.ofToml?_eq_some_iff.trans (and_iff_right rfl)

/-- All sections. -/
def all : List Part :=
  [loop, rpc, escalation, aggregators, gas, contracts]

/-- A field of the section as a setting. -/
def setting (part : Part) (field : Toml.Field part.Value) : Setting :=
  ⟨field.Value, [part.name, field.name], field.read, fun settings => field.get (part.get settings)⟩

end Part

namespace Settings

/-- The name of the profile, which stands in no section. -/
def profileField : Toml.Field Settings :=
  ⟨String, "profile", 0, asString, default.profile, profile⟩

/-- The vaults, which stand in no section either. -/
def vaultsField : Toml.Field Settings :=
  ⟨List Vault, "vaults", 7, asList Vault.ofToml?, [], vaults⟩

/-- The fields of the whole. -/
def fields : List (Toml.Field Settings) :=
  profileField :: vaultsField :: Part.all.map Part.toField

theorem ofToml?_eq_some_iff {document : Toml} {settings : Settings} :
    ofToml? document = some settings ↔
      document.isRecord 8 = true ∧ ∀ field ∈ fields, field.Reads document settings := by
  simp only [ofToml?, fields, Part.all, List.map_cons, List.map_nil, List.forall_mem_cons,
    Option.bind_eq_bind, Option.bind_eq_some_iff, Option.guard_eq_some', Option.pure_def,
    Option.some.injEq]
  constructor
  · rintro ⟨_, record, _, profile, _, loop, _, rpc, _, escalation, _, aggregators, _, gas,
      _, contracts, _, vaults, rfl⟩
    exact ⟨record, profile, vaults, loop, rpc, escalation, aggregators, gas, contracts, List.forall_mem_nil _⟩
  · rintro ⟨record, profile, vaults, loop, rpc, escalation, aggregators, gas, contracts, -⟩
    exact ⟨(), record, _, profile, _, loop, _, rpc, _, escalation, _, aggregators, _, gas,
      _, contracts, _, vaults, rfl⟩

end Settings

/-- What the settings have in a section, as the table that stands there. -/
theorem Part.item?_toToml {part : Part} (mem : part ∈ Part.all) (settings : Settings) (place : Nat) :
    settings.toToml.item? part.name place = some (part.toToml (part.get settings)) := by
  simp only [Part.all, List.mem_cons, List.not_mem_nil, or_false] at mem
  obtain rfl | rfl | rfl | rfl | rfl | rfl := mem <;> rfl

theorem Part.written_toToml {part : Part} (mem : part ∈ Part.all) {settings : Settings}
    (fits : settings.escalation.pollInterval < UInt64.size) :
    Toml.Written part.fields (part.toToml (part.get settings)) (part.get settings) := by
  simp only [Part.all, List.mem_cons, List.not_mem_nil, or_false] at mem
  obtain rfl | rfl | rfl | rfl | rfl | rfl := mem
  · exact LoopSettings.written_toToml _
  · exact RpcSettings.written_toToml _
  · exact EscalationPolicy.written_toToml fits
  · exact AggregatorSettings.written_toToml _
  · exact GasSettings.written_toToml _
  · exact ContractSettings.written_toToml _

theorem Toml.Field.setting_follows_iff {field : Toml.Field Settings} {document : Toml}
    {base settings : Settings} :
    field.setting.Follows document base settings ↔
      field.Follows (document.get? field.name) base settings := by
  simp only [Setting.Follows, Toml.Field.setting, Toml.at?, Option.bind_fun_some,
    Toml.Field.Follows]

theorem Part.setting_follows_iff {part : Part} {field : Toml.Field part.Value} {document : Toml}
    {base settings : Settings} :
    (part.setting field).Follows document base settings ↔
      field.Follows ((document.get? part.name).bind (Toml.get? field.name))
        (part.get base) (part.get settings) := by
  simp only [Setting.Follows, Part.setting, Toml.at?, Option.bind_fun_some, Toml.Field.Follows]

/-- A section of a merged document has the fields of the upper one over those of the base. -/
theorem Part.reads_merge {part : Part} (mem : part ∈ Part.all) {base settings : Settings}
    (fits : base.escalation.pollInterval < UInt64.size) {upper : List (String × Toml)}
    (regular : ∀ given, upper.lookup part.name = some given → given.IsTable) :
    part.toField.Reads (base.toToml.merge (.table upper)) settings ↔
      ∀ field ∈ part.fields, (part.setting field).Follows (.table upper) base settings := by
  obtain ⟨⟨lower, written, plain⟩, own⟩ := written_toToml mem fits
  have below := item?_toToml mem base part.place
  obtain ⟨entries, same⟩ : ∃ entries, base.toToml = .table entries := ⟨_, rfl⟩
  rw [same, written] at below
  rw [same]
  rw [written] at own
  -- what the base has there, by itself or with the document's table over it
  have item : (Toml.merge (.table entries) (.table upper)).item? part.name part.place =
      some (match upper.lookup part.name with
        | some given => Toml.merge (.table lower) given
        | none => .table lower) := by
    have found : entries.lookup part.name = some (.table lower) := below
    rw [Toml.item?_merge_table, Toml.get?_merge, found]
    cases upper.lookup part.name <;> rfl
  rw [Toml.Field.reads_iff_of_item item]
  cases given : upper.lookup part.name with
  | none =>
    refine part.reads_iff.trans (forall₂_congr fun field present => ?_)
    rw [setting_follows_iff, Toml.get?_table, given]
    exact Toml.Field.reads_iff_of_reads (own field present)
  | some value =>
    obtain ⟨inner, rfl⟩ := Toml.isTable_iff.mp (regular value given)
    dsimp only
    rw [Toml.merge_table]
    refine part.reads_iff.trans (forall₂_congr fun field present => ?_)
    rw [setting_follows_iff, Toml.get?_table, given, ← Toml.merge_table]
    refine Toml.Field.reads_merge (own field present) fun old stands => ?_
    obtain ⟨_, _, rfl, -⟩ := List.lookup_eq_some_iff.mp stands
    exact plain _ List.mem_append_cons_self

namespace Setting

/-- All settings: those at the top of a document and those in its sections. -/
def all : List Setting :=
  Settings.profileField.setting :: Settings.vaultsField.setting ::
    Part.all.flatMap fun part => part.fields.map part.setting

/-- The paths of all settings. -/
example : all.map (·.path) = [["profile"], ["vaults"],
    ["loop", "interval_secs"], ["loop", "rebalance_cooldown_secs"],
    ["loop", "rebalance_stuck_alert_secs"],
    ["rpc", "timeout_ms"], ["rpc", "retry_attempts"], ["rpc", "retry_base_delay_ms"],
    ["escalation", "enabled"], ["escalation", "speed_up_threshold"],
    ["escalation", "gas_multiplier"], ["escalation", "poll_interval_ms"],
    ["escalation", "max_escalations"], ["escalation", "drop_pending_attempts"],
    ["escalation", "drop_pending_wait_cycles"], ["escalation", "max_wait_cycles"],
    ["aggregators", "timeout_ms"], ["aggregators", "slippage_bps"], ["aggregators", "providers"],
    ["aggregators", "disable_estimate"], ["aggregators", "allow_partial_fill"],
    ["aggregators", "protocols"], ["aggregators", "one_inch_url"], ["aggregators", "zero_ex_url"],
    ["aggregators", "open_ocean_url"],
    ["gas", "pricing"], ["gas", "default_gas_price_gwei"], ["gas", "max_gas_price_gwei"],
    ["gas", "priority_fee_gwei"], ["gas", "gas_limit"],
    ["contracts", "strategy_reader"], ["contracts", "debt_config"]] := by
  rfl

theorem forall_mem_all {p : Setting → Prop} :
    (∀ setting ∈ all, p setting) ↔
      p Settings.profileField.setting ∧ p Settings.vaultsField.setting ∧
        ∀ part ∈ Part.all, ∀ field ∈ part.fields, p (part.setting field) := by
  simp only [all, List.forall_mem_cons, List.forall_mem_flatMap, List.forall_mem_map]

/-- The same, section by section. -/
theorem forall_mem_sections {p : Setting → Prop} :
    (∀ setting ∈ all, p setting) ↔
      p Settings.profileField.setting ∧ p Settings.vaultsField.setting ∧
        (∀ field ∈ LoopSettings.fields, p (Part.loop.setting field)) ∧
        (∀ field ∈ RpcSettings.fields, p (Part.rpc.setting field)) ∧
        (∀ field ∈ EscalationPolicy.fields, p (Part.escalation.setting field)) ∧
        (∀ field ∈ AggregatorSettings.fields, p (Part.aggregators.setting field)) ∧
        (∀ field ∈ GasSettings.fields, p (Part.gas.setting field)) ∧
        ∀ field ∈ ContractSettings.fields, p (Part.contracts.setting field) := by
  rw [forall_mem_all]
  simp only [Part.all, List.forall_mem_cons, List.not_mem_nil, false_imp_iff, implies_true,
    and_true]
  exact Iff.rfl

end Setting

/-- The sections that a document has are tables. -/
def Toml.Regular (document : Toml) : Prop :=
  ∀ part ∈ Part.all, ∀ given ∈ document.get? part.name, given.IsTable

instance (document : Toml) : Decidable document.Regular :=
  inferInstanceAs (Decidable (∀ part ∈ Part.all, ∀ given ∈ document.get? part.name, given.IsTable))

namespace Settings

variable {base settings : Settings}

theorem vaults_reads (settings : Settings) : vaultsField.Reads settings.toToml settings := by
  have back := Toml.asList_map Vault.ofToml?_toToml settings.vaults
  rw [Toml.Field.reads_iff_of_item rfl]
  exact back

/-- Settings are read from a document over a base exactly as each of them is. -/
theorem ofToml?_merge (fits : base.escalation.pollInterval < UInt64.size)
    {upper : List (String × Toml)} (regular : (Toml.table upper).Regular) :
    ofToml? (base.toToml.merge (.table upper)) = some settings ↔
      ∀ setting ∈ Setting.all, setting.Follows (.table upper) base settings := by
  have merged : (base.toToml.merge (.table upper)).isRecord 8 = true := by
    rw [toToml, Toml.merge_table]
    rfl
  rw [ofToml?_eq_some_iff, and_iff_right merged, Setting.forall_mem_all, fields,
    List.forall_mem_cons, List.forall_mem_cons, List.forall_mem_map]
  refine and_congr ?_ (and_congr ?_ (forall₂_congr fun part mem => ?_))
  · rw [Toml.Field.setting_follows_iff]
    refine Toml.Field.reads_merge rfl fun old stands => ?_
    obtain rfl := Option.some.inj stands
    exact id
  · rw [Toml.Field.setting_follows_iff]
    refine Toml.Field.reads_merge (vaults_reads base) fun old stands => ?_
    obtain rfl := Option.some.inj stands
    exact id
  · exact Part.reads_merge mem fits (regular part mem)

end Settings

end VaultKeeper
