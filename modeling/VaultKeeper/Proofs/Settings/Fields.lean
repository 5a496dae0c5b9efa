import Mathlib.Data.Option.Basic
import VaultKeeper.Proofs.Hex
import VaultKeeper.Proofs.Toml.Merge
import VaultKeeper.Settings.Document

/-! # The fields of the settings

A section of the settings is read field by field: it is what its fields are, and each of them is read
from the value under its key or has a value of its own where there is none. What a section is written
as is a table of plain values, from which every field is read as it was.
-/

namespace VaultKeeper

open Toml (asBool asNatural asUInt16 asUInt32 asUInt64 asFloat asString asList asAddress)

namespace Toml

/-- A field of a record: where it stands, how it is read, and what it is where it is left out. -/
structure Field (Record : Type) where
  Value : Type
  name : String
  place : Nat
  read : Toml → Option Value
  missing : Value
  get : Record → Value

namespace Field

variable {Record : Type}

/-- A field that may be left out. -/
def optional {α : Type} (name : String) (place : Nat) (read : Toml → Option α)
    (get : Record → Option α) : Field Record :=
  ⟨Option α, name, place, fun value => (read value).map some, none, get⟩

/-- The record has in the field what is read for it. -/
def Reads (field : Field Record) (part : Toml) (record : Record) : Prop :=
  part.field field.name field.place field.read field.missing = some (field.get record)

/-- A field is read from the value that stands there. -/
theorem reads_iff_of_item {field : Field Record} {part : Toml} {record : Record} {value : Toml}
    (item : part.item? field.name field.place = some value) :
    field.Reads part record ↔ field.read value = some (field.get record) := by
  rw [Reads, Toml.field, item]

/-- A field that may be left out is read back from what is written for it. -/
theorem optional_reads {α : Type} {name : String} {place : Nat} {read : Toml → Option α}
    {get : Record → Option α} {part : Toml} {record : Record} {encode : α → Toml}
    (item : part.item? name place = (get record).map encode)
    (back : ∀ value, read (encode value) = some value) :
    (optional name place read get).Reads part record := by
  rw [Reads, Toml.field, optional]
  dsimp only
  rw [item]
  cases get record with
  | none => rfl
  | some value => exact congrArg (Option.map some) (back value)

end Field

/-- A record as a table of plain values. -/
structure Written {Record : Type} (fields : List (Field Record)) (part : Toml) (record : Record) :
    Prop where
  plain : ∃ entries, part = table entries ∧ ∀ entry ∈ entries, ¬entry.2.IsTable
  reads : ∀ field ∈ fields, field.Reads part record

theorem asNatural_ofNat {bound n : Nat} (fits : n < bound) : asNatural bound (ofNat n) = some n :=
  if_pos fits

theorem asUInt16_ofNat (n : UInt16) : asUInt16 (ofNat n.toNat) = some n := by
  rw [asUInt16, asNatural_ofNat n.toNat_lt, Option.map_some, UInt16.ofNat_toNat]

theorem asUInt32_ofNat (n : UInt32) : asUInt32 (ofNat n.toNat) = some n := by
  rw [asUInt32, asNatural_ofNat n.toNat_lt, Option.map_some, UInt32.ofNat_toNat]

theorem asUInt64_ofNat (n : UInt64) : asUInt64 (ofNat n.toNat) = some n := by
  rw [asUInt64, asNatural_ofNat n.toNat_lt, Option.map_some, UInt64.ofNat_toNat]

theorem asAddress_ofAddress (address : Address) : asAddress (ofAddress address) = some address := by
  have length : address.toBytes.length = 20 := Bytes.length_bigEndian 20 address.toNat
  simp only [ofAddress, asAddress, Address.lower, Hex.decodeMarked_encode]
  rw [if_pos length, Address.ofBytes_toBytes]

/-- A list is read back if its items are. -/
theorem asList_map {α : Type} {read : Toml → Option α} {encode : α → Toml}
    (back : ∀ value, read (encode value) = some value) (values : List α) :
    asList read (array (values.map encode)) = some values := by
  rw [asList]
  induction values with
  | nil => rfl
  | cons value rest ih =>
    rw [List.map_cons, List.mapM_cons, back, ih]
    rfl

theorem lookup_entry {α : Type} (key name : String) (encode : α → Toml) (value : Option α) :
    (entry name encode value).lookup key = if key == name then value.map encode else none := by
  cases value with
  | none => simp [entry]
  | some value =>
    rw [entry, Option.toList_some, List.map_singleton, List.lookup_cons]
    cases key == name <;> rfl

/-- An entry of its own leaves a table plain. -/
theorem plain_of_mem_entry {α : Type} {name : String} {encode : α → Toml} {value : Option α}
    (plain : ∀ value, ¬(encode value).IsTable) :
    ∀ pair ∈ entry name encode value, ¬pair.2.IsTable := by
  intro pair mem
  obtain ⟨_, -, rfl⟩ := List.mem_map.mp mem
  exact plain _

end Toml

namespace LoopSettings

def fields : List (Toml.Field LoopSettings) := [
  ⟨UInt64, "interval_secs", 0, asUInt64, default.interval, interval⟩,
  ⟨UInt64, "rebalance_cooldown_secs", 1, asUInt64, default.rebalanceCooldown, rebalanceCooldown⟩,
  ⟨UInt64, "rebalance_stuck_alert_secs", 2, asUInt64, default.stuckAlert, stuckAlert⟩]

theorem ofToml?_eq_some_iff {part : Toml} {settings : LoopSettings} :
    ofToml? part = some settings ↔
      part.isRecord 3 = true ∧ ∀ field ∈ fields, field.Reads part settings := by
  simp only [ofToml?, fields, Toml.Field.Reads, List.forall_mem_cons, Option.bind_eq_bind,
    Option.bind_eq_some_iff, Option.guard_eq_some', Option.pure_def, Option.some.injEq]
  constructor
  · rintro ⟨_, record, _, interval, _, cooldown, _, alert, rfl⟩
    exact ⟨record, interval, cooldown, alert, List.forall_mem_nil _⟩
  · rintro ⟨record, interval, cooldown, alert, -⟩
    exact ⟨(), record, _, interval, _, cooldown, _, alert, rfl⟩

theorem written_toToml (settings : LoopSettings) :
    Toml.Written fields settings.toToml settings where
  plain := ⟨_, rfl, by simp [Toml.IsTable, Toml.ofNat]⟩
  reads := by
    simp only [fields, List.forall_mem_cons]
    exact ⟨Toml.asUInt64_ofNat _, Toml.asUInt64_ofNat _, Toml.asUInt64_ofNat _, List.forall_mem_nil _⟩

end LoopSettings

namespace RpcSettings

def fields : List (Toml.Field RpcSettings) := [
  ⟨UInt64, "timeout_ms", 0, asUInt64, default.timeout, timeout⟩,
  ⟨UInt32, "retry_attempts", 1, asUInt32, default.retryAttempts, retryAttempts⟩,
  ⟨UInt64, "retry_base_delay_ms", 2, asUInt64, default.retryBaseDelay, retryBaseDelay⟩]

theorem ofToml?_eq_some_iff {part : Toml} {settings : RpcSettings} :
    ofToml? part = some settings ↔
      part.isRecord 3 = true ∧ ∀ field ∈ fields, field.Reads part settings := by
  simp only [ofToml?, fields, Toml.Field.Reads, List.forall_mem_cons, Option.bind_eq_bind,
    Option.bind_eq_some_iff, Option.guard_eq_some', Option.pure_def, Option.some.injEq]
  constructor
  · rintro ⟨_, record, _, timeout, _, attempts, _, delay, rfl⟩
    exact ⟨record, timeout, attempts, delay, List.forall_mem_nil _⟩
  · rintro ⟨record, timeout, attempts, delay, -⟩
    exact ⟨(), record, _, timeout, _, attempts, _, delay, rfl⟩

theorem written_toToml (settings : RpcSettings) :
    Toml.Written fields settings.toToml settings where
  plain := ⟨_, rfl, by simp [Toml.IsTable, Toml.ofNat]⟩
  reads := by
    simp only [fields, List.forall_mem_cons]
    exact ⟨Toml.asUInt64_ofNat _, Toml.asUInt32_ofNat _, Toml.asUInt64_ofNat _, List.forall_mem_nil _⟩

end RpcSettings

namespace EscalationPolicy

def fields : List (Toml.Field EscalationPolicy) := [
  ⟨Bool, "enabled", 0, asBool, default.enabled, enabled⟩,
  ⟨UInt32, "speed_up_threshold", 1, asUInt32, default.threshold, threshold⟩,
  ⟨Float, "gas_multiplier", 2, asFloat, default.multiplier, multiplier⟩,
  ⟨Nat, "poll_interval_ms", 3, asNatural UInt64.size, default.pollInterval, pollInterval⟩,
  ⟨UInt32, "max_escalations", 4, asUInt32, default.maxEscalations, maxEscalations⟩,
  ⟨UInt32, "drop_pending_attempts", 5, asUInt32, default.dropAttempts, dropAttempts⟩,
  ⟨UInt32, "drop_pending_wait_cycles", 6, asUInt32, default.dropWait, dropWait⟩,
  ⟨UInt32, "max_wait_cycles", 7, asUInt32, default.maxWait, maxWait⟩]

theorem ofToml?_eq_some_iff {part : Toml} {policy : EscalationPolicy} :
    ofToml? part = some policy ↔
      part.isRecord 8 = true ∧ ∀ field ∈ fields, field.Reads part policy := by
  simp only [ofToml?, fields, Toml.Field.Reads, List.forall_mem_cons, Option.bind_eq_bind,
    Option.bind_eq_some_iff, Option.guard_eq_some', Option.pure_def, Option.some.injEq]
  constructor
  · rintro ⟨_, record, _, enabled, _, threshold, _, multiplier, _, interval, _, escalations,
      _, attempts, _, dropWait, _, maxWait, rfl⟩
    exact ⟨record, enabled, threshold, multiplier, interval, escalations, attempts, dropWait,
      maxWait, List.forall_mem_nil _⟩
  · rintro ⟨record, enabled, threshold, multiplier, interval, escalations, attempts, dropWait,
      maxWait, -⟩
    exact ⟨(), record, _, enabled, _, threshold, _, multiplier, _, interval, _, escalations,
      _, attempts, _, dropWait, _, maxWait, rfl⟩

/-- The interval is the one number that need not fit. -/
theorem written_toToml {policy : EscalationPolicy} (fits : policy.pollInterval < UInt64.size) :
    Toml.Written fields policy.toToml policy where
  plain := ⟨_, rfl, by simp [Toml.IsTable, Toml.ofNat]⟩
  reads := by
    simp only [fields, List.forall_mem_cons]
    exact ⟨rfl, Toml.asUInt32_ofNat _, rfl, Toml.asNatural_ofNat fits, Toml.asUInt32_ofNat _,
      Toml.asUInt32_ofNat _, Toml.asUInt32_ofNat _, Toml.asUInt32_ofNat _, List.forall_mem_nil _⟩

end EscalationPolicy

namespace AggregatorSettings

def fields : List (Toml.Field AggregatorSettings) := [
  ⟨UInt64, "timeout_ms", 0, asUInt64, default.timeout, timeout⟩,
  ⟨UInt16, "slippage_bps", 1, asUInt16, default.quotes.slippageBps, (·.quotes.slippageBps)⟩,
  ⟨List AggregatorKind, "providers", 2, asList AggregatorKind.ofToml?, default.providers,
    providers⟩,
  ⟨Bool, "disable_estimate", 3, asBool, default.quotes.disableEstimate,
    (·.quotes.disableEstimate)⟩,
  ⟨Bool, "allow_partial_fill", 4, asBool, default.quotes.allowPartialFill,
    (·.quotes.allowPartialFill)⟩,
  .optional "protocols" 5 asString (·.quotes.protocols),
  .optional "one_inch_url" 6 asString oneInchUrl,
  .optional "zero_ex_url" 7 asString zeroExUrl,
  .optional "open_ocean_url" 8 asString openOceanUrl]

theorem ofToml?_eq_some_iff {part : Toml} {settings : AggregatorSettings} :
    ofToml? part = some settings ↔
      part.isRecord 9 = true ∧ ∀ field ∈ fields, field.Reads part settings := by
  simp only [ofToml?, fields, Toml.Field.Reads, Toml.Field.optional, Toml.optional,
    List.forall_mem_cons, Option.bind_eq_bind, Option.bind_eq_some_iff, Option.guard_eq_some',
    Option.pure_def, Option.some.injEq]
  constructor
  · rintro ⟨_, record, _, timeout, _, slippage, _, providers, _, estimate, _, partly,
      _, protocols, _, oneInch, _, zeroEx, _, openOcean, rfl⟩
    exact ⟨record, timeout, slippage, providers, estimate, partly, protocols, oneInch, zeroEx,
      openOcean, List.forall_mem_nil _⟩
  · rintro ⟨record, timeout, slippage, providers, estimate, partly, protocols, oneInch, zeroEx,
      openOcean, -⟩
    exact ⟨(), record, _, timeout, _, slippage, _, providers, _, estimate, _, partly,
      _, protocols, _, oneInch, _, zeroEx, _, openOcean, rfl⟩

theorem ofToml?_name (kind : AggregatorKind) :
    AggregatorKind.ofToml? (.string kind.name) = some kind := by
  cases kind <;> decide +kernel

theorem written_toToml (settings : AggregatorSettings) :
    Toml.Written fields settings.toToml settings where
  plain := by
    refine ⟨_, rfl, ?_⟩
    simp only [List.forall_mem_append]
    refine ⟨⟨⟨⟨?_, ?_⟩, ?_⟩, ?_⟩, ?_⟩
    · simp [Toml.IsTable, Toml.ofNat]
    all_goals exact Toml.plain_of_mem_entry fun _ => id
  reads := by
    -- these four may be missing, so that what stands before them has to be passed
    have protocols : settings.toToml.item? "protocols" 5 =
        settings.quotes.protocols.map .string := by
      simp [toToml, Toml.item?, List.lookup_cons, Toml.lookup_entry, List.lookup_append]
    have oneInch : settings.toToml.item? "one_inch_url" 6 = settings.oneInchUrl.map .string := by
      simp [toToml, Toml.item?, List.lookup_cons, Toml.lookup_entry, List.lookup_append]
    have zeroEx : settings.toToml.item? "zero_ex_url" 7 = settings.zeroExUrl.map .string := by
      simp [toToml, Toml.item?, List.lookup_cons, Toml.lookup_entry, List.lookup_append]
    have openOcean : settings.toToml.item? "open_ocean_url" 8 =
        settings.openOceanUrl.map .string := by
      simp [toToml, Toml.item?, List.lookup_cons, Toml.lookup_entry, List.lookup_append]
    simp only [fields, List.forall_mem_cons]
    exact ⟨Toml.asUInt64_ofNat _, Toml.asUInt16_ofNat _, Toml.asList_map ofToml?_name _, rfl, rfl,
      Toml.Field.optional_reads protocols fun _ => rfl,
      Toml.Field.optional_reads oneInch fun _ => rfl,
      Toml.Field.optional_reads zeroEx fun _ => rfl,
      Toml.Field.optional_reads openOcean fun _ => rfl, List.forall_mem_nil _⟩

end AggregatorSettings

namespace GasSettings

def fields : List (Toml.Field GasSettings) := [
  ⟨FeeModel, "pricing", 0, FeeModel.ofToml?, default.model, model⟩,
  ⟨Float, "default_gas_price_gwei", 1, asFloat, default.defaultPrice, defaultPrice⟩,
  ⟨Float, "max_gas_price_gwei", 2, asFloat, default.maxPrice, maxPrice⟩,
  .optional "priority_fee_gwei" 3 asFloat priorityFee,
  ⟨UInt64, "gas_limit", 4, asUInt64, default.gasLimit, gasLimit⟩]

theorem ofToml?_eq_some_iff {part : Toml} {settings : GasSettings} :
    ofToml? part = some settings ↔
      part.isRecord 5 = true ∧ ∀ field ∈ fields, field.Reads part settings := by
  simp only [ofToml?, fields, Toml.Field.Reads, Toml.Field.optional, Toml.optional,
    List.forall_mem_cons, Option.bind_eq_bind, Option.bind_eq_some_iff, Option.guard_eq_some',
    Option.pure_def, Option.some.injEq]
  constructor
  · rintro ⟨_, record, _, model, _, price, _, cap, _, tip, _, limit, rfl⟩
    exact ⟨record, model, price, cap, tip, limit, List.forall_mem_nil _⟩
  · rintro ⟨record, model, price, cap, tip, limit, -⟩
    exact ⟨(), record, _, model, _, price, _, cap, _, tip, _, limit, rfl⟩

theorem ofToml?_toToml (model : FeeModel) : FeeModel.ofToml? model.toToml = some model := by
  cases model <;> decide +kernel

theorem written_toToml (settings : GasSettings) :
    Toml.Written fields settings.toToml settings where
  plain := by
    refine ⟨_, rfl, ?_⟩
    have model : ¬settings.model.toToml.IsTable := by
      cases settings.model <;> exact id
    simp only [List.forall_mem_append, List.forall_mem_cons]
    exact ⟨⟨model, id, id, id, List.forall_mem_nil _⟩, Toml.plain_of_mem_entry fun _ => id⟩
  reads := by
    have tip : settings.toToml.item? "priority_fee_gwei" 3 = settings.priorityFee.map .float := by
      simp [toToml, Toml.item?, List.lookup_cons, Toml.lookup_entry]
    simp only [fields, List.forall_mem_cons]
    exact ⟨ofToml?_toToml _, rfl, rfl, Toml.Field.optional_reads tip fun _ => rfl,
      Toml.asUInt64_ofNat _, List.forall_mem_nil _⟩

end GasSettings

namespace ContractSettings

def fields : List (Toml.Field ContractSettings) := [
  ⟨Address, "strategy_reader", 0, asAddress, default.strategyReader, strategyReader⟩,
  ⟨Address, "debt_config", 1, asAddress, default.debtConfig, debtConfig⟩]

theorem ofToml?_eq_some_iff {part : Toml} {settings : ContractSettings} :
    ofToml? part = some settings ↔
      part.isRecord 2 = true ∧ ∀ field ∈ fields, field.Reads part settings := by
  simp only [ofToml?, fields, Toml.Field.Reads, List.forall_mem_cons, Option.bind_eq_bind,
    Option.bind_eq_some_iff, Option.guard_eq_some', Option.pure_def, Option.some.injEq]
  constructor
  · rintro ⟨_, record, _, reader, _, config, rfl⟩
    exact ⟨record, reader, config, List.forall_mem_nil _⟩
  · rintro ⟨record, reader, config, -⟩
    exact ⟨(), record, _, reader, _, config, rfl⟩

theorem written_toToml (settings : ContractSettings) :
    Toml.Written fields settings.toToml settings where
  plain := ⟨_, rfl, by simp [Toml.IsTable, Toml.ofAddress]⟩
  reads := by
    simp only [fields, List.forall_mem_cons]
    refine ⟨?_, ?_, List.forall_mem_nil _⟩
    all_goals
      rw [Toml.Field.reads_iff_of_item rfl]
      dsimp only
      exact Toml.asAddress_ofAddress _

end ContractSettings

/-- A vault is read back from its own entry. -/
theorem Vault.ofToml?_toToml (vault : Vault) : ofToml? vault.toToml = some vault := by
  have platform : Platform.ofName? vault.platform.name = some vault.platform := by
    cases vault.platform <;> decide +kernel
  have strategies := Toml.asList_map Toml.asAddress_ofAddress vault.strategies
  have address := Toml.asAddress_ofAddress vault.address
  simp [ofToml?, toToml, Toml.isRecord, Toml.required, Toml.field, Toml.item?, asString,
    Toml.asChoice, guard, List.lookup_cons, platform, strategies, address]

end VaultKeeper
