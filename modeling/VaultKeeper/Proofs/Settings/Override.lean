import VaultKeeper.Proofs.Settings.Layers
import VaultKeeper.Settings.Override

/-! # What the environment changes

The variables are gone through in their order up to the first one that cannot be read. Each one
before it gives its setting the number that it holds, if it is set, and nothing else is changed.
-/

namespace VaultKeeper

namespace Override

/-- The setting that a variable is for. -/
def setting : Override → Setting
  | interval => ⟨UInt64, ["loop", "interval_secs"], Toml.asUInt64, (·.loop.interval)⟩
  | threshold =>
    ⟨UInt32, ["escalation", "speed_up_threshold"], Toml.asUInt32, (·.escalation.threshold)⟩
  | multiplier =>
    ⟨Float, ["escalation", "gas_multiplier"], Toml.asFloat, (·.escalation.multiplier)⟩

theorem setting_mem (override : Override) : override.setting ∈ Setting.all := by
  cases override with
  | interval => exact List.mem_of_getElem? (i := 2) rfl
  | threshold => exact List.mem_of_getElem? (i := 9) rfl
  | multiplier => exact List.mem_of_getElem? (i := 10) rfl

/-- The number in a text, with blanks around it. -/
def parse : (override : Override) → (value : String) → Except NumberError override.setting.Value
  | interval, value =>
    ((Text.readUnsigned UInt64.size (Text.trimBlank value.toList)).mapError .integer).map
      UInt64.ofNat
  | threshold, value =>
    ((Text.readUnsigned UInt32.size (Text.trimBlank value.toList)).mapError .integer).map
      UInt32.ofNat
  | multiplier, value =>
    (Decimal.readFloat (Text.trimBlank value.toList)).mapError .float

theorem eq_of_path_eq {override other : Override}
    (same : override.setting.path = other.setting.path) : override = other := by
  cases override <;> cases other <;> simp_all [setting]

/-- Settings with another number in the setting. -/
def put : (override : Override) → override.setting.Value → Settings → Settings
  | interval, seconds, settings =>
    { settings with loop := { settings.loop with interval := seconds } }
  | threshold, checks, settings =>
    { settings with escalation := { settings.escalation with threshold := checks } }
  | multiplier, factor, settings =>
    { settings with escalation := { settings.escalation with multiplier := factor } }

/-- A variable is read by itself, and then its number is put into the setting. -/
theorem apply_eq {override : Override} {value : String} {settings : Settings} :
    override.apply value settings =
      (override.parse value).map fun number => override.put number settings := by
  cases override with
  | interval =>
    rw [apply, parse]
    cases Text.readUnsigned UInt64.size (Text.trimBlank value.toList) <;> rfl
  | threshold =>
    rw [apply, parse]
    cases Text.readUnsigned UInt32.size (Text.trimBlank value.toList) <;> rfl
  | multiplier =>
    rw [apply, parse]
    cases Decimal.readFloat (Text.trimBlank value.toList) <;> rfl

theorem value_put (override : Override) (number : override.setting.Value) (settings : Settings) :
    override.setting.value (override.put number settings) = number := by
  cases override <;> rfl

/-- No other setting changes. -/
theorem value_put_of_ne {override : Override} (number : override.setting.Value)
    (settings : Settings) {setting : Setting} (mem : setting ∈ Setting.all)
    (other : override.setting.path ≠ setting.path) :
    setting.value (override.put number settings) = setting.value settings := by
  have all : ∀ setting ∈ Setting.all, override.setting.path ≠ setting.path →
      setting.value (override.put number settings) = setting.value settings := by
    rw [Setting.forall_mem_sections]
    -- the other sections are the same, and so are the other fields of the section
    cases override with
    | interval =>
      refine ⟨fun _ => rfl, fun _ => rfl, ?_, fun _ _ _ => rfl, fun _ _ _ => rfl,
        fun _ _ _ => rfl, fun _ _ _ => rfl, fun _ _ _ => rfl⟩
      simp only [LoopSettings.fields, List.forall_mem_cons]
      exact ⟨fun other => absurd rfl other, fun _ => rfl, fun _ => rfl, List.forall_mem_nil _⟩
    | threshold =>
      refine ⟨fun _ => rfl, fun _ => rfl, fun _ _ _ => rfl, fun _ _ _ => rfl, ?_,
        fun _ _ _ => rfl, fun _ _ _ => rfl, fun _ _ _ => rfl⟩
      simp only [EscalationPolicy.fields, List.forall_mem_cons]
      exact ⟨fun _ => rfl, fun other => absurd rfl other, fun _ => rfl, fun _ => rfl,
        fun _ => rfl, fun _ => rfl, fun _ => rfl, fun _ => rfl, List.forall_mem_nil _⟩
    | multiplier =>
      refine ⟨fun _ => rfl, fun _ => rfl, fun _ _ _ => rfl, fun _ _ _ => rfl, ?_,
        fun _ _ _ => rfl, fun _ _ _ => rfl, fun _ _ _ => rfl⟩
      simp only [EscalationPolicy.fields, List.forall_mem_cons]
      exact ⟨fun _ => rfl, fun _ => rfl, fun other => absurd rfl other, fun _ => rfl,
        fun _ => rfl, fun _ => rfl, fun _ => rfl, fun _ => rfl, List.forall_mem_nil _⟩
  exact all setting mem other

/-- The setting is the number that its variable holds, and stays as it is if there is none. -/
def Follows (override : Override) (environment : Environment) (before after : Settings) : Prop :=
  match environment.get? override.name with
  | some value => override.parse value = .ok (override.setting.value after)
  | none => override.setting.value after = override.setting.value before

/-- The variable is set and cannot be read. -/
def Fails (override : Override) (environment : Environment) (error : OverrideError) : Prop :=
  error.name = override.name ∧ environment.get? override.name = some error.value ∧
    override.parse error.value = .error error.cause

end Override

/-- Some variables are taken over, and the next one, if there is one, cannot be read. -/
structure Overridden (environment : Environment) (taken left : List Override)
    (before after : Settings) (error? : Option OverrideError) : Prop where
  follows : ∀ override ∈ taken, override.Follows environment before after
  others : ∀ setting ∈ Setting.all, (∀ override ∈ taken, override.setting.path ≠ setting.path) →
    setting.value after = setting.value before
  stops : match left with
    | [] => error? = none
    | next :: _ => ∃ error, error? = some error ∧ next.Fails environment error

namespace Overridden

variable {environment : Environment} {next : Override} {taken left : List Override}
  {before after : Settings} {error? : Option OverrideError}

/-- A variable that is not set is passed over. -/
theorem pass (unset : environment.get? next.name = none) (fresh : next ∉ taken)
    (rest : Overridden environment taken left before after error?) :
    Overridden environment (next :: taken) left before after error? where
  follows := by
    rw [List.forall_mem_cons]
    refine ⟨?_, rest.follows⟩
    rw [Override.Follows, unset]
    refine rest.others _ next.setting_mem fun override mem same => ?_
    exact fresh (Override.eq_of_path_eq same ▸ mem)
  others setting mem apart :=
    rest.others setting mem fun override present => apart override (.tail _ present)
  stops := rest.stops

/-- A variable that can be read gives its setting a number that none of the later ones changes. -/
theorem take {value : String} {number : next.setting.Value}
    (given : environment.get? next.name = some value) (parsed : next.parse value = .ok number)
    (fresh : next ∉ taken)
    (rest : Overridden environment taken left (next.put number before) after error?) :
    Overridden environment (next :: taken) left before after error? where
  follows := by
    rw [List.forall_mem_cons]
    constructor
    · have kept : next.setting.value after = next.setting.value (next.put number before) := by
        refine rest.others _ next.setting_mem fun override mem same => ?_
        exact fresh (Override.eq_of_path_eq same ▸ mem)
      rw [Override.Follows, given]
      dsimp only
      rw [kept, Override.value_put, parsed]
    · intro override mem
      have follows := rest.follows override mem
      have other : next.setting.path ≠ override.setting.path :=
        fun same => fresh (Override.eq_of_path_eq same ▸ mem)
      rw [Override.Follows] at follows ⊢
      rwa [Override.value_put_of_ne number before override.setting_mem other] at follows
  others setting mem apart := by
    have later := rest.others setting mem fun override present => apart override (.tail _ present)
    rw [later, Override.value_put_of_ne number before mem (apart next (.head _))]
  stops := rest.stops

end Overridden

namespace Settings

/-- Different variables are taken over up to the first one that cannot be read. -/
theorem overrideBy_overridden (environment : Environment) {overrides : List Override}
    (distinct : overrides.Nodup) (before : Settings) :
    ∃ taken left, overrides = taken ++ left ∧
      Overridden environment taken left before (overrideBy environment overrides before).1
        (overrideBy environment overrides before).2 := by
  induction overrides generalizing before with
  | nil => exact ⟨[], [], rfl, nofun, fun _ _ _ => rfl, rfl⟩
  | cons next rest ih =>
    obtain ⟨fresh, distinct⟩ := List.nodup_cons.mp distinct
    rw [overrideBy]
    cases given : environment.get? next.name with
    | none =>
      obtain ⟨taken, left, rfl, overridden⟩ := ih distinct before
      have fresh : next ∉ taken := fun mem => fresh (List.mem_append_left _ mem)
      exact ⟨next :: taken, left, rfl, overridden.pass given fresh⟩
    | some value =>
      dsimp only
      rw [Override.apply_eq]
      cases parsed : next.parse value with
      | error cause =>
        exact ⟨[], next :: rest, rfl, nofun, fun _ _ _ => rfl, _, rfl, rfl, given, parsed⟩
      | ok number =>
        obtain ⟨taken, left, rfl, overridden⟩ := ih distinct (next.put number before)
        have fresh : next ∉ taken := fun mem => fresh (List.mem_append_left _ mem)
        exact ⟨next :: taken, left, rfl, overridden.take given parsed fresh⟩

/-- A variable that cannot be read leaves an earlier one in force. -/
example :
    default.override [("LOOP_INTERVAL_SECS", " 15 "), ("SPEED_UP_THRESHOLD", "ten")] =
      ({ default with loop := { default.loop with interval := 15 } },
        some ⟨"SPEED_UP_THRESHOLD", "ten", .integer .badDigit⟩) := by
  rfl

end Settings

end VaultKeeper
