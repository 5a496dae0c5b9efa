import VaultKeeper.Decimal.Literal
import VaultKeeper.Environment.Basic
import VaultKeeper.Settings.Basic

/-! # Settings from the environment

Three settings may be overridden by variables. They are taken in a fixed order, and one that cannot
be read leaves the earlier ones in force.
-/

namespace VaultKeeper

/-- A setting that a variable may override. -/
inductive Override where
  | interval
  | threshold
  | multiplier
deriving DecidableEq, Repr

/-- Why a text is no value for a setting. -/
inductive NumberError where
  | integer (error : Text.IntegerError)
  | float (error : Decimal.LiteralError)
deriving DecidableEq, Repr

/-- The wording of the error. -/
def NumberError.message : NumberError → String
  | integer error => error.message
  | float error => error.message

/-- A variable that cannot be read. -/
structure OverrideError where
  name : String
  value : String
  cause : NumberError
deriving DecidableEq, Repr

/-- The wording of the error: the variable as it is set. -/
def OverrideError.message (error : OverrideError) : String :=
  error.name ++ "=" ++ Text.quoted error.value

namespace Override

/-- The settings in the order in which they are overridden. -/
def all : List Override :=
  [interval, threshold, multiplier]

/-- The variable for a setting. -/
def name : Override → String
  | interval => "LOOP_INTERVAL_SECS"
  | threshold => "SPEED_UP_THRESHOLD"
  | multiplier => "SPEED_UP_MULTIPLIER"

/-- The settings with one of them taken from a text; blanks around it are ignored. -/
def apply (override : Override) (value : String) (settings : Settings) :
    Except NumberError Settings :=
  let text := Text.trimBlank value.toList
  match override with
  | interval => do
    let seconds ← (Text.readUnsigned UInt64.size text).mapError .integer
    pure { settings with loop := { settings.loop with interval := UInt64.ofNat seconds } }
  | threshold => do
    let checks ← (Text.readUnsigned UInt32.size text).mapError .integer
    pure { settings with
      escalation := { settings.escalation with threshold := UInt32.ofNat checks } }
  | multiplier => do
    let multiplier ← (Decimal.readFloat text).mapError .float
    pure { settings with escalation := { settings.escalation with multiplier } }

end Override

namespace Settings

/-- Override settings in turn. The result holds what was applied before an error. -/
def overrideBy (environment : Environment) :
    (overrides : List Override) → Settings → Settings × Option OverrideError
  | [], settings => (settings, none)
  | next :: rest, settings =>
    match environment.get? next.name with
    | none => overrideBy environment rest settings
    | some value =>
      match next.apply value settings with
      | .ok settings => overrideBy environment rest settings
      | .error cause => (settings, some ⟨next.name, value, cause⟩)

/-- Override all settings that have a variable. -/
def override (settings : Settings) (environment : Environment) : Settings × Option OverrideError :=
  overrideBy environment Override.all settings

end Settings

end VaultKeeper
