import VaultKeeper.Settings.Document
import VaultKeeper.Settings.Override

/-! # Loading settings

The settings come from a file, which has to be there since no profile knows contracts or vaults. The
environment names the file and the profile for a file that names none, and overrides some settings.
-/

namespace VaultKeeper

/-- What is at a path. -/
inductive FileState where
  | missing
  | unreadable
  | content (text : String)
deriving DecidableEq, Repr

/-- Why there are no settings. -/
inductive LoadError where
  | missing (path profile : String)
  | unreadable (path : String)
  | malformed (path : String)
  | overriding (error : OverrideError)
deriving DecidableEq, Repr

/-- The wording of the error. -/
def LoadError.message : LoadError → String
  | missing path profile => "Config file " ++ path
    ++ " not found, it must list contracts and vaults (profile " ++ profile ++ " supplies the rest)"
  | unreadable path => "Failed to read " ++ path
  | malformed path => "Failed to parse " ++ path
  | overriding error => error.message

namespace Settings

/-- The path of the file. -/
def path (environment : Environment) : String :=
  (environment.get? "KEEPER_CONFIG").getD "keeper.toml"

/-- The profile for a file that names none. -/
def fallbackProfile (environment : Environment) : String :=
  (environment.get? "KEEPER_PROFILE").getD "default"

/-- Load the settings from what is at their path. -/
def load (environment : Environment) (file : FileState) : Except LoadError Settings :=
  let path := path environment
  let profile := fallbackProfile environment
  match file with
  | .missing => .error (.missing path profile)
  | .unreadable => .error (.unreadable path)
  | .content text =>
    match read? text profile with
    | none => .error (.malformed path)
    | some settings =>
      match settings.override environment with
      | (settings, none) => .ok settings
      | (_, some error) => .error (.overriding error)

end Settings

end VaultKeeper
