import VaultKeeper.Event
import VaultKeeper.Failure
import VaultKeeper.Program

/-! # Vaults and their strategies

A vault is configured with its platform and with strategies of its own. In each cycle its strategies
are found anew: those that its splitter lists, followed by the configured ones that are not among
them.
-/

namespace VaultKeeper

/-- A configured vault. -/
structure Vault where
  name : String
  address : Address
  platform : Platform
  /-- Strategies that are served even if the splitter does not list them. -/
  strategies : List Address
deriving DecidableEq, Repr

/-- One strategy to be served. -/
structure Target where
  vaultName : String
  vault : Address
  /-- Without a splitter nothing is known about pauses. -/
  splitter : Option Address
  strategy : Address
  platform : Platform
deriving DecidableEq, Repr

namespace Registry

/-- What finding strategies asks the chain. -/
inductive Call where
  | splitterOf (vault : Address)
  | strategiesOf (splitter : Address)
deriving DecidableEq, Repr

end Registry

/-- The contracts that know the strategies of a vault. -/
abbrev Registry : Interface where
  Call := Registry.Call
  Answer
    | .splitterOf _ => Except Failure (Option Address)
    | .strategiesOf _ => Except Failure (List Address)

namespace Vault

/-- A list followed by those of `extras` that are not in it yet, each once. -/
def appendMissing (listed : List Address) : (extras : List Address) → List Address
  | [] => listed
  | extra :: rest =>
    if listed.contains extra then appendMissing listed rest
    else appendMissing (listed ++ [extra]) rest

/-- A strategy of the vault as a target. -/
def target (vault : Vault) (splitter : Option Address) (strategy : Address) : Target :=
  ⟨vault.name, vault.address, splitter, strategy, vault.platform⟩

/-- The targets of a vault, given what its splitter lists. -/
def targets (vault : Vault) (splitter : Option Address) (listed : List Address) : List Target :=
  (appendMissing listed vault.strategies).map (vault.target splitter)

/-- Find the strategies of a vault. -/
def discover (vault : Vault) : Program Registry (Except Failure (List Target)) := do
  let splitter : Except Failure (Option Address) ←
    Program.ask (I := Registry) (.splitterOf vault.address)
  match splitter with
  | .error failure => pure (.error failure)
  | .ok none => pure (.ok (vault.targets none []))
  | .ok (some splitter) =>
    let listed : Except Failure (List Address) ←
      Program.ask (I := Registry) (.strategiesOf splitter)
    match listed with
    | .error failure => pure (.error failure)
    | .ok listed => pure (.ok (vault.targets (some splitter) listed))

end Vault

end VaultKeeper
