import VaultKeeper.Keeper.Action

/-! # Steps that hand over their deliveries

For the one who plans a step, a delivery is a single call: a payload goes out and its outcome comes
back. `Task.carryOut` is what the courier makes of that call.
-/

namespace VaultKeeper

namespace Task

/-- The calls of a step that leaves deliveries to a courier. -/
inductive Call where
  /-- A call of the step itself. -/
  | step (call : Step.Call)
  /-- Have a payload delivered. -/
  | deliver (receiver : Address) (data : Bytes)
deriving DecidableEq, Repr

end Task

/-- The surroundings of a step, a courier among them. -/
abbrev Task : Interface where
  Call := Task.Call
  Answer
    | .step call => Step.Answer call
    | .deliver _ _ => Except Failure Receipt

namespace Task

/-- Calls of a step itself as part of a task. -/
def ofStep {α : Type} (program : Program Step α) : Program Task α :=
  program.interpret fun call => Program.ask (I := Task) (.step call)

instance : MonadLift (Program Step) (Program Task) := ⟨ofStep⟩

/-- Have a payload delivered and learn its outcome. -/
def deliver (receiver : Address) (data : Bytes) : Program Task (Except Failure Receipt) :=
  Program.ask (I := Task) (.deliver receiver data)

/-- A task as a courier carries it out. -/
def carryOut (courier : Courier) : (call : Task.Call) → Program Step (Interface.Answer Task call)
  | .step call => Program.ask (I := Step) call
  | .deliver receiver data => Step.ofDelivery (courier.deliver receiver data)

end Task

end VaultKeeper
