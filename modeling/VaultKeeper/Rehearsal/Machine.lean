import VaultKeeper.Clock
import VaultKeeper.Rehearsal.Folder
import VaultKeeper.Rehearsal.Network
import VaultKeeper.Service.Startup

/-! # A machine for a rehearsal

The program runs in a folder of given files, on a network that answers from scripts, and is asked to
stop while it waits for its second cycle.
-/

namespace VaultKeeper.Rehearsal

/-- The surroundings of the program as they stand. -/
structure Machine where
  folder : Folder
  network : Network
  clock : ManualClock
  stopped : Bool
  /-- What was logged, newest first. -/
  events : List (LogFormat × LogEvent)

namespace Machine

/-- What the program does on a machine; a panic ends it with its message. -/
abbrev Run := ExceptT String (StateM Machine)

/-- The path under which the network's node is found. -/
def nodePath : String := "/rpc"

/-- Let the network do something. -/
def onNetwork {α : Type} (run : StateM Network α) : Run α := do
  let (answer, network) := run.run (← get).network
  modify fun machine => { machine with network }
  pure answer

/-- Is the network's node at an address? -/
def isNode (url : String) : Bool :=
  (Http.Url.parse url).any fun url => Network.isReachable url && url.path == nodePath

/-- Let time pass. -/
def wait (milliseconds : Nat) : Run Unit :=
  modify fun machine => { machine with clock := machine.clock.advance milliseconds }

/-- Answer a call of the program. -/
def onHost : (call : Host.Call) → Run (Interface.Answer Host call)
  | .file path => do pure ((← get).folder.look path)
  | .log format event =>
    modify fun machine => { machine with events := (format, event) :: machine.events }
  | .node url _ request =>
    if isNode url then onNetwork (Network.answer request) else pure (some .failed)
  | .http _ request => do pure (some (← onNetwork (Network.onHttp request)))
  | .sleep milliseconds => wait milliseconds
  | .pause milliseconds => do
    wait milliseconds
    modify fun machine => { machine with stopped := true }
    pure false
  | .stopRequested => do pure (← get).stopped
  | .now => do pure (← get).clock.milliseconds.toNat
  | .panic message => throw message

/-- Run the program to its end. -/
def run (environment : Environment) (machine : Machine) : Ending × Machine :=
  ((program environment).interpret onHost).run machine

end Machine

namespace Network

/-- Which calls are made at the same time, those of the same group. -/
def group (call : String) : Nat :=
  if ["needRebalance ", "getDefaultState ", "getLockedUnderlyingAmount "].any (call.startsWith ·)
  then 1
  else if call.startsWith "GET " then 2
  else 0

/-- Calls made at the same time in the order of their texts. -/
def arrange (calls : List String) : List String :=
  (calls.splitBy fun a b => group a == group b && group a != 0).flatMap fun run =>
    run.mergeSort fun a b => decide (a ≤ b)

end Network

end VaultKeeper.Rehearsal
