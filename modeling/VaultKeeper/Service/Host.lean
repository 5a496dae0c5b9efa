import VaultKeeper.Http.Basic
import VaultKeeper.Log.Filter
import VaultKeeper.Rpc.Basic
import VaultKeeper.Settings.Load

/-! # The host of the keeper

All that the keeper needs from the machine that it runs on: files, a log, connections, time, and
word of a request to stop.
-/

namespace VaultKeeper

namespace Host

inductive Call where
  /-- What is at a path. -/
  | file (path : String)
  | log (format : LogFormat) (event : LogEvent)
  /-- A call to the node at an address, with so many milliseconds to answer. -/
  | node (url : String) (limit : Nat) (request : Rpc.Request)
  /-- A request to another service, with so many milliseconds to answer. -/
  | http (limit : Nat) (request : Http.Request)
  | sleep (milliseconds : Nat)
  /-- Wait, unless a request to stop cuts the wait short; the answer tells whether none did. -/
  | pause (milliseconds : Nat)
  | stopRequested
  /-- The time in milliseconds. -/
  | now
  /-- Break off with a message. -/
  | panic (message : String)

end Host

/-- The machine that the keeper runs on. A missing answer to a request is `none`, and nothing comes
after a panic. -/
abbrev Host : Interface where
  Call := Host.Call
  Answer
    | .file _ => FileState
    | .log _ _ => Unit
    | .node .. => Option Http.Response
    | .http .. => Option Http.Response
    | .sleep _ => Unit
    | .pause _ => Bool
    | .stopRequested => Bool
    | .now => Nat
    | .panic _ => Empty

namespace Host

def file (path : String) : Program Host FileState :=
  Program.ask (I := Host) (.file path)

def http (limit : Nat) (request : Http.Request) : Program Host (Option Http.Response) :=
  Program.ask (I := Host) (.http limit request)

def sleep (milliseconds : Nat) : Program Host Unit :=
  Program.ask (I := Host) (.sleep milliseconds)

def pause (milliseconds : Nat) : Program Host Bool :=
  Program.ask (I := Host) (.pause milliseconds)

def stopRequested : Program Host Bool :=
  Program.ask (I := Host) .stopRequested

def now : Program Host Nat :=
  Program.ask (I := Host) .now

/-- Ask the node at an address. -/
def request (url : String) (limit : Nat) (request : Rpc.Request) :
    Program Host (Option Http.Response) :=
  Program.ask (I := Host) (.node url limit request)

/-- Break off. -/
def panic {α : Type} (message : String) : Program Host α :=
  .call (.panic message) nofun

/-- Answer a call to the node at an address. The state is the time by which the further calls after
an opening one have to be answered. -/
def onNode (url : String) (limit : Nat) :
    (call : Rpc.Call) → StateT Nat (Program Host) (Interface.Answer Node call)
  | .node query => request url limit query
  | .opening query => do
    set ((← (now : StateT Nat (Program Host) Nat)) + limit)
    request url limit query
  | .further query => do
    let remaining := (← get) - (← (now : StateT Nat (Program Host) Nat))
    request url remaining query
  | .sleep milliseconds => sleep milliseconds
  | .panic message => panic message

/-- Calls to the node at an address, each with the same time to answer unless it shares a
deadline. -/
def ofNode {α : Type} (url : String) (limit : Nat) (program : Program Node α) : Program Host α :=
  (program.interpret (onNode url limit)).run' 0

end Host

/-- What is logged, and how. -/
structure Logger where
  filter : LogFilter
  format : LogFormat
deriving DecidableEq, Repr

namespace Logger

/-- The log that an environment asks for; a malformed filter counts as none. -/
def ofEnvironment (environment : Environment) : Logger where
  filter := ((environment.get? "RUST_LOG").bind LogFilter.read).getD LogFilter.default
  format :=
    match environment.get? "LOG_FORMAT" with
    | some format => if format.toList.map Char.toLower = "json".toList then .json else .text
    | none => .text

/-- Log an event if the filter admits it. -/
def log (logger : Logger) (event : LogEvent) : Program Host Unit :=
  if logger.filter.admits event then Program.ask (I := Host) (.log logger.format event) else pure ()

end Logger

end VaultKeeper
