import VaultKeeper.Service.Relay
import VaultKeeper.Service.Startup

/-! # The command line

The keeper takes no arguments: its environment and the files in the current folder say what to do.
It logs to the error stream and talks to its relay over the standard streams.
-/

namespace VaultKeeper.CommandLine

/-- What is at a path. -/
def look (path : String) : IO FileState := do
  try
    pure (.content (← IO.FS.readFile path))
  catch
    | .noFileOrDirectory .. => pure .missing
    | _ => pure .unreadable

/-- Put a question to the relay. -/
def ask (question : Json) : IO Json := do
  let output ← IO.getStdout
  output.putStrLn question.write
  output.flush
  pure (Relay.readLine (← (← IO.getStdin).getLine))

/-- Answer a call of the program. A panic ends it with its message. -/
def answer : (call : Host.Call) → ExceptT String IO (Interface.Answer Host call)
  | .file path => look path
  | .log format event => IO.eprintln (event.line format)
  | .node url limit request => Relay.readResponse <$> ask (Relay.askNode url limit request)
  | .http limit request => Relay.readResponse <$> ask (Relay.askHttp limit request)
  | .sleep milliseconds => do
    let _ ← ask (Relay.askSleep milliseconds)
  | .pause milliseconds => Relay.readPause <$> ask (Relay.askPause milliseconds)
  | .stopRequested => Relay.readStop <$> ask Relay.askStop
  | .now => Relay.readTime <$> ask Relay.askNow
  | .panic message => throw message

/-- The variables that are set. -/
def environment : IO Environment :=
  variableNames.filterMapM fun name => do
    pure ((← IO.getEnv name).map fun value => (name, value))

end VaultKeeper.CommandLine

open VaultKeeper in
/-- Run the keeper until it is asked to stop. The exit code tells how it ended. -/
def main : IO UInt32 := do
  let ending : Ending ← ((program (← CommandLine.environment)).interpret CommandLine.answer).run
  match ending with
  | .ok (.ok ()) => pure ()
  | .ok (.error error) => IO.eprintln error.report
  | .error message => IO.eprintln message
  pure ending.code
