import VaultKeeper.Http.Basic
import VaultKeeper.Json.Writer
import VaultKeeper.Text.Basic

/-! # Alerts to the operator

Alerts go to the log and, where a bot is set up, to a chat. The chat remembers what it sent: the
same message is not sent again within a window of time. What was suppressed does not extend the
window.
-/

namespace VaultKeeper

/-- A message and when it was sent, in milliseconds. -/
structure Sent where
  message : String
  time : Nat
deriving DecidableEq, Repr

namespace Sent

/-- Does the entry still lie within the window? -/
def isRecent (window now : Nat) (entry : Sent) : Bool :=
  decide (now - entry.time < window)

/-- Decide on a message at a time: forget what lies outside the window, then send it unless it is
still remembered. Answers whether it is sent, and what is remembered from now on. -/
def accept (window : Nat) (recent : List Sent) (message : String) (now : Nat) : Bool × List Sent :=
  let kept := recent.filter (isRecent window now)
  if kept.any fun entry => entry.message == message then (false, kept)
  else (true, kept ++ [⟨message, now⟩])

end Sent

/-- A chat that alerts are sent to. -/
structure Chat where
  base : String
  token : String
  id : String
  /-- Milliseconds that a request may take. -/
  timeout : Nat
  /-- Milliseconds during which the same message is not sent again. -/
  window : Nat
  recent : List Sent
deriving DecidableEq, Repr

namespace Chat

/-- A chat that nothing was sent to yet. -/
def ofBot (token id : String) : Chat where
  base := "https://api.telegram.org"
  token := token
  id := id
  timeout := 10000
  window := 300000
  recent := []

/-- The request that sends a message. -/
def request (chat : Chat) (message : String) : Http.Request where
  method := .post
  base := chat.base
  path := "/bot" ++ chat.token ++ "/sendMessage"
  headers := []
  query := []
  body := Json.write (.object [(some "chat_id", .string (some chat.id)),
    (some "text", .string (some message))])

/-- Send a message unless it was sent a short while ago; the outcome of the request has no
influence. -/
def notify (chat : Chat) (message : String) (now : Nat) : Option Http.Request × Chat :=
  let (sent, recent) := Sent.accept chat.window chat.recent message now
  (if sent then some (chat.request message) else none, { chat with recent })

/-- How the chat is shown in the log: without the token. -/
def describe (chat : Chat) : String :=
  "TelegramAlertSink \x7b base_url: " ++ Text.quoted chat.base
    ++ ", chat_id: " ++ Text.quoted chat.id
    ++ ", timeout: " ++ Text.span chat.timeout ++ ", dedup_window: " ++ Text.span chat.window
    ++ ", recent: " ++ toString chat.recent.length ++ " \x7d"

end Chat

/-- Fan a message out to several sinks, each of which may be another one afterwards. -/
def fanOut {m : Type → Type} [Monad m] {σ : Type} (send : String → σ → m σ) (message : String)
    (sinks : List σ) : m (List σ) :=
  sinks.mapM (send message)

/-- The channels that an alert goes to. -/
inductive AlertChannel where
  | log
  | chat (bot : Chat)
deriving DecidableEq, Repr

namespace AlertChannel

/-- The log, and the chat if a bot and a chat are known. -/
def operator (telegram : Option (String × String)) : List AlertChannel :=
  match telegram with
  | none => [.log]
  | some (token, id) => [.log, .chat (Chat.ofBot token id)]

/-- How a channel is shown in the log. -/
def describe : AlertChannel → String
  | .log => "LogAlertSink"
  | .chat bot => bot.describe

/-- How a list of channels is shown in the log. -/
def describeAll (channels : List AlertChannel) : String :=
  "MultiAlertSink \x7b sinks: " ++ Text.bracketed (channels.map describe) ++ " \x7d"

end AlertChannel

end VaultKeeper
