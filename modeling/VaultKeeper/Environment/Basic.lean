import VaultKeeper.Text.Basic

/-! # The environment

Variables by name. A variable that is set to blanks counts as one that is not set where a value is
needed for a connection.
-/

namespace VaultKeeper

/-- Variables with their values; the first one of a name counts. -/
abbrev Environment := List (String × String)

namespace Environment

/-- The value of a variable. -/
def get? (environment : Environment) (name : String) : Option String :=
  environment.lookup name

/-- The value of a variable, unless it is blank. -/
def filled? (environment : Environment) (name : String) : Option String :=
  (environment.get? name).filter fun value => !Text.isAllBlank value.toList

/-- Set a variable that is not set. -/
def supply (environment : Environment) (name value : String) : Environment :=
  if (environment.get? name).isNone then environment ++ [(name, value)] else environment

end Environment

/-- Where to connect and with which secrets. -/
structure Credentials where
  url : String
  key : String
  chainId : UInt64
  oneInchKey : Option String
  zeroExKey : Option String
  openOceanKey : Option String
  botToken : Option String
  chat : Option String
deriving DecidableEq, Repr

/-- Why the credentials are incomplete. -/
inductive CredentialError where
  | missing (name : String)
  | chainId (error : Text.IntegerError)
deriving DecidableEq, Repr

namespace CredentialError

/-- The wording of the error. -/
def message : CredentialError → String
  | missing name => name ++ " not set"
  | chainId _ => "CHAIN_ID must be an integer"

/-- What is behind the error. -/
def cause : CredentialError → String
  | chainId error => error.message
  | error => error.message

end CredentialError

namespace Credentials

/-- A variable that has to be filled. -/
def require (environment : Environment) (name : String) : Except CredentialError String :=
  match environment.filled? name with
  | some value => .ok value
  | none => .error (.missing name)

/-- The credentials in an environment. -/
def ofEnvironment (environment : Environment) : Except CredentialError Credentials := do
  let url ← require environment "RPC_URL"
  let key ← require environment "PRIVATE_KEY"
  let chainId ← require environment "CHAIN_ID"
  let chainId ← (Text.readUnsigned UInt64.size (Text.trimBlank chainId.toList)).mapError .chainId
  pure {
    url
    key
    chainId := UInt64.ofNat chainId
    oneInchKey := environment.filled? "ONEINCH_API_KEY"
    zeroExKey := environment.filled? "ZEROEX_API_KEY"
    openOceanKey := environment.filled? "OPENOCEAN_API_KEY"
    botToken := environment.filled? "TELEGRAM_BOT_TOKEN"
    chat := environment.filled? "TELEGRAM_CHAT_ID" }

/-- The token of a bot and the chat that it writes to; one of them is of no use alone. -/
def telegram (credentials : Credentials) : Option (String × String) :=
  match credentials.botToken, credentials.chat with
  | some token, some chat => some (token, chat)
  | _, _ => none

/-- How the credentials are shown: no secret is. -/
def describe (credentials : Credentials) : String :=
  "EnvConfig \x7b rpc_url: " ++ Text.quoted credentials.url
    ++ ", private_key: \"<redacted>\", chain_id: " ++ toString credentials.chainId
    ++ ", oneinch_api_key: " ++ toString credentials.oneInchKey.isSome
    ++ ", zeroex_api_key: " ++ toString credentials.zeroExKey.isSome
    ++ ", openocean_api_key: " ++ toString credentials.openOceanKey.isSome
    ++ ", telegram: " ++ toString credentials.telegram.isSome ++ " \x7d"

end Credentials

end VaultKeeper
