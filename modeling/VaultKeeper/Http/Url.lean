import VaultKeeper.Hex

/-! # Addresses of services

An absolute URL in parts: scheme, host and path. Of a scheme that is served over a network the host
must be there and be well formed; nothing is asked of any other scheme. Domain names above ASCII are
taken as they are.
-/

namespace VaultKeeper.Http

/-- The parts of an absolute URL that are needed to reach it. -/
structure Url where
  scheme : String
  host : String
  path : String
deriving DecidableEq, Repr

namespace Url

/-- The scheme at the start of a text, in lower case, and what follows its colon. -/
def splitScheme (text : List Char) : Option (String × List Char) :=
  let scheme := text.takeWhile fun c => c.isAlphanum || c = '+' || c = '-' || c = '.'
  match scheme, text.drop scheme.length with
  | first :: _, ':' :: rest =>
    if first.isAlpha then some (String.ofList (scheme.map Char.toLower), rest) else none
  | _, _ => none

/-- Schemes that name a host on a network. -/
def isNetworkScheme (scheme : String) : Bool :=
  ["http", "https", "ws", "wss", "ftp"].contains scheme

/-- Split at every occurrence of a separator. -/
def splitAt (separator : Char) : List Char → List (List Char)
  | [] => [[]]
  | c :: rest =>
    if c = separator then [] :: splitAt separator rest
    else match splitAt separator rest with
      | [] => [[c]]
      | first :: others => (c :: first) :: others

/-- Replace `%` and two digits by the character with that number. -/
def percentDecode : List Char → List Char
  | '%' :: high :: low :: rest =>
    match Hex.digitValue? (UInt8.ofNat high.toNat), Hex.digitValue? (UInt8.ofNat low.toNat) with
    | some h, some l =>
      if high.toNat < 128 ∧ low.toNat < 128 then Char.ofNat (16 * h + l) :: percentDecode rest
      else '%' :: percentDecode (high :: low :: rest)
    | _, _ => '%' :: percentDecode (high :: low :: rest)
  | c :: rest => c :: percentDecode rest
  | [] => []

/-- A character that no domain name holds. -/
def isForbiddenInHost (c : Char) : Bool :=
  decide (c.toNat ≤ 0x20) || c == '\x7f' || "#/:<>?@[\\]^|%".toList.contains c

/-- The value of digits in a base. -/
def numberIn (base : Nat) (digits : List Char) : Option Nat :=
  digits.foldlM (fun value c => do
    let digit ← if c.toNat < 128 then Hex.digitValue? (UInt8.ofNat c.toNat) else none
    if digit < base then some (value * base + digit) else none) 0

/-- A part of a numeric address: decimal, octal after `0`, hexadecimal after `0x`. -/
def addressPart : List Char → Option Nat
  | [] => none
  | '0' :: 'x' :: digits | '0' :: 'X' :: digits => numberIn 16 digits
  | '0' :: digits => numberIn 8 digits
  | digits => numberIn 10 digits

/-- The labels of a host; one empty label at the end does not count. -/
def labels (host : List Char) : List (List Char) :=
  let labels := splitAt '.' host
  if labels.length > 1 ∧ labels.getLast? = some [] then labels.dropLast else labels

/-- Does the host end in a number, so that it has to be a numeric address? -/
def endsInNumber (host : List Char) : Bool :=
  match (labels host).getLast? with
  | some last => (!last.isEmpty && last.all Char.isDigit)
      || (addressPart last).isSome && (last.take 2 == ['0', 'x'] || last.take 2 == ['0', 'X'])
  | none => false

/-- A numeric address: up to four parts, of which the last fills up what remains of 32 bits. -/
def isAddress (host : List Char) : Bool :=
  let parts := (labels host).map addressPart
  decide (parts.length ≤ 4) && parts.all Option.isSome
    && (parts.dropLast.all fun part => decide (part.getD 0 < 256))
    && decide (((parts.getLast?.bind id).getD 0) < 1 <<< (8 * (5 - parts.length)))

/-- One group of an address in brackets. -/
def isGroup (group : List Char) : Bool :=
  decide (1 ≤ group.length) && decide (group.length ≤ 4)
    && group.all fun c => decide (c.toNat < 128) && (Hex.digitValue? (UInt8.ofNat c.toNat)).isSome

/-- How many groups of 16 bits the parts of an address stand for; a numeric address at the end
stands for two. -/
def countGroups (parts : List (List Char)) : Option Nat :=
  match parts.reverse with
  | [] => some 0
  | last :: front =>
    if !front.all isGroup then none
    else if isGroup last then some parts.length
    else if (splitAt '.' last).length = 4 ∧ (splitAt '.' last).all (fun part =>
        part.all Char.isDigit && (part.length ≤ 1 || part.head? != some '0')) ∧ isAddress last then
      some (parts.length + 1)
    else none

/-- Split at the first double colon. -/
def splitGap : List Char → Option (List Char × List Char)
  | ':' :: ':' :: rest => some ([], rest)
  | c :: rest => (splitGap rest).map fun (before, after) => (c :: before, after)
  | [] => none

/-- The groups of a list that may be empty. -/
def groups (text : List Char) : List (List Char) :=
  if text.isEmpty then [] else splitAt ':' text

/-- An address in brackets: eight groups, or fewer with one gap. -/
def isBracketed (text : List Char) : Bool :=
  match splitGap text with
  | none => countGroups (groups text) == some 8
  | some (before, after) =>
    match (if (groups before).all isGroup then some (groups before).length else none),
        countGroups (groups after) with
    | some front, some back => decide (front + back ≤ 7)
    | _, _ => false

/-- A well-formed host. -/
def isHost (host : List Char) : Bool :=
  match host with
  | '[' :: rest => rest.getLast? == some ']' && isBracketed rest.dropLast
  | _ =>
    let decoded := percentDecode host
    !decoded.isEmpty && !decoded.any isForbiddenInHost
      && (!endsInNumber decoded || isAddress decoded)

/-- Host and port of an authority. -/
def splitPort : List Char → List Char × List Char
  | '[' :: rest =>
    let inside := rest.takeWhile (· ≠ ']')
    ('[' :: inside ++ (rest.drop inside.length).take 1, rest.drop (inside.length + 1))
  | text => (text.takeWhile (· ≠ ':'), text.dropWhile (· ≠ ':'))

/-- A port with its colon, or nothing. -/
def isPort : List Char → Bool
  | [] => true
  | ':' :: digits => digits.all Char.isDigit && decide ((numberIn 10 digits).getD 0 < 65536)
  | _ => false

/-- What follows the last `@`. -/
def dropCredentials (authority : List Char) : List Char :=
  (authority.reverse.takeWhile (· ≠ '@')).reverse

/-- Where an authority ends. -/
def endsAuthority (c : Char) : Bool :=
  c = '/' || c = '\\' || c = '?' || c = '#'

/-- A URL of a scheme on a network, after its colon. -/
def parseNetwork (scheme : String) (text : List Char) : Option Url :=
  let text := text.dropWhile fun c => c = '/' || c = '\\'
  let authority := text.takeWhile fun c => !endsAuthority c
  let (host, port) := splitPort (dropCredentials authority)
  let path := ((text.drop authority.length).takeWhile fun c => c ≠ '?' && c ≠ '#').map fun c =>
    if c = '\\' then '/' else c
  if isHost host && isPort port then
    some ⟨scheme, String.ofList (host.map Char.toLower),
      if path.isEmpty then "/" else String.ofList path⟩
  else none

/-- Read an absolute URL. White space and controls around it and line breaks in it are ignored. -/
def parse (text : String) : Option Url := do
  let outer (c : Char) : Bool := c.toNat ≤ 0x20
  let trimmed := ((text.toList.dropWhile outer).reverse.dropWhile outer).reverse
  let (scheme, rest) ← splitScheme (trimmed.filter fun c => c ≠ '\t' && c ≠ '\n' && c ≠ '\r')
  if isNetworkScheme scheme then parseNetwork scheme rest
  else some ⟨scheme, "", String.ofList (rest.takeWhile fun c => c ≠ '?' && c ≠ '#')⟩

end Url

end VaultKeeper.Http
