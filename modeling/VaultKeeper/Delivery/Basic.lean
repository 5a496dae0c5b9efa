import VaultKeeper.Event
import VaultKeeper.Failure
import VaultKeeper.Fee
import VaultKeeper.Poll

/-! # Transactions and the account that sends them

What a transaction, its receipt and a transaction still waiting for one consist of, and the calls
that delivering a transaction makes: on the signing account, on the node behind it, and on the
clock.
-/

namespace VaultKeeper

/-- A transaction ready to be signed and broadcast. -/
structure Transaction where
  receiver : Address
  data : Bytes
  value : Word
  nonce : UInt64
  fee : Fee
  /-- Without a limit of its own a transaction gets the sender's. -/
  gasLimit : Option UInt64
deriving DecidableEq, Repr

/-- The outcome of a mined transaction. -/
structure Receipt where
  hash : Hash
  block : Option UInt64
  gasUsed : UInt64
  success : Bool
  logs : List Log
deriving DecidableEq, Repr

/-- How many transactions of an account are mined, and how many with those still waiting. -/
structure NonceCounts where
  confirmed : UInt64
  pending : UInt64
deriving DecidableEq, Repr

/-- A broadcast transaction without a receipt. -/
structure Pending where
  hash : Hash
  nonce : UInt64
  receiver : Address
  data : Bytes
  fee : Fee
  /-- When it was first broadcast, in unix seconds. -/
  submittedAt : UInt64
  /-- Checks without a receipt since the fee was last raised. -/
  cyclesWaited : UInt32
  /-- Hashes broadcast earlier for the same nonce, oldest first. -/
  superseded : List Hash
deriving DecidableEq, Repr

namespace Pending

/-- Every hash that may still be mined for the nonce, newest first. -/
def hashes (pending : Pending) : List Hash :=
  pending.hash :: pending.superseded.reverse

/-- The same payload at the same nonce with another fee. -/
def replacement (pending : Pending) (fee : Fee) : Transaction where
  receiver := pending.receiver
  data := pending.data
  value := 0
  nonce := pending.nonce
  fee := fee
  gasLimit := none

/-- The transaction after its replacement was broadcast. -/
def superseding (pending : Pending) (hash : Hash) (fee : Fee) : Pending :=
  { pending with
    superseded := pending.superseded ++ [pending.hash], hash, fee, cyclesWaited := 0 }

end Pending

namespace Delivery

/-- The calls that a delivery makes. -/
inductive Call where
  /-- Take the next nonce of the account. -/
  | reserveNonce
  /-- The fee for a first broadcast. -/
  | offeredFee
  /-- The price that the network asks for at the moment. -/
  | networkPrice
  /-- Sign and broadcast. -/
  | broadcast (transaction : Transaction)
  | receipt (hash : Hash)
  | nonceCounts
  /-- Set the next nonce of the account from the chain. -/
  | syncNonce
  /-- The time in unix seconds. -/
  | now
  | sleep (milliseconds : Nat)
deriving DecidableEq, Repr

end Delivery

/-- The surroundings of a delivery. -/
abbrev Delivery : Interface where
  Call := Delivery.Call
  Answer
    | .reserveNonce => UInt64
    | .offeredFee => Except Failure Fee
    | .networkPrice => Except Failure Wei
    | .broadcast _ => Except Failure Hash
    | .receipt _ => Except Failure (Option Receipt)
    | .nonceCounts => Except Failure NonceCounts
    | .syncNonce => Except Failure UInt64
    | .now => UInt64
    | .sleep _ => Unit

namespace Delivery

def reserveNonce : Program Delivery UInt64 := Program.ask (I := Delivery) .reserveNonce

def offeredFee : Program Delivery (Except Failure Fee) := Program.ask (I := Delivery) .offeredFee

def networkPrice : Program Delivery (Except Failure Wei) :=
  Program.ask (I := Delivery) .networkPrice

def broadcast (transaction : Transaction) : Program Delivery (Except Failure Hash) :=
  Program.ask (I := Delivery) (.broadcast transaction)

def receipt (hash : Hash) : Program Delivery (Except Failure (Option Receipt)) :=
  Program.ask (I := Delivery) (.receipt hash)

def nonceCounts : Program Delivery (Except Failure NonceCounts) :=
  Program.ask (I := Delivery) .nonceCounts

def syncNonce : Program Delivery (Except Failure UInt64) := Program.ask (I := Delivery) .syncNonce

def now : Program Delivery UInt64 := Program.ask (I := Delivery) .now

def sleep (milliseconds : Nat) : Program Delivery Unit :=
  Program.ask (I := Delivery) (.sleep milliseconds)

end Delivery

end VaultKeeper
