import VaultKeeper.Bytes

/-! # The next nonce of an account

Nonces are handed out locally and brought in line with the chain now and then: `sync` only moves
forward, `reset` takes over whatever the chain says.
-/

namespace VaultKeeper

/-- The next nonce to hand out, and the one last read from the chain. -/
structure NonceCounter where
  next : UInt64
  lastSynced : UInt64
deriving DecidableEq, Repr

namespace NonceCounter

/-- A counter that starts at a nonce from the chain. -/
def start (nonce : UInt64) : NonceCounter :=
  ⟨nonce, nonce⟩

/-- Hand out the next nonce; after the largest one comes zero. -/
def reserve (counter : NonceCounter) : UInt64 × NonceCounter :=
  (counter.next, { counter with next := counter.next + 1 })

/-- Move forward to the chain's nonce if the chain is ahead. -/
def sync (counter : NonceCounter) (nonce : UInt64) : NonceCounter :=
  ⟨if counter.next < nonce then nonce else counter.next, nonce⟩

/-- Take over the chain's nonce. -/
def reset (_ : NonceCounter) (nonce : UInt64) : NonceCounter :=
  start nonce

end NonceCounter

end VaultKeeper
