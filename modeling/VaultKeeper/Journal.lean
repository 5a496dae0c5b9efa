import VaultKeeper.Position

/-! # What the keeper remembers between steps

The number of the cycle, when a range was last rebalanced for any strategy, and since when each
strategy has been needing it. The last two belong to an episode: it starts when a strategy is first
seen to need a rebalance, ends when it is seen not to, and raises at most one alarm in between.
-/

namespace VaultKeeper

/-- A strategy that needs a rebalance. -/
structure Episode where
  /-- When the need was first seen, in unix seconds. -/
  since : UInt64
  /-- The alarm was raised. -/
  alerted : Bool
deriving DecidableEq, Repr

/-- What the keeper remembers. -/
structure Journal where
  cycle : UInt64
  lastRebalance : Option UInt64
  episodes : List (Address × Episode)
deriving DecidableEq, Repr

namespace Journal

/-- Nothing has happened yet. -/
def empty : Journal :=
  ⟨0, none, []⟩

/-- Start the next cycle. -/
def beginCycle (journal : Journal) : Journal :=
  { journal with cycle := journal.cycle + 1 }

/-- A rebalance was sent for some strategy. -/
def recordRebalance (journal : Journal) (now : UInt64) : Journal :=
  { journal with lastRebalance := some now }

/-- Enough time has gone by since the last rebalance. -/
def cooldownElapsed (journal : Journal) (now cooldown : UInt64) : Bool :=
  match journal.lastRebalance with
  | none => true
  | some last => cooldown ≤ secondsSince now last

/-- The current episode of a strategy. -/
def episode? (journal : Journal) (strategy : Address) : Option Episode :=
  journal.episodes.lookup strategy

/-- The episodes of the other strategies. -/
def others (journal : Journal) (strategy : Address) : List (Address × Episode) :=
  journal.episodes.filter fun entry => entry.1 != strategy

/-- Note whether a strategy needs a rebalance. Answers its age the first time that it reaches
`alertAfter`. -/
def observe (journal : Journal) (strategy : Address) (needed : Bool) (now alertAfter : UInt64) :
    Option UInt64 × Journal :=
  if needed then
    let episode := (journal.episode? strategy).getD ⟨now, false⟩
    let age := secondsSince now episode.since
    let alarm := decide (alertAfter ≤ age) && !episode.alerted
    let episodes := (strategy, { episode with alerted := episode.alerted || alarm })
      :: journal.others strategy
    (if alarm then some age else none, { journal with episodes })
  else (none, { journal with episodes := journal.others strategy })

end Journal

end VaultKeeper
