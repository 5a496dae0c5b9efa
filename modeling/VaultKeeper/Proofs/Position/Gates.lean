import VaultKeeper.Position

/-! # The gates before an unwind

A decision goes through its gates in their order, and the first one that is closed gives the reason
for doing nothing; with all of them open the position is unwound. More time, more locked assets and
lower thresholds open gates and close none, so an unwind that is due stays due.
-/

namespace VaultKeeper

/-- A fuse of the position is on one of its limits. -/
def Position.Tripped (position : Position) : Prop :=
  (position.fuseA = .onLowerLimit ∨ position.fuseA = .onUpperLimit) ∨
    position.fuseB = .onLowerLimit ∨ position.fuseB = .onUpperLimit

instance (position : Position) : Decidable position.Tripped :=
  inferInstanceAs (Decidable (_ ∨ _))

/-- A gate that a position has to pass before it is unwound. -/
inductive Gate where
  /-- There is something to unwind. -/
  | assets
  /-- No rebalance comes first. -/
  | settled
  /-- Behind a tripped fuse there is something left. -/
  | remainder
  /-- Without a tripped fuse, enough is locked. -/
  | burden
  /-- Without a tripped fuse, the delay is over or so much is locked that it does not count. -/
  | delay
deriving DecidableEq, Repr

namespace Gate

/-- The gates in the order in which they are tried. -/
def order : List Gate :=
  [assets, settled, remainder, burden, delay]

/-- The reason that a closed gate gives. -/
def reason : Gate → IdleReason
  | assets => .noAssets
  | settled => .rebalanceRequired
  | remainder => .fuseNothingToUnwind
  | burden => .underDelayedThreshold
  | delay => .cooldownNotElapsed

variable (position : Position) (thresholds : Thresholds) (now : UInt64)

/-- When a gate is closed. -/
def Closed : Gate → Prop
  | assets => position.totalAssets.toNat = 0
  | settled => position.needRebalance = true
  | remainder =>
    position.Tripped ∧ position.lockedPercent.toNat = 0 ∧ position.withdrawDone = true
  | burden =>
    ¬position.Tripped ∧ position.lockedPercent.toNat ≤ thresholds.delayedPercent.toNat
  | delay =>
    ¬position.Tripped ∧ position.lockedPercent.toNat < thresholds.forcedPercent.toNat ∧
      now.toNat - position.lastRebalance.toNat < thresholds.delay.toNat

instance : DecidablePred (Closed position thresholds now)
  | assets | settled | remainder | burden | delay => by unfold Closed; infer_instance

/-- The first gate that is closed. -/
def firstClosed? : Option Gate :=
  order.find? fun gate => decide (gate.Closed position thresholds now)

theorem mem_order (gate : Gate) : gate ∈ order := by
  cases gate <;> decide

end Gate

/-- What is done behind the gates. -/
def Position.unwinding (position : Position) : Decision :=
  if position.Tripped then .unwind .swapRepay true else .unwind .repaySwapRepay false

/-- At another time and under other thresholds a position calls for an unwind at least as much:
nothing but its share and its last rebalance is different, and none of the differences is against
it. -/
structure Presses (position : Position) (thresholds : Thresholds) (now : UInt64)
    (position' : Position) (thresholds' : Thresholds) (now' : UInt64) : Prop where
  alike : position' = { position with
    lockedPercent := position'.lockedPercent, lastRebalance := position'.lastRebalance }
  locked : position.lockedPercent ≤ position'.lockedPercent
  lastRebalance : position'.lastRebalance ≤ position.lastRebalance
  delayed : thresholds'.delayedPercent ≤ thresholds.delayedPercent
  forced : thresholds'.forcedPercent ≤ thresholds.forcedPercent
  delay : thresholds'.delay ≤ thresholds.delay
  now : now ≤ now'

section

variable {position position' : Position} {thresholds thresholds' : Thresholds} {now now' : UInt64}

theorem Position.fuseTriggered_iff : position.fuseTriggered = true ↔ position.Tripped := by
  have limit (fuse : Fuse) :
      fuse.isTriggered = true ↔ fuse = .onLowerLimit ∨ fuse = .onUpperLimit := by
    cases fuse <;> simp [Fuse.isTriggered]
  rw [Position.fuseTriggered, Bool.or_eq_true, limit, limit, Position.Tripped]

/-- The gates are tried one after the other. -/
theorem Position.decide_eq_ite :
    position.decide thresholds now =
      if Gate.assets.Closed position thresholds now then .idle .noAssets
      else if Gate.settled.Closed position thresholds now then .idle .rebalanceRequired
      else if Gate.remainder.Closed position thresholds now then .idle .fuseNothingToUnwind
      else if Gate.burden.Closed position thresholds now then .idle .underDelayedThreshold
      else if Gate.delay.Closed position thresholds now then .idle .cooldownNotElapsed
      else position.unwinding := by
  have total : position.totalAssets = 0#256 ↔ position.totalAssets.toNat = 0 := BitVec.toNat_eq
  have share : position.lockedPercent = 0 ↔ position.lockedPercent.toNat = 0 :=
    UInt8.toNat_inj.symm
  -- a tripped fuse leaves one gate to try, and without one there are two others
  by_cases tripped : position.Tripped
  · have fuse := Position.fuseTriggered_iff.mpr tripped
    simp [Position.decide, Gate.Closed, Position.unwinding, fuse, tripped, total, share]
  · have fuse : position.fuseTriggered = false := by
      simpa using mt Position.fuseTriggered_iff.mp tripped
    simp [Position.decide, Gate.Closed, Position.unwinding, fuse, tripped, total,
      UInt8.le_iff_toNat_le, UInt8.lt_iff_toNat_lt, UInt64.lt_iff_toNat_lt, toNat_secondsSince]

/-- A decision is what the first closed gate says. -/
theorem Position.decide_eq_firstClosed :
    position.decide thresholds now =
      match Gate.firstClosed? position thresholds now with
      | some gate => .idle gate.reason
      | none => position.unwinding := by
  rw [Position.decide_eq_ite]
  simp only [Gate.firstClosed?, Gate.order, List.find?_cons, List.find?_nil]
  by_cases assets : Gate.assets.Closed position thresholds now
  · simp [assets, Gate.reason]
  by_cases settled : Gate.settled.Closed position thresholds now
  · simp [assets, settled, Gate.reason]
  by_cases remainder : Gate.remainder.Closed position thresholds now
  · simp [assets, settled, remainder, Gate.reason]
  by_cases burden : Gate.burden.Closed position thresholds now
  · simp [assets, settled, remainder, burden, Gate.reason]
  by_cases delay : Gate.delay.Closed position thresholds now
  · simp [assets, settled, remainder, burden, delay, Gate.reason]
  · simp [assets, settled, remainder, burden, delay]

/-- Nothing is done for the reason of the first gate that is closed. -/
theorem Position.decide_eq_idle_iff {reason : IdleReason} :
    position.decide thresholds now = .idle reason ↔
      ∃ before gate after, Gate.order = before ++ gate :: after ∧ gate.reason = reason ∧
        gate.Closed position thresholds now ∧
        ∀ earlier ∈ before, ¬earlier.Closed position thresholds now := by
  rw [Position.decide_eq_firstClosed]
  constructor
  · intro idle
    cases found : Gate.firstClosed? position thresholds now with
    | none =>
      rw [found, Position.unwinding] at idle
      by_cases tripped : position.Tripped
      · cases (if_pos tripped).symm.trans idle
      · cases (if_neg tripped).symm.trans idle
    | some gate =>
      rw [found] at idle
      obtain ⟨closed, before, after, split, opened⟩ := List.find?_eq_some_iff_append.mp found
      refine ⟨before, gate, after, split, Decision.idle.inj idle, of_decide_eq_true closed, ?_⟩
      intro earlier member
      simpa using opened earlier member
  · rintro ⟨before, gate, after, split, rfl, closed, opened⟩
    have found : Gate.firstClosed? position thresholds now = some gate := by
      refine List.find?_eq_some_iff_append.mpr ⟨decide_eq_true closed, before, after, split, ?_⟩
      intro earlier member
      simpa using opened earlier member
    rw [found]

/-- A position is unwound if all gates are open. -/
theorem Position.decide_eq_unwind_iff {plan : Plan} {fuseTriggered : Bool} :
    position.decide thresholds now = .unwind plan fuseTriggered ↔
      (∀ gate : Gate, ¬gate.Closed position thresholds now) ∧
        position.unwinding = .unwind plan fuseTriggered := by
  rw [Position.decide_eq_firstClosed]
  cases found : Gate.firstClosed? position thresholds now with
  | none =>
    have opened (gate : Gate) : ¬gate.Closed position thresholds now := by
      simpa using List.find?_eq_none.mp found gate gate.mem_order
    exact (and_iff_right opened).symm
  | some gate =>
    have closed := of_decide_eq_true (List.find?_eq_some_iff_append.mp found).1
    constructor
    · nofun
    · rintro ⟨opened, -⟩
      exact absurd closed (opened gate)

theorem Position.unwinding_eq_iff {plan : Plan} {fuseTriggered : Bool} :
    position.unwinding = .unwind plan fuseTriggered ↔
      position.Tripped ∧ plan = .swapRepay ∧ fuseTriggered = true ∨
        ¬position.Tripped ∧ plan = .repaySwapRepay ∧ fuseTriggered = false := by
  unfold Position.unwinding
  by_cases tripped : position.Tripped
  · simp [tripped, eq_comm]
  · simp [tripped, eq_comm]

/-- All gates are open if there are assets, no rebalance comes first, and the fuse or else the share
and the time call for an unwind. -/
theorem Gate.all_open_iff :
    (∀ gate : Gate, ¬gate.Closed position thresholds now) ↔
      position.totalAssets.toNat ≠ 0 ∧ position.needRebalance = false ∧
        (position.Tripped ∧
            (0 < position.lockedPercent.toNat ∨ position.withdrawDone = false) ∨
          ¬position.Tripped ∧
            thresholds.delayedPercent.toNat < position.lockedPercent.toNat ∧
            (thresholds.forcedPercent.toNat ≤ position.lockedPercent.toNat ∨
              thresholds.delay.toNat ≤ now.toNat - position.lastRebalance.toNat)) := by
  constructor
  · intro opened
    have assets := opened .assets
    have settled := opened .settled
    have remainder := opened .remainder
    have burden := opened .burden
    have delay := opened .delay
    simp only [Gate.Closed] at assets settled remainder burden delay
    refine ⟨assets, by simpa using settled, ?_⟩
    by_cases tripped : position.Tripped
    · refine .inl ⟨tripped, ?_⟩
      cases withdrawn : position.withdrawDone with
      | false => exact .inr rfl
      | true => exact .inl (Nat.pos_of_ne_zero fun none => remainder ⟨tripped, none, withdrawn⟩)
    · refine .inr ⟨tripped, Nat.not_le.mp fun little => burden ⟨tripped, little⟩, ?_⟩
      by_cases little : position.lockedPercent.toNat < thresholds.forcedPercent.toNat
      · exact .inr (Nat.not_lt.mp fun soon => delay ⟨tripped, little, soon⟩)
      · exact .inl (Nat.not_lt.mp little)
  · rintro ⟨assets, settled, due⟩ gate closed
    cases gate with
    | assets => exact assets closed
    | settled => exact Bool.false_ne_true (settled.symm.trans closed)
    | remainder =>
      obtain ⟨tripped, none, withdrawn⟩ := closed
      obtain ⟨-, some | unfinished⟩ | ⟨calm, -⟩ := due
      · omega
      · exact Bool.false_ne_true (unfinished.symm.trans withdrawn)
      · exact calm tripped
    | burden =>
      obtain ⟨calm, little⟩ := closed
      obtain ⟨tripped, -⟩ | ⟨-, much, -⟩ := due
      · exact calm tripped
      · omega
    | delay =>
      obtain ⟨calm, little, soon⟩ := closed
      obtain ⟨tripped, -⟩ | ⟨-, -, late⟩ := due
      · exact calm tripped
      · omega

namespace Presses

theorem tripped_iff (presses : Presses position thresholds now position' thresholds' now') :
    position'.Tripped ↔ position.Tripped := by
  rw [presses.alike]
  rfl

/-- No gate closes under more pressure. -/
theorem closed (presses : Presses position thresholds now position' thresholds' now')
    {gate : Gate} (closed : gate.Closed position' thresholds' now') :
    gate.Closed position thresholds now := by
  have locked := UInt8.le_iff_toNat_le.mp presses.locked
  have tripped := presses.tripped_iff
  cases gate with
  | assets =>
    have same : position'.totalAssets = position.totalAssets := by rw [presses.alike]
    rwa [Gate.Closed, same] at closed
  | settled =>
    have same : position'.needRebalance = position.needRebalance := by rw [presses.alike]
    rwa [Gate.Closed, same] at closed
  | remainder =>
    obtain ⟨fuse, none, withdrawn⟩ := closed
    have same : position'.withdrawDone = position.withdrawDone := by rw [presses.alike]
    exact ⟨tripped.mp fuse, by omega, same ▸ withdrawn⟩
  | burden =>
    obtain ⟨calm, little⟩ := closed
    have delayed := UInt8.le_iff_toNat_le.mp presses.delayed
    exact ⟨mt tripped.mpr calm, by omega⟩
  | delay =>
    obtain ⟨calm, little, soon⟩ := closed
    have forced := UInt8.le_iff_toNat_le.mp presses.forced
    have earlier := UInt64.le_iff_toNat_le.mp presses.lastRebalance
    have shorter := UInt64.le_iff_toNat_le.mp presses.delay
    have later := UInt64.le_iff_toNat_le.mp presses.now
    exact ⟨mt tripped.mpr calm, by omega, by omega⟩

/-- A position that is unwound is unwound in the same way under more pressure. -/
theorem decide_eq (presses : Presses position thresholds now position' thresholds' now')
    {plan : Plan} {fuseTriggered : Bool}
    (due : position.decide thresholds now = .unwind plan fuseTriggered) :
    position'.decide thresholds' now' = .unwind plan fuseTriggered := by
  obtain ⟨opened, unwinds⟩ := Position.decide_eq_unwind_iff.mp due
  refine Position.decide_eq_unwind_iff.mpr ⟨fun gate closed => opened gate (presses.closed closed), ?_⟩
  rw [Position.unwinding_eq_iff] at unwinds ⊢
  rwa [presses.tripped_iff]

end Presses

end

/-- A decision follows the gates: it is idle for the reason of the first one that is closed, it is an
unwind exactly if the position calls for one, and it stays that unwind under more pressure. -/
theorem Position.decide_gated (position : Position) (thresholds : Thresholds) (now : UInt64) :
    (∀ reason, position.decide thresholds now = .idle reason ↔
      ∃ before gate after, Gate.order = before ++ gate :: after ∧ gate.reason = reason ∧
        gate.Closed position thresholds now ∧
        ∀ earlier ∈ before, ¬earlier.Closed position thresholds now) ∧
    ((∃ plan fuseTriggered, position.decide thresholds now = .unwind plan fuseTriggered) ↔
      position.totalAssets.toNat ≠ 0 ∧ position.needRebalance = false ∧
        (position.Tripped ∧
            (0 < position.lockedPercent.toNat ∨ position.withdrawDone = false) ∨
          ¬position.Tripped ∧
            thresholds.delayedPercent.toNat < position.lockedPercent.toNat ∧
            (thresholds.forcedPercent.toNat ≤ position.lockedPercent.toNat ∨
              thresholds.delay.toNat ≤ now.toNat - position.lastRebalance.toNat))) ∧
    ∀ plan fuseTriggered, position.decide thresholds now = .unwind plan fuseTriggered →
      (position.Tripped ∧ plan = .swapRepay ∧ fuseTriggered = true ∨
        ¬position.Tripped ∧ plan = .repaySwapRepay ∧ fuseTriggered = false) ∧
      ∀ position' thresholds' now',
        Presses position thresholds now position' thresholds' now' →
          position'.decide thresholds' now' = .unwind plan fuseTriggered := by
  refine ⟨fun _ => decide_eq_idle_iff, ?_, fun plan fuseTriggered due =>
    ⟨unwinding_eq_iff.mp (decide_eq_unwind_iff.mp due).2, fun _ _ _ presses =>
      presses.decide_eq due⟩⟩
  rw [← Gate.all_open_iff]
  constructor
  · rintro ⟨plan, fuseTriggered, due⟩
    exact (decide_eq_unwind_iff.mp due).1
  · intro opened
    by_cases tripped : position.Tripped
    · exact ⟨_, _, decide_eq_unwind_iff.mpr ⟨opened, if_pos tripped⟩⟩
    · exact ⟨_, _, decide_eq_unwind_iff.mpr ⟨opened, if_neg tripped⟩⟩

/-- A position with a tenth of its assets locked, rebalanced at second 1000. -/
def Position.burdened : Position where
  tokenA := 1
  tokenB := 2
  fuseA := .off
  fuseB := .disabled
  needRebalance := false
  lockedPercent := 10
  withdrawDone := false
  lastRebalance := 1000
  totalAssets := 5

/-- It has to wait until its delay is over to the second, and then is unwound, also with more locked
and less demanded. -/
theorem Position.decide_gated_burdened :
    burdened.decide ⟨3, 50, 600⟩ 1599 = .idle .cooldownNotElapsed ∧
      burdened.decide ⟨3, 50, 600⟩ 1600 = .unwind .repaySwapRepay false ∧
      { burdened with lockedPercent := 60, lastRebalance := 900 }.decide ⟨3, 40, 500⟩ 1700 =
        .unwind .repaySwapRepay false := by
  have closed : Gate.delay.Closed burdened ⟨3, 50, 600⟩ 1599 := by decide
  have due : burdened.decide ⟨3, 50, 600⟩ 1600 = .unwind .repaySwapRepay false := by decide
  have presses : Presses burdened ⟨3, 50, 600⟩ 1600
      { burdened with lockedPercent := 60, lastRebalance := 900 } ⟨3, 40, 500⟩ 1700 :=
    ⟨rfl, by decide, by decide, by decide, by decide, by decide, by decide⟩
  refine ⟨?_, due, ?_⟩
  · rw [(decide_gated burdened ⟨3, 50, 600⟩ 1599).1]
    exact ⟨[.assets, .settled, .remainder, .burden], .delay, [], rfl, rfl, closed, by decide⟩
  · exact ((decide_gated burdened ⟨3, 50, 600⟩ 1600).2.2 _ _ due).2 _ _ _ presses

end VaultKeeper
