import VaultKeeper.Proofs.Delivery.Outcome
import VaultKeeper.Proofs.Keeper.Cooldown

/-! # What uses up the cooldown

A step that hands over a rebalance records the time after it. It does so as well when the delivery
got no fee or its first broadcast was refused, so that nothing of it ever reached the chain, and
then too the cooldown keeps every other rebalance back.
-/

namespace VaultKeeper

namespace Delivery

open Program

variable {courier : Courier} {payload : Payload} {trace : Trace} {result : Except Failure Receipt}

/-- A delivery gets nothing accepted if and only if its submission fails: for want of a fee, or
because the first broadcast is refused. -/
theorem acceptances_eq_nil_iff
    (run : Runs (courier.deliver payload.receiver payload.data) trace result) :
    acceptances payload trace = [] ↔
      ∃ failure, result = .error failure ∧ Submission payload none trace (.error failure) := by
  constructor
  · intro nothing
    rcases runs_deliver run with failed | ⟨fee, nonce, hash, time, rest, rfl, -⟩
    · exact failed
    · simp [acceptances, opening, accepted?, List.filterMap_cons] at nothing
  · rintro ⟨failure, -, failed⟩
    exact failed.acceptances

end Delivery

namespace Keeper

open Program VaultKeeper.Cycle VaultKeeper.Task

variable {keeper : Keeper} {journal after : Journal} {visit : Visit} {trace : Cycle.Trace}
  {steps : List (Exchange Step)}

/-- The rebalance of a strategy as a payload. -/
def rebalanceOf (strategy : Address) : Delivery.Payload :=
  ⟨strategy, Contract.rebalanceCalldata⟩

/-- What a step does to the record of the last rebalance. It keeps the record, or it has a rebalance
delivered and records the time that it reads afterwards; that nothing was accepted is no reason not
to. -/
inductive Consumption (keeper : Keeper) (visit : Visit) (steps : List (Exchange Step)) : Prop
  | kept (none : ∀ exchange ∈ visit.calls, ¬ exchange.call.Rebalances)
      (same : visit.after.lastRebalance = visit.before.lastRebalance)
  | recorded {early late : List (Exchange Step)} {delivery : Delivery.Trace}
      {outcome : Except Failure Receipt} (finished : UInt64)
      (split : steps = early ++ (delivery.map delivered ++ late))
      (ran : Runs (keeper.courier.deliver visit.target.strategy Contract.rebalanceCalldata)
        delivery outcome)
      (read : ⟨.delivery .now, finished⟩ ∈ late)
      (record : visit.after.lastRebalance = some finished)
      (unsubmitted : Delivery.acceptances (rebalanceOf visit.target.strategy) delivery = [] ↔
        ∃ failure, outcome = .error failure ∧
          Delivery.Submission (rebalanceOf visit.target.strategy) none delivery (.error failure))

theorem consumption_of_takes (taken : visit.Takes keeper steps) :
    Consumption keeper visit steps := by
  obtain ⟨planned, carried⟩ := taken
  have cooling := cooling_of_runs planned
  generalize calls : visit.calls = made at cooling carried
  generalize recorded : visit.after.lastRebalance = record at cooling
  cases cooling with
  | kept none => exact .kept (calls ▸ none) recorded
  | recorded started finished elapsed before outcome after =>
    rw [← List.cons_append] at carried
    obtain ⟨early, _, rfl, -, handed⟩ := expands_append_iff.mp carried
    obtain ⟨delivery, _, rfl, ran, resumed⟩ := expands_handing_iff.mp handed
    obtain ⟨reporting, _, rfl, -, closing⟩ := expands_append_iff.mp resumed
    obtain ⟨rest, rfl, -⟩ := expands_own_iff.mp closing
    have read : ⟨.delivery .now, finished⟩ ∈ reporting ++ ⟨.delivery .now, finished⟩ :: rest :=
      List.mem_append_right _ List.mem_cons_self
    exact .recorded finished rfl ran read recorded (Delivery.acceptances_eq_nil_iff ran)

/-- Along every run a step changes the record of the last rebalance only when it has a rebalance
delivered, and then always. -/
theorem cycles_consumption (cycles : Cycles keeper journal trace after) :
    (∃ visits, Journey keeper journal visits trace after) ∧
    ∀ visits, Journey keeper journal visits trace after →
      ∀ visit ∈ visits, ∀ steps, visit.Takes keeper steps → Consumption keeper visit steps :=
  ⟨cycles.journey, fun _ _ _ _ _ taken => consumption_of_takes taken⟩

/-- The first visit records its rebalance although it broadcast nothing at all. -/
theorem cycles_consumption_unpriced :
    Cycles lone Journal.empty unpricedTurns (loneJournal 2 1302) ∧
      let visit := unpricedVisit Journal.empty.beginCycle (loneJournal 1 1001) 1000 1001
      visit ∈ unpricedVisits ∧ visit.Takes lone (unpricedSteps 1000 1001) ∧
      Consumption lone visit (unpricedSteps 1000 1001) ∧
      visit.before.lastRebalance = none ∧ visit.after.lastRebalance = some 1001 ∧
      ∀ exchange ∈ unpricedSteps 1000 1001, ∀ transaction,
        exchange.call ≠ .delivery (.broadcast transaction) := by
  have consumption := (cycles_consumption cycles_unpricedTurns).2 unpricedVisits
    journey_unpricedVisits _ List.mem_cons_self _ takes_firstVisit
  refine ⟨cycles_unpricedTurns, List.mem_cons_self, takes_firstVisit, consumption, rfl, rfl, ?_⟩
  simp [unpricedSteps]

end Keeper

end VaultKeeper
