import VaultKeeper.Proofs.Keeper.Journey
import VaultKeeper.Proofs.Service.Nonce

/-! # Who touches the sending account

Of all that a keeper asks of its service only deliveries concern the sending account. So its count
of nonces moves as the exchanges of the deliveries say, whatever else happens between them.
-/

namespace VaultKeeper

namespace Cycle

/-- The exchange of a delivery, if it is one. -/
def dealing? : Exchange Cycle → Option (Exchange Delivery)
  | ⟨.step (.delivery call), answer⟩ => some ⟨call, answer⟩
  | _ => none

/-- The exchanges of all deliveries, and what else a step asks of their surroundings. -/
def dealings (trace : Trace) : Delivery.Trace :=
  trace.filterMap dealing?

@[simp] theorem dealings_append (first second : Trace) :
    dealings (first ++ second) = dealings first ++ dealings second :=
  List.filterMap_append

end Cycle

namespace Service

open Program

/-- Whatever comes of it, the sending account is the same afterwards. -/
def KeepsSender {α : Type} (serve : Serve α) : Prop :=
  ∀ ⦃before : ServiceState⦄ ⦃trace : List (Exchange Host)⦄ ⦃a : α⦄ ⦃after : ServiceState⦄,
    Runs (serve.run before) trace (a, after) → after.sender = before.sender

namespace KeepsSender

variable {α β : Type}

theorem done (a : α) : KeepsSender (pure a : Serve α) := by
  intro before trace _ after run
  cases (runs_done_iff.mp run).2
  rfl

theorem read : KeepsSender (get : Serve ServiceState) := by
  intro before trace _ after run
  cases (runs_done_iff.mp run).2
  rfl

theorem update {change : ServiceState → ServiceState}
    (same : ∀ state, (change state).sender = state.sender) :
    KeepsSender (modify change : Serve Unit) := by
  intro before trace _ after run
  cases (runs_done_iff.mp run).2
  exact same before

theorem lift (program : Program Host α) : KeepsSender (monadLift program : Serve α) := by
  intro before trace a after run
  obtain ⟨_, rfl⟩ := runs_lift_iff.mp run
  rfl

theorem bind {first : Serve α} {next : α → Serve β} (early : KeepsSender first)
    (late : ∀ a, KeepsSender (next a)) : KeepsSender (first >>= next) := by
  intro before trace b after run
  obtain ⟨_, ⟨a, middle⟩, _, rfl, ran, continued⟩ := runs_bind_iff.mp run
  exact (late a continued).trans (early ran)

end KeepsSender

variable {service : Service}

/-- What a step asks for apart from its deliveries leaves the sending account as it is. -/
theorem keepsSender_onStep {call : Step.Call} (plans : Task.Call.Plans (.step call)) :
    KeepsSender (service.onStep call) := by
  cases call with
  | delivery request =>
    obtain rfl : request = .now := plans
    exact .bind (.lift _) fun _ => .done _
  | position | thresholds | quoteWithdraw | isPaused => exact .lift _
  | bestQuote => exact .lift _
  | notify message =>
    exact .bind .read fun _ => .bind (.lift _) fun _ => .update fun _ => rfl

theorem keepsSender_onRegistry (call : Registry.Call) : KeepsSender (service.onRegistry call) := by
  cases call <;> exact .lift _

theorem keepsSender_announce : KeepsSender service.announce := by
  refine .bind .read fun state => ?_
  split
  · exact .done _
  · exact .bind (.lift _) fun _ => .update fun _ => rfl

theorem keepsSender_onTimer (call : Timer.Call) : KeepsSender (service.onTimer call) := by
  cases call with
  | stopRequested =>
    refine .bind (.lift _) fun stops => ?_
    cases stops with
    | false => exact .done _
    | true => exact .bind keepsSender_announce fun _ => .done _
  | sleep milliseconds =>
    refine .bind (.lift _) fun finished => ?_
    cases finished with
    | false => exact .bind keepsSender_announce fun _ => .done _
    | true => exact .done _

theorem keepsSender_report (tally : Tally) : KeepsSender (service.report tally) := by
  unfold report
  dsimp only
  split
  · exact .lift _
  · exact .bind (.lift _) fun _ => .lift _

variable {before after : ServiceState} {trace : List (Exchange Host)}

theorem sender_of_threads {steps : List (Exchange Step)}
    (plans : ∀ step ∈ steps, Task.Call.Plans (.step step.call))
    (threads : Threads service.onCycle before (steps.map Cycle.lift) trace after) :
    after.sender = before.sender := by
  induction steps generalizing before trace with
  | nil =>
    cases threads
    rfl
  | cons step steps ih =>
    obtain ⟨first, others⟩ := List.forall_mem_cons.mp plans
    cases threads with
    | cons handled rest =>
      have kept := keepsSender_onStep first handled
      exact (ih others rest).trans kept

/-- Every answer to a keeper moves the count of its account as its dealings say. -/
theorem path_onCycle {call : Cycle.Call} {answer : Interface.Answer Cycle call}
    (run : Runs ((service.onCycle call).run before) trace (answer, after)) :
    NonceCounter.Path before.sender.nonces (Cycle.dealings [⟨call, answer⟩])
      after.sender.nonces := by
  have kept (same : after.sender = before.sender) :
      NonceCounter.Path before.sender.nonces [] after.sender.nonces := same ▸ .nil _
  cases call with
  | step call =>
    change Runs ((service.onStep call).run before) trace (answer, after) at run
    cases call with
    | delivery request => exact .cons (step_onDelivery run) (.nil _)
    | position | thresholds | quoteWithdraw | isPaused | bestQuote | notify =>
      exact kept (keepsSender_onStep (by exact trivial) run)
  | registry call => exact kept (keepsSender_onRegistry call run)
  | timer call => exact kept (keepsSender_onTimer call run)
  | report tally => exact kept (keepsSender_report tally run)

/-- The count of the account moves through all dealings of a keeper. -/
theorem path_of_onCycle {calls : Cycle.Trace}
    (threads : Threads service.onCycle before calls trace after) :
    NonceCounter.Path before.sender.nonces (Cycle.dealings calls) after.sender.nonces := by
  induction threads with
  | nil => exact .nil _
  | cons handled _ ih =>
    rw [← List.singleton_append, Cycle.dealings_append]
    exact NonceCounter.path_append_iff.mpr ⟨_, path_onCycle handled, ih⟩

end Service

end VaultKeeper
