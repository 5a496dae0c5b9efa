import VaultKeeper.Keeper.Action
import VaultKeeper.Proofs.Position.Gates
import VaultKeeper.Proofs.Program.Expansion

/-! # How a decision becomes an action

A decision to unwind asks the strategy for the size of its next step, and the quote service for a
route if that step swaps anything. `Resolution` lists the ways in which this can go; what holds of
every step of debt reduction, and of every failure, is read off it.
-/

namespace VaultKeeper

/-- A decision to unwind is made for a position that needs no rebalance. Its plan says whether a
fuse has tripped. -/
theorem Position.unwind_cases {position : Position} {thresholds : Thresholds} {now : UInt64}
    {plan : Plan} {fuseTriggered : Bool}
    (decided : position.decide thresholds now = .unwind plan fuseTriggered) :
    position.needRebalance = false ∧ position.fuseTriggered = fuseTriggered ∧
      plan = if fuseTriggered then .swapRepay else .repaySwapRepay := by
  obtain ⟨opened, unwinds⟩ := Position.decide_eq_unwind_iff.mp decided
  have unneeded : position.needRebalance = false := Bool.eq_false_iff.mpr (opened .settled)
  obtain ⟨tripped, rfl, rfl⟩ | ⟨calm, rfl, rfl⟩ := Position.unwinding_eq_iff.mp unwinds
  · exact ⟨unneeded, Position.fuseTriggered_iff.mpr tripped, rfl⟩
  · have fuse : position.fuseTriggered = false :=
      Bool.eq_false_iff.mpr (mt Position.fuseTriggered_iff.mp calm)
    exact ⟨unneeded, fuse, rfl⟩

/-- What a step of debt reduction is for its position. -/
structure DebtReduction.Suits (reduction : DebtReduction) (position : Position) : Prop where
  poolEntry : reduction.step.allowPoolEntry = true →
    reduction.step.plan = .repaySwapRepay ∧ position.fuseTriggered = false ∧
      reduction.step.amount ≠ 0
  fuse : position.fuseTriggered = true ↔ reduction.step.plan = .swapRepay
  repays : reduction.step.plan ≠ .swapOnly

namespace Action

open Program

/-- The ways in which a decision can go: the calls that it makes, and the action or failure that it
ends with. -/
inductive Resolution (strategy : Address) (position : Position) :
    Decision → List (Exchange Step) → Except StepFailure Action → Prop
  | idle (reason : IdleReason) :
      Resolution strategy position (.idle reason) [] (.ok (.idle reason))
  | unread (plan : Plan) (fuse : Bool) (failure : Failure) :
      Resolution strategy position (.unwind plan fuse)
        [⟨.quoteWithdraw strategy plan.encode, .error failure⟩] (.error (.chain failure))
  | nothing (plan : Plan) (fuse : Bool) (token : Address)
      (calm : position.fuseTriggered = false) :
      Resolution strategy position (.unwind plan fuse)
        [⟨.quoteWithdraw strategy plan.encode, .ok (token, 0)⟩] (.ok (.idle .zeroSwapAmount))
  | swapless (plan : Plan) (fuse : Bool) (token : Address)
      (tripped : position.fuseTriggered = true) :
      Resolution strategy position (.unwind plan fuse)
        [⟨.quoteWithdraw strategy plan.encode, .ok (token, 0)⟩]
        (.ok (.reduceDebt ⟨⟨token, 0, 0, [], plan, false⟩, none⟩))
  | unquoted (plan : Plan) (fuse : Bool) (token : Address) {amount : Word} (swaps : amount ≠ 0)
      (failure : QuoteFailure) :
      Resolution strategy position (.unwind plan fuse)
        [⟨.quoteWithdraw strategy plan.encode, .ok (token, amount)⟩,
          ⟨.bestQuote token (position.counterpart token) amount strategy, .error failure⟩]
        (.error (.quote failure))
  | quoted (plan : Plan) (fuse : Bool) (token : Address) {amount : Word} (swaps : amount ≠ 0)
      (quote : Quote) :
      Resolution strategy position (.unwind plan fuse)
        [⟨.quoteWithdraw strategy plan.encode, .ok (token, amount)⟩,
          ⟨.bestQuote token (position.counterpart token) amount strategy, .ok quote⟩]
        (.ok (.reduceDebt ⟨⟨token, quote.target, amount, quote.callData, plan,
          !position.fuseTriggered⟩, some quote.provider⟩))

variable {strategy : Address} {position : Position} {thresholds : Thresholds} {now : UInt64}
  {steps : List (Exchange Step)} {result : Except StepFailure Action}

theorem resolution_of_runs (run : Runs (resolve strategy position thresholds now) steps result) :
    Resolution strategy position (position.decide thresholds now) steps result := by
  unfold resolve at run
  generalize decided : position.decide thresholds now = decision at run ⊢
  cases decision with
  | idle reason =>
    obtain ⟨rfl, rfl⟩ := runs_done_iff.mp run
    exact .idle reason
  | unwind plan fuse =>
    obtain ⟨-, rfl, -⟩ := Position.unwind_cases decided
    obtain ⟨wanted, rest, rfl, continued⟩ := runs_ask_bind_iff.mp run
    match wanted, continued with
    | .error failure, continued =>
      obtain ⟨rfl, rfl⟩ := runs_done_iff.mp continued
      exact .unread plan _ failure
    | .ok (token, amount), continued =>
      dsimp only at continued
      split at continued
      · next none =>
        obtain ⟨rfl, rfl⟩ := runs_done_iff.mp continued
        subst none
        unfold withoutSwap
        split
        · next tripped => exact .swapless plan _ token tripped
        · next calm => exact .nothing plan _ token (by simpa using calm)
      · next swaps =>
        obtain ⟨quoted, last, rfl, ended⟩ := runs_ask_bind_iff.mp continued
        cases quoted with
        | error failure =>
          obtain ⟨rfl, rfl⟩ := runs_done_iff.mp ended
          exact .unquoted plan _ token swaps failure
        | ok quote =>
          obtain ⟨rfl, rfl⟩ := runs_done_iff.mp ended
          exact .quoted plan _ token swaps quote

/-- A plan that was decided on suits a step that adds to the pool only when no fuse has tripped and
something is swapped. -/
theorem suits_of_unwind {step : Contract.WithdrawStep} {quotedBy : Option String} {fuse : Bool}
    (decided : position.decide thresholds now = .unwind step.plan fuse)
    (poolEntry : step.allowPoolEntry = true → position.fuseTriggered = false ∧ step.amount ≠ 0) :
    DebtReduction.Suits ⟨step, quotedBy⟩ position := by
  obtain ⟨-, rfl, plan⟩ := Position.unwind_cases decided
  constructor
  · intro enters
    obtain ⟨calm, swaps⟩ := poolEntry enters
    rw [calm] at plan
    exact ⟨plan, calm, swaps⟩
  · rw [plan]
    cases position.fuseTriggered <;> simp
  · rw [plan]
    cases position.fuseTriggered <;> simp

theorem Resolution.suits {reduction : DebtReduction}
    (resolution : Resolution strategy position (position.decide thresholds now) steps
      (.ok (.reduceDebt reduction))) : reduction.Suits position := by
  generalize decided : position.decide thresholds now = decision at resolution
  cases resolution with
  | swapless => exact suits_of_unwind decided nofun
  | quoted _ _ _ swaps =>
    exact suits_of_unwind decided fun enters => ⟨by simpa using enters, swaps⟩

/-- The failure with which a call is answered. -/
def failed? : Exchange Step → Option StepFailure
  | ⟨.quoteWithdraw _ _, .error failure⟩ => some (.chain failure)
  | ⟨.bestQuote .., .error failure⟩ => some (.quote failure)
  | _ => none

/-- A decision ends in a failure exactly if one of its calls is answered with it. -/
theorem Resolution.error_iff {decision : Decision} {failure : StepFailure}
    (resolution : Resolution strategy position decision steps result) :
    result = .error failure ↔ ∃ step ∈ steps, failed? step = some failure := by
  cases resolution with
  | idle | nothing | swapless | quoted => simp [failed?]
  | unread | unquoted => simp [failed?]

/-- A decision to do nothing makes no call. Any other asks for the size of the decided step, and for
one quote if that step swaps something. Every step of debt reduction suits its position, and the
failure of a call, and nothing else, is the failure of the whole. -/
theorem resolve_suits (run : Runs (resolve strategy position thresholds now) steps result) :
    Resolution strategy position (position.decide thresholds now) steps result ∧
      (∀ reduction, result = .ok (.reduceDebt reduction) → reduction.Suits position) ∧
      ∀ failure, result = .error failure ↔ ∃ step ∈ steps, failed? step = some failure := by
  have resolution := resolution_of_runs run
  refine ⟨resolution, fun reduction same => ?_, fun failure => resolution.error_iff⟩
  subst same
  exact resolution.suits

/-- A position whose locked share is above every threshold. -/
def burdened : Position :=
  ⟨10, 11, .off, .disabled, false, 60, false, 0, 1000⟩

/-- Five hundred of the second token are to be swapped, and a route is quoted. -/
def routing : List (Exchange Step) :=
  [⟨.quoteWithdraw 7 Plan.repaySwapRepay.encode, .ok (11, 500)⟩,
    ⟨.bestQuote 11 10 500 7, .ok ⟨"a", 11, 10, 500, 480, 3, [4]⟩⟩]

/-- The step of debt reduction that goes through the quoted route. -/
def routed : DebtReduction :=
  ⟨⟨11, 3, 500, [4], .repaySwapRepay, true⟩, some "a"⟩

theorem resolve_suits_routed :
    Runs (resolve 7 burdened ⟨3, 50, 600⟩ 100) routing (.ok (.reduceDebt routed)) ∧
      Resolution 7 burdened (burdened.decide ⟨3, 50, 600⟩ 100) routing
        (.ok (.reduceDebt routed)) ∧
      (∀ reduction, (.ok (.reduceDebt routed) : Except StepFailure Action) =
        .ok (.reduceDebt reduction) → reduction.Suits burdened) ∧
      ∀ failure, (.ok (.reduceDebt routed) : Except StepFailure Action) = .error failure ↔
        ∃ step ∈ routing, failed? step = some failure := by
  have run : Runs (resolve 7 burdened ⟨3, 50, 600⟩ 100) routing (.ok (.reduceDebt routed)) :=
    .call (.call (.done _))
  exact ⟨run, resolve_suits run⟩

end Action

end VaultKeeper
