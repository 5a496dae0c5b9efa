import VaultKeeper.Contract
import VaultKeeper.Delivery.Courier
import VaultKeeper.Position
import VaultKeeper.Quote.Basic
import VaultKeeper.Vault

/-! # Actions on a strategy

What the keeper may do for a strategy in one step, and how a decision to unwind becomes an action:
the strategy says which token and how much of it the step swaps, and the best quote says where.
-/

namespace VaultKeeper

/-- A step of debt reduction with the provider of its quote; a step without a swap has none. -/
structure DebtReduction where
  step : Contract.WithdrawStep
  quotedBy : Option String
deriving DecidableEq, Repr

/-- The bytes that are sent. -/
def DebtReduction.calldata (reduction : DebtReduction) : Bytes :=
  reduction.step.calldata

/-- What is done for a strategy. -/
inductive Action where
  | idle (reason : IdleReason)
  | rebalance
  | reduceDebt (reduction : DebtReduction)
deriving DecidableEq, Repr

/-- The kind of an action. -/
def Action.kind : Action → String
  | idle _ => "noop"
  | rebalance => "rebalance"
  | reduceDebt _ => "reduce_debt"

/-- Why a step for a strategy failed. -/
inductive StepFailure where
  | chain (failure : Failure)
  | quote (failure : QuoteFailure)
deriving DecidableEq, Repr

namespace StepFailure

/-- The wording of a failure. -/
def message : StepFailure → String
  | chain failure => failure.message
  | quote failure => failure.message

/-- The intended transaction was given up, and an operator is needed. -/
def isAbandonment : StepFailure → Bool
  | chain (.abandoned ..) => true
  | _ => false

/-- The transaction was mined and failed. -/
def isRevert : StepFailure → Bool
  | chain (.reverted ..) => true
  | _ => false

end StepFailure

namespace Step

/-- The calls that a step for one strategy makes. -/
inductive Call where
  | delivery (call : Delivery.Call)
  | position (strategy : Address)
  | thresholds (strategy : Address)
  /-- The token and amount that the next step of a plan swaps. -/
  | quoteWithdraw (strategy : Address) (planData : Bytes)
  | isPaused (splitter strategy : Address)
  | bestQuote (tokenIn tokenOut : Address) (amount : Word) (requester : Address)
  /-- Tell the operator. -/
  | notify (message : String)
deriving DecidableEq, Repr

end Step

/-- The surroundings of a step. -/
abbrev Step : Interface where
  Call := Step.Call
  Answer
    | .delivery call => Delivery.Answer call
    | .position _ => Except Failure Position
    | .thresholds _ => Except Failure Thresholds
    | .quoteWithdraw _ _ => Except Failure (Address × Word)
    | .isPaused _ _ => Except Failure Bool
    | .bestQuote .. => Except QuoteFailure Quote
    | .notify _ => Unit

namespace Step

/-- A delivery as part of a step. -/
def ofDelivery {α : Type} (program : Program Delivery α) : Program Step α :=
  program.interpret fun call => Program.ask (I := Step) (.delivery call)

def now : Program Step UInt64 := Program.ask (I := Step) (.delivery .now)

def position (strategy : Address) : Program Step (Except Failure Position) :=
  Program.ask (I := Step) (.position strategy)

def thresholds (strategy : Address) : Program Step (Except Failure Thresholds) :=
  Program.ask (I := Step) (.thresholds strategy)

def quoteWithdraw (strategy : Address) (planData : Bytes) :
    Program Step (Except Failure (Address × Word)) :=
  Program.ask (I := Step) (.quoteWithdraw strategy planData)

def isPaused (splitter strategy : Address) : Program Step (Except Failure Bool) :=
  Program.ask (I := Step) (.isPaused splitter strategy)

def bestQuote (tokenIn tokenOut : Address) (amount : Word) (requester : Address) :
    Program Step (Except QuoteFailure Quote) :=
  Program.ask (I := Step) (.bestQuote tokenIn tokenOut amount requester)

def notify (message : String) : Program Step Unit :=
  Program.ask (I := Step) (.notify message)

end Step

namespace Action

open Step

/-- The action for a step that swaps nothing: while a fuse is triggered it still goes ahead. -/
def withoutSwap (plan : Plan) (fuseTriggered : Bool) (token : Address) (amount : Word) : Action :=
  if fuseTriggered then .reduceDebt ⟨⟨token, 0, amount, [], plan, false⟩, none⟩
  else .idle .zeroSwapAmount

/-- The action for a step that swaps through a quoted route. -/
def throughQuote (plan : Plan) (fuseTriggered : Bool) (token : Address) (amount : Word)
    (quote : Quote) : Action :=
  .reduceDebt ⟨⟨token, quote.target, amount, quote.callData, plan, !fuseTriggered⟩,
    some quote.provider⟩

/-- Decide, and turn a decision to unwind into an action. -/
def resolve (strategy : Address) (position : Position) (thresholds : Thresholds) (now : UInt64) :
    Program Step (Except StepFailure Action) :=
  match position.decide thresholds now with
  | .idle reason => pure (.ok (.idle reason))
  | .unwind plan fuseTriggered => do
    match ← quoteWithdraw strategy plan.encode with
    | .error failure => pure (.error (.chain failure))
    | .ok (token, amount) =>
      if amount = 0 then pure (.ok (withoutSwap plan fuseTriggered token amount))
      else
        match ← bestQuote token (position.counterpart token) amount strategy with
        | .error failure => pure (.error (.quote failure))
        | .ok quote => pure (.ok (throughQuote plan fuseTriggered token amount quote))

end Action

end VaultKeeper
