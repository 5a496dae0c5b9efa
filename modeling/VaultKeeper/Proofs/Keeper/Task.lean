import VaultKeeper.Keeper.Step
import VaultKeeper.Proofs.Keeper.Resolution
import VaultKeeper.Proofs.Program.Basic

/-! # What a step asks for

The calls of a step while its deliveries are left to a courier. Apart from those deliveries it only
reads, and tells the operator what it did.
-/

namespace VaultKeeper.Task

open Program

/-- The exchanges of a step that leaves deliveries to a courier, oldest first. -/
abbrev Trace := List (Exchange Task)

/-- An exchange of a step as part of a task. -/
def own (exchange : Exchange Step) : Exchange Task :=
  ⟨.step exchange.call, exchange.answer⟩

section

variable {α : Type} {program : Program Step α} {trace : Trace}

theorem runs_ofStep_iff {a : α} :
    Runs (ofStep program) trace a ↔ ∃ steps, Runs program steps a ∧ trace = steps.map own :=
  runs_relabel_iff fun _ _ _ => runs_ask_iff

theorem runs_lift_iff {call : Step.Call} {answer : Step.Answer call} :
    Runs (ofStep (ask (I := Step) call)) trace answer ↔ trace = [⟨.step call, answer⟩] :=
  runs_ask_iff

theorem runs_lift_bind_iff {call : Step.Call} {next : Step.Answer call → Program Task α} {a : α} :
    Runs (ofStep (ask (I := Step) call) >>= next) trace a ↔
      ∃ answer rest, trace = ⟨.step call, answer⟩ :: rest ∧ Runs (next answer) rest a :=
  runs_ask_bind_iff

end

/-- An exchange of a delivery as part of a step. -/
def delivered (exchange : Exchange Delivery) : Exchange Step :=
  ⟨.delivery exchange.call, exchange.answer⟩

section

variable {courier : Courier} {calls : Trace} {trace : List (Exchange Step)}

/-- What a step calls itself is a single exchange for its courier as well. -/
theorem expands_own_iff {exchange : Exchange Step} :
    Expands (carryOut courier) (own exchange :: calls) trace ↔
      ∃ rest, trace = exchange :: rest ∧ Expands (carryOut courier) calls rest := by
  constructor
  · intro expands
    cases expands with
    | @cons _ _ _ head tail handled rest =>
      obtain rfl := runs_ask_iff.mp handled
      exact ⟨tail, rfl, rest⟩
  · rintro ⟨rest, rfl, expands⟩
    have handled : Runs (carryOut courier (own exchange).call) [exchange] exchange.answer :=
      runs_ask_iff.mpr rfl
    exact .cons handled expands

/-- An exchange that hands a payload over. -/
def handing (receiver : Address) (data : Bytes) (outcome : Except Failure Receipt) :
    Exchange Task :=
  ⟨.deliver receiver data, outcome⟩

/-- A payload that is handed over takes the exchanges of its delivery. -/
theorem expands_handing_iff {receiver : Address} {data : Bytes}
    {outcome : Except Failure Receipt} :
    Expands (carryOut courier) (handing receiver data outcome :: calls) trace ↔
      ∃ delivery rest, trace = delivery.map delivered ++ rest ∧
        Runs (courier.deliver receiver data) delivery outcome ∧
        Expands (carryOut courier) calls rest := by
  have relabels {steps : List (Exchange Step)} :
      Runs (Step.ofDelivery (courier.deliver receiver data)) steps outcome ↔
        ∃ delivery, Runs (courier.deliver receiver data) delivery outcome ∧
          steps = delivery.map delivered :=
    runs_relabel_iff fun _ _ _ => runs_ask_iff
  constructor
  · intro expands
    cases expands with
    | @cons _ _ _ head tail handled rest =>
      obtain ⟨delivery, ran, rfl⟩ := relabels.mp handled
      exact ⟨delivery, tail, rfl, ran, rest⟩
  · rintro ⟨delivery, rest, rfl, ran, expands⟩
    exact .cons (relabels.mpr ⟨delivery, ran, rfl⟩) expands

end

/-- The calls of a step apart from its deliveries: of the account and the node that deliveries use
it needs none, only the clock. -/
def Call.Plans : Call → Prop
  | .step (.delivery request) => request = .now
  | .step _ | .deliver _ _ => True

theorem calls_ofStep {α : Type} {program : Program Step α}
    (plans : Calls (fun call => Call.Plans (.step call)) program) :
    Calls Call.Plans (ofStep program) := by
  intro trace a run exchange member
  obtain ⟨steps, ran, rfl⟩ := runs_ofStep_iff.mp run
  obtain ⟨step, listed, rfl⟩ := List.mem_map.mp member
  exact plans steps a ran step listed

theorem calls_send (target : Target) (action : Action) (data : Bytes) :
    Calls Call.Plans (send target action data) := by
  refine .bind (.ask trivial) fun outcome => ?_
  cases outcome with
  | error failure => exact .done _
  | ok receipt => exact .bind (calls_ofStep (.ask trivial)) fun _ => .done _

theorem calls_execute (target : Target) (action : Action) :
    Calls Call.Plans (execute target action) := by
  cases action with
  | idle reason => exact .done _
  | rebalance => exact calls_send _ _ _
  | reduceDebt reduction => exact calls_send _ _ _

/-- The calls that turn a decision to unwind into an action. -/
inductive Prices : Step.Call → Prop
  | quoteWithdraw (strategy : Address) (planData : Bytes) :
      Prices (.quoteWithdraw strategy planData)
  | bestQuote (tokenIn tokenOut : Address) (amount : Word) (requester : Address) :
      Prices (.bestQuote tokenIn tokenOut amount requester)

theorem prices_resolve (strategy : Address) (position : Position) (thresholds : Thresholds)
    (now : UInt64) : Calls Prices (Action.resolve strategy position thresholds now) := by
  intro steps result run
  have resolution := Action.resolution_of_runs run
  generalize position.decide thresholds now = decision at resolution
  cases resolution with
  | idle => simp
  | unread | nothing | swapless => simp [Prices.quoteWithdraw]
  | unquoted | quoted => simp [Prices.quoteWithdraw, Prices.bestQuote]

theorem calls_resolve (strategy : Address) (position : Position) (thresholds : Thresholds)
    (now : UInt64) :
    Calls (fun call => Call.Plans (.step call))
      (Action.resolve strategy position thresholds now) := by
  intro trace action run exchange member
  generalize call : exchange.call = asked
  cases call ▸ prices_resolve _ _ _ _ trace action run exchange member <;> trivial

theorem calls_rebalance (settings : KeeperSettings) (journal : Journal) (target : Target)
    (now : UInt64) : Calls Call.Plans (rebalance settings journal target now) := by
  have asks : Calls Call.Plans (pauseOf target) := by
    unfold pauseOf
    split
    · exact .done _
    · exact calls_ofStep (.ask trivial)
  unfold rebalance
  split
  · refine .bind asks fun answer => ?_
    match answer with
    | .error _ | .ok true => exact .done _
    | .ok false =>
      exact .bind (calls_execute target .rebalance) fun _ =>
        .bind (calls_ofStep (.ask rfl)) fun _ => .done _
  · exact .done _

theorem calls_reduceDebt (target : Target) (position : Position) (now : UInt64) :
    Calls Call.Plans (reduceDebt target position now) := by
  refine .bind (calls_ofStep (.ask trivial)) fun answer => ?_
  cases answer with
  | error failure => exact .done _
  | ok thresholds =>
    refine .bind (calls_ofStep (calls_resolve _ _ _ _)) fun resolved => ?_
    cases resolved with
    | error failure => exact .done _
    | ok action => exact calls_execute target action

theorem calls_process (settings : KeeperSettings) (journal : Journal) (target : Target) :
    Calls Call.Plans (process settings journal target) := by
  refine .bind (calls_ofStep (.ask rfl)) fun now => ?_
  refine .bind (calls_ofStep (.ask trivial)) fun read => ?_
  cases read with
  | error failure => exact .done _
  | ok position =>
    refine .bind ?_ fun journal => .bind ?_ fun checked => ?_
    · unfold observe
      split
      next age later _ =>
      cases age with
      | none => exact .done _
      | some age => exact .bind (calls_ofStep (.ask trivial)) fun _ => .done _
    · unfold checkRebalance
      split
      · exact calls_rebalance _ _ _ _
      · exact .done _
    · match checked with
      | (.error _, _) | (.ok (some _), _) => exact .done _
      | (.ok none, _) => exact .bind (calls_reduceDebt _ _ _) fun _ => .done _

end VaultKeeper.Task
