import VaultKeeper.Proofs.Keeper.Gate
import VaultKeeper.Proofs.Keeper.Round

/-! # What the operator is told

A step tells the operator of a target that has been needing a rebalance for too long, and then of
what it had delivered if that succeeded; the cycle around it tells of its failure. `Visit.notices`
lists these messages for a visit, and `notices_of_takes` shows that the exchanges of the visit tell
exactly them.
-/

namespace VaultKeeper

/-- The actions that have something delivered. -/
def Action.Sends : Action → Prop
  | .idle _ => False
  | .rebalance | .reduceDebt _ => True

namespace Task

open Program

/-- What an exchange tells the operator. -/
def told? : Exchange Task → Option String
  | ⟨.step (.notify message), _⟩ => some message
  | _ => none

/-- What the operator is told, oldest first. -/
def notices (trace : Trace) : List String :=
  trace.filterMap told?

/-- The receipt that comes back from a delivery. -/
def received? : Exchange Task → Option Receipt
  | ⟨.deliver _ _, .ok receipt⟩ => some receipt
  | _ => none

/-- The receipts that come back from deliveries, oldest first. -/
def receipts (trace : Trace) : List Receipt :=
  trace.filterMap received?

@[simp] theorem notices_append (first second : Trace) :
    notices (first ++ second) = notices first ++ notices second :=
  List.filterMap_append

@[simp] theorem receipts_append (first second : Trace) :
    receipts (first ++ second) = receipts first ++ receipts second :=
  List.filterMap_append

/-- The exchange is a read that failed. -/
def refused : Exchange Task → Bool
  | ⟨.step (.position _), .error _⟩ | ⟨.step (.isPaused _ _), .error _⟩
  | ⟨.step (.thresholds _), .error _⟩ | ⟨.step (.quoteWithdraw _ _), .error _⟩
  | ⟨.step (.bestQuote ..), .error _⟩ => true
  | _ => false

/-- The reads that failed, oldest first. -/
def refusals (trace : Trace) : Trace :=
  trace.filter refused

@[simp] theorem refusals_append (first second : Trace) :
    refusals (first ++ second) = refusals first ++ refusals second :=
  List.filter_append _ _

/-- The operator is told nothing, and no receipt comes back. -/
structure Silent (trace : Trace) : Prop where
  notices : notices trace = []
  receipts : receipts trace = []

/-- Nothing is handed over or told, and every read is answered. -/
structure Quiet (trace : Trace) : Prop extends Silent trace where
  submissions : submissions trace = []
  refusals : refusals trace = []

/-- How a step comes to its result: without handing anything over because a read failed or there was
nothing to do, or with every read answered and by what came of a delivery. -/
inductive Concludes (target : Target) : Trace → Except StepFailure Outcome → Prop
  | unread {trace : Trace} (silent : Silent trace) (unsent : submissions trace = [])
      (failure : StepFailure) : Concludes target trace (.error failure)
  | idle {trace : Trace} (quiet : Quiet trace) (reason : IdleReason) :
      Concludes target trace (.ok (.idle reason))
  | undelivered {trace : Trace} (silent : Silent trace) (answered : refusals trace = [])
      (failure : Failure) : Concludes target trace (.error (.chain failure))
  | executed {trace : Trace} {action : Action} {receipt : Receipt} (sends : action.Sends)
      (answered : refusals trace = []) (received : receipts trace = [receipt])
      (told : notices trace = [Step.successMessage target action receipt]) :
      Concludes target trace (.ok (.executed action))

section

variable {target : Target} {first second trace : Trace} {result : Except StepFailure Outcome}

theorem Silent.append (before : Silent first) (after : Silent second) :
    Silent (first ++ second) where
  notices := by rw [notices_append, before.notices, after.notices]; rfl
  receipts := by rw [receipts_append, before.receipts, after.receipts]; rfl

theorem Quiet.append (before : Quiet first) (after : Quiet second) : Quiet (first ++ second) where
  toSilent := before.toSilent.append after.toSilent
  submissions := by rw [submissions_append, before.submissions, after.submissions]; rfl
  refusals := by rw [refusals_append, before.refusals, after.refusals]; rfl

/-- Exchanges of a step itself bring no receipts. -/
theorem silent_own {steps : List (Exchange Step)}
    (quiet : ∀ step ∈ steps, ∀ message, step.call ≠ .notify message) :
    Silent (steps.map own) where
  notices := by
    apply List.filterMap_eq_nil_iff.mpr
    intro exchange member
    obtain ⟨⟨call, answer⟩, listed, rfl⟩ := List.mem_map.mp member
    cases call with
    | notify message => exact absurd rfl (quiet _ listed message)
    | _ => rfl
  receipts := by simp [receipts, List.filterMap_map, Function.comp_def, own, received?]

namespace Concludes

theorem around {before after : Trace} (concludes : Concludes target trace result)
    (early : Quiet before) (late : Quiet after) :
    Concludes target (before ++ (trace ++ after)) result := by
  cases concludes with
  | unread silent unsent failure =>
    refine .unread (early.toSilent.append (silent.append late.toSilent)) ?_ failure
    rw [submissions_append, submissions_append, early.submissions, unsent, late.submissions]
    rfl
  | idle quiet reason => exact .idle (early.append (quiet.append late)) reason
  | undelivered silent answered failure =>
    refine .undelivered (early.toSilent.append (silent.append late.toSilent)) ?_ failure
    simp [early.refusals, answered, late.refusals]
  | @executed action receipt sends answered received told =>
    have received : receipts (before ++ (trace ++ after)) = [receipt] := by
      simp [early.receipts, received, late.receipts]
    refine .executed sends ?_ received ?_
    · simp [early.refusals, answered, late.refusals]
    · simp [early.notices, told, late.notices]

theorem prepend {before : Trace} (concludes : Concludes target trace result)
    (early : Quiet before) : Concludes target (before ++ trace) result := by
  have nothing : Quiet [] := ⟨⟨rfl, rfl⟩, rfl, rfl⟩
  simpa using concludes.around early nothing

/-- A step that leaves everything as it is hands nothing over. -/
theorem unsent_of_idle {reason : IdleReason}
    (concludes : Concludes target trace (.ok (.idle reason))) : submissions trace = [] := by
  cases concludes with
  | idle quiet => exact quiet.submissions

/-- A step with a read that failed hands nothing over. -/
theorem unsent_of_refused (concludes : Concludes target trace result)
    (refused : refusals trace ≠ []) : submissions trace = [] := by
  cases concludes with
  | unread _ unsent => exact unsent
  | idle quiet => exact quiet.submissions
  | undelivered _ answered | executed _ answered => exact absurd answered refused

end Concludes

end

section

variable {settings : KeeperSettings} {journal after : Journal} {target : Target} {now : UInt64}
  {position : Position} {trace : Trace} {result : Except StepFailure Outcome}

theorem concludes_send {action : Action} {data : Bytes} (sends : action.Sends)
    (run : Runs (send target action data) trace result) : Concludes target trace result := by
  obtain ⟨outcome, _, rfl, continued⟩ := runs_ask_bind_iff.mp run
  cases outcome with
  | error failure =>
    obtain ⟨rfl, rfl⟩ := runs_done_iff.mp continued
    exact .undelivered ⟨rfl, rfl⟩ rfl failure
  | ok receipt =>
    obtain ⟨_, _, rfl, ended⟩ := runs_lift_bind_iff.mp continued
    obtain ⟨rfl, rfl⟩ := runs_done_iff.mp ended
    exact .executed sends rfl rfl rfl

theorem concludes_execute {action : Action} (run : Runs (execute target action) trace result) :
    Concludes target trace result := by
  cases action with
  | idle reason =>
    obtain ⟨rfl, rfl⟩ := runs_done_iff.mp run
    exact .idle ⟨⟨rfl, rfl⟩, rfl, rfl⟩ reason
  | rebalance =>
    have sends : Action.rebalance.Sends := trivial
    exact concludes_send sends run
  | reduceDebt reduction =>
    have sends : (Action.reduceDebt reduction).Sends := trivial
    exact concludes_send sends run

/-- Where a decision becomes an action, everything that was asked for it was answered. -/
theorem answered_resolve {strategy : Address} {thresholds : Thresholds}
    {steps : List (Exchange Step)} {action : Action}
    (run : Runs (Action.resolve strategy position thresholds now) steps (.ok action)) :
    refusals (steps.map own) = [] := by
  have resolution := Action.resolution_of_runs run
  generalize position.decide thresholds now = decision at resolution
  cases resolution <;> rfl

theorem concludes_reduceDebt (run : Runs (reduceDebt target position now) trace result) :
    Concludes target trace result := by
  obtain ⟨answer, _, rfl, continued⟩ := runs_lift_bind_iff.mp run
  cases answer with
  | error failure =>
    obtain ⟨rfl, rfl⟩ := runs_done_iff.mp continued
    exact .unread ⟨rfl, rfl⟩ rfl _
  | ok thresholds =>
    obtain ⟨_, resolved, rest, rfl, decided, executed⟩ := runs_bind_iff.mp continued
    obtain ⟨steps, resolving, rfl⟩ := runs_ofStep_iff.mp decided
    let reads : List (Exchange Step) := ⟨.thresholds target.strategy, .ok thresholds⟩ :: steps
    have silent : Silent (reads.map own) := by
      refine silent_own (List.forall_mem_cons.mpr ⟨nofun, fun step member message same => ?_⟩)
      have prices := prices_resolve _ _ _ _ _ _ resolving step member
      rw [same] at prices
      cases prices
    have unsent : submissions (reads.map own) = [] := submissions_own reads
    change Concludes target (reads.map own ++ rest) result
    cases resolved with
    | error failure =>
      obtain ⟨rfl, rfl⟩ := runs_done_iff.mp executed
      rw [List.append_nil]
      exact .unread silent unsent failure
    | ok action =>
      have answered : refusals (steps.map own) = [] := answered_resolve resolving
      exact (concludes_execute executed).prepend ⟨silent, unsent, answered⟩

/-- Asking for a pause is silent, and quiet if there is an answer. -/
theorem silent_pauseOf {answer : Except Failure Bool} (run : Runs (pauseOf target) trace answer) :
    Silent trace ∧ ∀ paused, answer = .ok paused → Quiet trace := by
  unfold pauseOf at run
  split at run
  · obtain ⟨rfl, _⟩ := runs_done_iff.mp run
    exact ⟨⟨rfl, rfl⟩, fun _ _ => ⟨⟨rfl, rfl⟩, rfl, rfl⟩⟩
  · obtain rfl := runs_lift_iff.mp run
    refine ⟨⟨rfl, rfl⟩, ?_⟩
    rintro paused rfl
    exact ⟨⟨rfl, rfl⟩, rfl, rfl⟩

/-- Where a rebalance is not attempted all is quiet, and otherwise it concludes. -/
theorem concludes_checkRebalance {attempt : Except StepFailure (Option Outcome)}
    (run : Runs (checkRebalance settings journal target position now) trace (attempt, after)) :
    (attempt = .ok none → Quiet trace) ∧
      ∀ result, attempt = result.map some → Concludes target trace result := by
  -- no need, a recent rebalance and a pause all end the same way
  have skipped (quiet : Quiet trace) (same : attempt = .ok none) :
      (attempt = .ok none → Quiet trace) ∧
        ∀ result, attempt = result.map some → Concludes target trace result := by
    refine ⟨fun _ => quiet, fun result made => ?_⟩
    cases result <;> cases same.symm.trans made
  unfold checkRebalance at run
  split at run
  · unfold rebalance at run
    split at run
    · obtain ⟨asking, answer, rest, rfl, asked, continued⟩ := runs_bind_iff.mp run
      obtain ⟨silent, quiet⟩ := silent_pauseOf asked
      match answer, continued with
      | .error failure, continued =>
        obtain ⟨rfl, same⟩ := runs_done_iff.mp continued
        cases same
        rw [List.append_nil]
        refine ⟨nofun, fun result made => ?_⟩
        cases result with
        | ok outcome => cases made
        | error failure => exact .unread silent (runs_pauseOf asked).1 failure
      | .ok true, continued =>
        obtain ⟨rfl, same⟩ := runs_done_iff.mp continued
        cases same
        rw [List.append_nil] at skipped ⊢
        exact skipped (quiet _ rfl) rfl
      | .ok false, continued =>
        obtain ⟨sending, outcome, _, rfl, sent, finishing⟩ := runs_bind_iff.mp continued
        obtain ⟨finished, _, rfl, ended⟩ := runs_lift_bind_iff.mp finishing
        obtain ⟨rfl, same⟩ := runs_done_iff.mp ended
        cases same
        have read : Quiet [⟨.step (.delivery .now), finished⟩] := ⟨⟨rfl, rfl⟩, rfl, rfl⟩
        have concludes := (concludes_execute sent).around (quiet _ rfl) read
        refine ⟨fun none => ?_, fun result made => ?_⟩
        · cases outcome <;> cases none
        · obtain rfl : outcome = result := by
            cases outcome <;> cases result <;> cases made <;> rfl
          exact concludes
    · obtain ⟨rfl, same⟩ := runs_done_iff.mp run
      cases same
      exact skipped ⟨⟨rfl, rfl⟩, rfl, rfl⟩ rfl
  · obtain ⟨rfl, same⟩ := runs_done_iff.mp run
    cases same
    exact skipped ⟨⟨rfl, rfl⟩, rfl, rfl⟩ rfl

theorem concludes_serve
    (run : Runs (serve settings journal target position now) trace (result, after)) :
    Concludes target trace result := by
  obtain ⟨checking, ⟨attempt, noted⟩, rest, rfl, checked, continued⟩ := runs_bind_iff.mp run
  obtain ⟨skipped, made⟩ := concludes_checkRebalance checked
  match attempt, continued with
  | .error failure, continued =>
    obtain ⟨rfl, same⟩ := runs_done_iff.mp continued
    cases same
    rw [List.append_nil]
    exact made (.error failure) rfl
  | .ok (some outcome), continued =>
    obtain ⟨rfl, same⟩ := runs_done_iff.mp continued
    cases same
    rw [List.append_nil]
    exact made (.ok outcome) rfl
  | .ok none, continued =>
    obtain ⟨_, reduced, same⟩ := runs_bind_done_iff.mp continued
    cases same
    exact (concludes_reduceDebt reduced).prepend (skipped rfl)

/-- The age that a step finds too high: what the journal answers to the time and the position that
the step reads first. -/
def stuckAge (settings : KeeperSettings) (journal : Journal) (target : Target) :
    Trace → Option UInt64
  | ⟨.step (.delivery .now), now⟩ :: ⟨.step (.position _), .ok position⟩ :: _ =>
    (journal.observe target.strategy position.needRebalance now settings.stuckAlert).1
  | _ => none

/-- Observing tells of the age that it finds too high, and does nothing else. -/
theorem notices_of_observe
    (run : Runs (observe settings journal target position now) trace after) :
    notices trace = (journal.observe target.strategy position.needRebalance now
        settings.stuckAlert).1.toList.map (Step.stuckMessage target) ∧
      receipts trace = [] ∧ refusals trace = [] := by
  unfold observe at run
  generalize journal.observe target.strategy position.needRebalance now settings.stuckAlert =
    seen at run ⊢
  obtain ⟨age, later⟩ := seen
  cases age with
  | none =>
    obtain ⟨rfl, _⟩ := runs_done_iff.mp run
    exact ⟨rfl, rfl, rfl⟩
  | some age =>
    obtain ⟨_, _, rfl, ended⟩ := runs_lift_bind_iff.mp run
    obtain ⟨rfl, _⟩ := runs_done_iff.mp ended
    exact ⟨rfl, rfl, rfl⟩

/-- A step ends when it cannot read the position, or it notes whether the target needs a rebalance
and serves it. -/
theorem process_cases (run : Runs (process settings journal target) trace (result, after)) :
    (∃ now failure, result = .error (.chain failure) ∧ after = journal ∧ trace =
      [⟨.step (.delivery .now), now⟩, ⟨.step (.position target.strategy), .error failure⟩]) ∨
    ∃ now position observing noted serving,
      trace = ⟨.step (.delivery .now), now⟩ :: ⟨.step (.position target.strategy), .ok position⟩ ::
        (observing ++ serving) ∧
      Runs (observe settings journal target position now) observing noted ∧
      Runs (serve settings noted target position now) serving (result, after) := by
  obtain ⟨now, _, rfl, started⟩ := runs_lift_bind_iff.mp run
  obtain ⟨answer, rest, rfl, continued⟩ := runs_lift_bind_iff.mp started
  cases answer with
  | error failure =>
    obtain ⟨rfl, same⟩ := runs_done_iff.mp continued
    cases same
    exact .inl ⟨now, failure, rfl, rfl, rfl⟩
  | ok position =>
    obtain ⟨observing, noted, serving, rfl, observed, served⟩ := runs_bind_iff.mp continued
    exact .inr ⟨now, position, observing, noted, serving, rfl, observed, served⟩

/-- A step tells of an age that is too high, and then concludes. -/
theorem notices_of_process
    (run : Runs (process settings journal target) trace (result, after)) :
    ∃ early late, trace = early ++ late ∧ receipts early = [] ∧
      notices early = (stuckAge settings journal target trace).toList.map
        (Step.stuckMessage target) ∧
      Concludes target late result := by
  obtain ⟨now, failure, rfl, -, rfl⟩ |
    ⟨now, position, observing, noted, serving, rfl, observed, served⟩ := process_cases run
  · exact ⟨[_, _], [], rfl, rfl, rfl, .unread ⟨rfl, rfl⟩ rfl _⟩
  · obtain ⟨told, unreceived, _⟩ := notices_of_observe observed
    exact ⟨_ :: _ :: observing, serving, rfl, unreceived, told, concludes_serve served⟩

/-- A step hands nothing over if it leaves everything as it is, or if a read of it fails. -/
theorem unsent_of_process
    (run : Runs (process settings journal target) trace (result, after)) :
    (∀ reason, result = .ok (.idle reason) → submissions trace = []) ∧
      (refusals trace ≠ [] → submissions trace = []) := by
  obtain ⟨now, failure, rfl, -, rfl⟩ |
    ⟨now, position, observing, noted, serving, rfl, observed, served⟩ := process_cases run
  · exact ⟨fun _ _ => rfl, fun _ => rfl⟩
  · obtain ⟨-, -, answered⟩ := notices_of_observe observed
    have unsent := (runs_observe observed).1
    have concludes := concludes_serve served
    have sent : submissions (observing ++ serving) = submissions serving := by
      rw [submissions_append, unsent, List.nil_append]
    have asked : refusals (observing ++ serving) = refusals serving := by
      rw [refusals_append, answered, List.nil_append]
    refine ⟨fun _ same => sent.trans (same ▸ concludes).unsent_of_idle, fun refused => ?_⟩
    exact sent.trans (concludes.unsent_of_refused (asked ▸ refused))

end

end Task

namespace Cycle

open Program

/-- What an exchange of a keeper tells the operator. -/
def told? : Exchange Cycle → Option String
  | ⟨.step (.notify message), _⟩ => some message
  | _ => none

/-- What the operator is told by a keeper, oldest first. -/
def notices (trace : Trace) : List String :=
  trace.filterMap told?

@[simp] theorem notices_append (first second : Trace) :
    notices (first ++ second) = notices first ++ notices second :=
  List.filterMap_append

@[simp] theorem notices_telling (messages : List String) :
    notices ((messages.map telling).map lift) = messages := by
  simp [notices, List.filterMap_map, Function.comp_def, telling, lift, told?]

theorem notices_liftRegistry (calls : List (Exchange Registry)) :
    notices (calls.map liftRegistry) = [] := by
  simp [notices, List.filterMap_map, Function.comp_def, liftRegistry, told?]

theorem notices_delivered (delivery : List (Exchange Delivery)) :
    notices ((delivery.map Task.delivered).map lift) = [] := by
  simp [notices, List.filterMap_map, Function.comp_def, Task.delivered, lift, told?]

/-- Deliveries tell the operator nothing. -/
theorem notices_of_expands {courier : Courier} {calls : Task.Trace} {steps : List (Exchange Step)}
    (expands : Expands (Task.carryOut courier) calls steps) :
    notices (steps.map lift) = Task.notices calls := by
  induction calls generalizing steps with
  | nil =>
    cases expands
    rfl
  | cons exchange calls ih =>
    obtain ⟨call, answer⟩ := exchange
    cases call with
    | step call =>
      change Expands _ (Task.own ⟨call, answer⟩ :: calls) steps at expands
      obtain ⟨rest, rfl, expanded⟩ := Task.expands_own_iff.mp expands
      have later := ih expanded
      cases call with
      | notify message => exact congrArg (message :: ·) later
      | _ => exact later
    | deliver receiver data =>
      obtain ⟨delivery, rest, rfl, _, expanded⟩ := Task.expands_handing_iff.mp expands
      rw [List.map_append, notices_append, notices_delivered]
      exact ih expanded

/-- The age that a visit finds too high. -/
def Visit.age (settings : KeeperSettings) (visit : Visit) : Option UInt64 :=
  Task.stuckAge settings visit.before visit.target visit.calls

/-- What the operator is told of a visit that had something delivered. -/
def Visit.successes (visit : Visit) : List String :=
  match visit.outcome with
  | .ok (.executed action) =>
    (Task.receipts visit.calls).map (Step.successMessage visit.target action)
  | _ => []

/-- All that the operator is told in a visit and after it. -/
def Visit.notices (settings : KeeperSettings) (visit : Visit) : List String :=
  (visit.age settings).toList.map (Step.stuckMessage visit.target) ++ visit.successes
    ++ visit.complaints

/-- The step rebalanced a range. -/
def Visit.rebalanced (visit : Visit) : Bool :=
  match visit.outcome with
  | .ok (.executed .rebalance) => true
  | _ => false

/-- The step reduced a debt. -/
def Visit.reducedDebt (visit : Visit) : Bool :=
  match visit.outcome with
  | .ok (.executed (.reduceDebt _)) => true
  | _ => false

section

variable {keeper : Keeper} {visit : Visit} {steps : List (Exchange Step)}

theorem notices_of_takes (taken : visit.Takes keeper steps) :
    notices (Piece.visit visit steps).exchanges = visit.notices keeper.settings := by
  obtain ⟨early, late, same, unreceived, told, concludes⟩ := Task.notices_of_process taken.planned
  rw [Piece.exchanges, List.map_append, notices_append, notices_telling,
    notices_of_expands taken.carriedOut, Visit.notices, Visit.age, ← told]
  congr 1
  rw [same, Task.notices_append]
  congr 1
  have received : Task.receipts visit.calls = Task.receipts late := by
    rw [same, Task.receipts_append, unreceived]
    rfl
  rw [Visit.successes, received]
  generalize visit.outcome = outcome at concludes ⊢
  cases concludes with
  | unread silent | undelivered silent => exact silent.notices
  | idle quiet => exact quiet.notices
  | executed _ _ received told =>
    rw [told]
    simp only [received]
    rfl

/-- A success is reported once, and nothing else is reported as one. -/
theorem length_successes (taken : visit.Takes keeper steps) :
    visit.successes.length =
      (if visit.rebalanced then 1 else 0) + (if visit.reducedDebt then 1 else 0) := by
  obtain ⟨early, late, same, unreceived, _, concludes⟩ := Task.notices_of_process taken.planned
  have received : Task.receipts visit.calls = Task.receipts late := by
    rw [same, Task.receipts_append, unreceived]
    rfl
  rw [Visit.successes, Visit.rebalanced, Visit.reducedDebt, received]
  generalize visit.outcome = outcome at concludes ⊢
  cases concludes with
  | unread | undelivered | idle => rfl
  | @executed action receipt sends _ received _ =>
    simp only [received]
    cases action with
    | idle reason => cases sends
    | rebalance | reduceDebt => rfl

end

end Cycle

end VaultKeeper
