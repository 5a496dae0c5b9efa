import VaultKeeper.Proofs.Contract
import VaultKeeper.Proofs.Keeper.Life

/-! # What lets a step send a transaction

A step hands over one payload at most. `Licensed` says what the step must have read before it does
so: a rebalance needs a position that asks for one, an elapsed cooldown and a splitter that answers
that nothing is paused; a step of debt reduction needs a position that asks for no rebalance and a
decision to unwind.
-/

namespace VaultKeeper

/-- Where the cooldown has elapsed, so many seconds lie behind the last rebalance. -/
theorem Journal.cooldown_le (journal : Journal) {now cooldown last : UInt64}
    (elapsed : journal.cooldownElapsed now cooldown = true)
    (recorded : journal.lastRebalance = some last) :
    cooldown.toNat ≤ now.toNat - last.toNat := by
  rw [Journal.cooldownElapsed, recorded] at elapsed
  rw [← toNat_secondsSince]
  exact UInt64.le_iff_toNat_le.mp (of_decide_eq_true elapsed)

namespace Task

open Program

/-- The payload that an exchange hands over, with its receiver. -/
def submission? : Exchange Task → Option (Address × Bytes)
  | ⟨.deliver receiver data, _⟩ => some (receiver, data)
  | ⟨.step _, _⟩ => none

/-- The payloads handed over, oldest first. -/
def submissions (trace : Trace) : List (Address × Bytes) :=
  trace.filterMap submission?

/-- What a step must have read before it hands over calldata. -/
structure Licensed (settings : KeeperSettings) (lastRebalance : Option UInt64) (target : Target)
    (now : UInt64) (position : Position) (reads : Trace) (data : Bytes) : Prop where
  known : data = Contract.rebalanceNoSwaps ∨ ∃ step : Contract.WithdrawStep, data = step.calldata
  rebalance : data = Contract.rebalanceNoSwaps →
    position.needRebalance = true ∧
    (∀ last, lastRebalance = some last →
      settings.rebalanceCooldown.toNat ≤ now.toNat - last.toNat) ∧
    ∀ splitter, target.splitter = some splitter →
      ⟨.step (.isPaused splitter target.strategy), .ok false⟩ ∈ reads
  withdraw : ∀ step : Contract.WithdrawStep, data = step.calldata →
    position.needRebalance = false ∧
    ∃ thresholds plan fuseTriggered,
      ⟨.step (.thresholds target.strategy), .ok thresholds⟩ ∈ reads ∧
      position.decide thresholds now = .unwind plan fuseTriggered

/-- Nothing is handed over, or one payload for the strategy of the target is, and what was read
before permits it. -/
inductive Sends (target : Target) (permits : Trace → Bytes → Prop) : Trace → Prop
  | nothing {trace : Trace} (quiet : submissions trace = []) : Sends target permits trace
  | once {before after : Trace} {data : Bytes} (permitted : permits before data)
      (outcome : Except Failure Receipt) (first : submissions before = [])
      (last : submissions after = []) :
      Sends target permits (before ++ ⟨.deliver target.strategy data, outcome⟩ :: after)

section

variable {target : Target} {permits permits' : Trace → Bytes → Prop} {first second : Trace}
  {α : Type}

theorem submissions_append :
    submissions (first ++ second) = submissions first ++ submissions second :=
  List.filterMap_append

theorem submissions_own (steps : List (Exchange Step)) : submissions (steps.map own) = [] := by
  simp [submissions, List.filterMap_map, Function.comp_def, own, submission?]

namespace Sends

/-- What is read first may add to what permits a payload. -/
theorem prepend (quiet : submissions first = []) (sends : Sends target permits second)
    (keeps : ∀ {reads data}, permits reads data → permits' (first ++ reads) data) :
    Sends target permits' (first ++ second) := by
  cases sends with
  | nothing rest => exact .nothing (by rw [submissions_append, quiet, rest]; rfl)
  | once permitted outcome before after =>
    rw [← List.append_assoc]
    exact .once (keeps permitted) outcome (by rw [submissions_append, quiet, before]; rfl) after

theorem append (sends : Sends target permits first) (quiet : submissions second = []) :
    Sends target permits (first ++ second) := by
  cases sends with
  | nothing rest => exact .nothing (by rw [submissions_append, rest, quiet]; rfl)
  | once permitted outcome before after =>
    rw [List.append_assoc, List.cons_append]
    exact .once permitted outcome before (by rw [submissions_append, after, quiet]; rfl)

end Sends

/-- Calldata is handed over first, and nothing after it. -/
theorem runs_send {action : Action} {data : Bytes} {trace : Trace}
    {result : Except StepFailure Outcome} (run : Runs (send target action data) trace result) :
    ∃ outcome reports, trace = ⟨.deliver target.strategy data, outcome⟩ :: reports ∧
      submissions reports = [] := by
  obtain ⟨outcome, reports, rfl, continued⟩ := runs_ask_bind_iff.mp run
  refine ⟨outcome, reports, rfl, ?_⟩
  cases outcome with
  | error failure =>
    obtain ⟨rfl, _⟩ := runs_done_iff.mp continued
    rfl
  | ok receipt =>
    obtain ⟨_, _, rfl, ended⟩ := runs_lift_bind_iff.mp continued
    obtain ⟨rfl, _⟩ := runs_done_iff.mp ended
    rfl

/-- Handing calldata over is the one submission of `send`. -/
theorem sends_send {action : Action} {data : Bytes} {trace : Trace}
    {result : Except StepFailure Outcome} (permitted : permits [] data)
    (run : Runs (send target action data) trace result) : Sends target permits trace := by
  obtain ⟨outcome, after, rfl, quiet⟩ := runs_send run
  change Sends target permits ([] ++ ⟨.deliver target.strategy data, outcome⟩ :: after)
  exact .once permitted outcome rfl quiet

end

section

variable {settings : KeeperSettings} {lastRebalance : Option UInt64} {journal after : Journal}
  {target : Target} {now : UInt64} {position : Position} {reads trace : Trace}

/-- The calldata is that of a step, and what was read leads to a decision to unwind. -/
def Unwinds (target : Target) (now : UInt64) (position : Position) (reads : Trace)
    (data : Bytes) : Prop :=
  ∃ (step : Contract.WithdrawStep) (thresholds : Thresholds) (plan : Plan) (fuseTriggered : Bool),
    data = step.calldata ∧ ⟨.step (.thresholds target.strategy), .ok thresholds⟩ ∈ reads ∧
    position.decide thresholds now = .unwind plan fuseTriggered

/-- What a decision to unwind permits. -/
theorem Licensed.of_unwind {data : Bytes} (unwinds : Unwinds target now position reads data) :
    Licensed settings lastRebalance target now position reads data := by
  obtain ⟨step, thresholds, plan, fuseTriggered, rfl, read, decided⟩ := unwinds
  refine ⟨.inr ⟨step, rfl⟩, fun same => ?_, fun _ _ => ?_⟩
  · exact absurd (same.trans Contract.rebalanceCalldata_eq.symm) step.calldata_ne
  · obtain ⟨settled, -, -⟩ := Position.unwind_cases decided
    exact ⟨settled, thresholds, plan, fuseTriggered, read, decided⟩

theorem Licensed.of_rebalance (needed : position.needRebalance = true)
    (elapsed : journal.cooldownElapsed now settings.rebalanceCooldown = true)
    (unpaused : ∀ splitter, target.splitter = some splitter →
      ⟨.step (.isPaused splitter target.strategy), .ok false⟩ ∈ reads) :
    Licensed settings journal.lastRebalance target now position reads
      Contract.rebalanceCalldata where
  known := .inl Contract.rebalanceCalldata_eq
  rebalance := by
    intro _
    exact ⟨needed, fun last recorded => journal.cooldown_le elapsed recorded, unpaused⟩
  withdraw := fun step same => absurd same.symm step.calldata_ne

theorem Licensed.prepend {data : Bytes} {more : Trace}
    (licensed : Licensed settings lastRebalance target now position reads data) :
    Licensed settings lastRebalance target now position (more ++ reads) data where
  known := licensed.known
  rebalance := fun same =>
    have ⟨needed, elapsed, unpaused⟩ := licensed.rebalance same
    ⟨needed, elapsed, fun splitter given => List.mem_append_right _ (unpaused splitter given)⟩
  withdraw := fun step same =>
    have ⟨settled, thresholds, plan, fuseTriggered, read, decided⟩ := licensed.withdraw step same
    ⟨settled, thresholds, plan, fuseTriggered, List.mem_append_right _ read, decided⟩

/-- A position resolves to nothing, or to a step of debt reduction that was decided on. -/
theorem resolve_cases {thresholds : Thresholds} {steps : List (Exchange Step)} {action : Action}
    (run : Runs (Action.resolve target.strategy position thresholds now) steps (.ok action)) :
    (∃ reason, action = .idle reason) ∨
      ∃ reduction plan fuseTriggered, action = .reduceDebt reduction ∧
        position.decide thresholds now = .unwind plan fuseTriggered := by
  have resolution := Action.resolution_of_runs run
  generalize position.decide thresholds now = decision at resolution
  cases resolution with
  | idle reason => exact .inl ⟨reason, rfl⟩
  | nothing => exact .inl ⟨.zeroSwapAmount, rfl⟩
  | swapless plan fuse | quoted plan fuse => exact .inr ⟨_, plan, fuse, rfl, rfl⟩

/-- Looking at the debt sends what was decided on. -/
theorem sends_reduceDebt {result : Except StepFailure Outcome}
    (run : Runs (reduceDebt target position now) trace result) :
    Sends target (Unwinds target now position) trace := by
  obtain ⟨answer, _, rfl, continued⟩ := runs_lift_bind_iff.mp run
  cases answer with
  | error failure =>
    obtain ⟨rfl, _⟩ := runs_done_iff.mp continued
    exact .nothing rfl
  | ok thresholds =>
    obtain ⟨_, resolved, rest, rfl, decided, executed⟩ := runs_bind_iff.mp continued
    obtain ⟨steps, resolving, rfl⟩ := runs_ofStep_iff.mp decided
    have quiet : submissions (⟨.step (.thresholds target.strategy), .ok thresholds⟩ ::
        steps.map own) = [] :=
      submissions_own (⟨.thresholds target.strategy, .ok thresholds⟩ :: steps)
    cases resolved with
    | error failure =>
      obtain ⟨rfl, _⟩ := runs_done_iff.mp executed
      exact .nothing (by rw [List.append_nil]; exact quiet)
    | ok action =>
      obtain ⟨reason, rfl⟩ | ⟨reduction, plan, fuseTriggered, rfl, unwinds⟩ :=
        resolve_cases resolving
      · obtain ⟨rfl, _⟩ := runs_done_iff.mp executed
        exact .nothing (by rw [List.append_nil]; exact quiet)
      · have sends : Sends target (fun _ data => data = reduction.calldata) rest :=
          sends_send rfl executed
        exact sends.prepend quiet fun same =>
          ⟨reduction.step, thresholds, plan, fuseTriggered, same, List.mem_cons_self, unwinds⟩

/-- Asking for a pause sends nothing, and asks every splitter there is. -/
theorem runs_pauseOf {answer : Except Failure Bool} (run : Runs (pauseOf target) trace answer) :
    submissions trace = [] ∧ ∀ splitter, target.splitter = some splitter →
      ⟨.step (.isPaused splitter target.strategy), answer⟩ ∈ trace := by
  unfold pauseOf at run
  split at run
  · next none =>
    obtain ⟨rfl, _⟩ := runs_done_iff.mp run
    exact ⟨rfl, by simp [none]⟩
  · next splitter given =>
    obtain rfl := runs_lift_iff.mp run
    refine ⟨rfl, fun other same => ?_⟩
    obtain rfl : splitter = other := Option.some.inj (given.symm.trans same)
    exact List.mem_singleton_self _

/-- A rebalance is sent with a licence, or nothing is sent. Nothing is where the step goes on. -/
theorem sends_rebalance {attempt : Except StepFailure (Option Outcome)}
    (needed : position.needRebalance = true)
    (run : Runs (rebalance settings journal target now) trace (attempt, after)) :
    Sends target (Licensed settings journal.lastRebalance target now position) trace ∧
      (attempt = .ok none → submissions trace = []) := by
  unfold rebalance at run
  split at run
  · next elapsed =>
    obtain ⟨asking, answer, rest, rfl, asked, continued⟩ := runs_bind_iff.mp run
    obtain ⟨quiet, unpaused⟩ := runs_pauseOf asked
    match answer, continued with
    | .error _, continued | .ok true, continued =>
      obtain ⟨rfl, _⟩ := runs_done_iff.mp continued
      rw [List.append_nil]
      exact ⟨.nothing quiet, fun _ => quiet⟩
    | .ok false, continued =>
      obtain ⟨sending, result, _, rfl, sent, finished⟩ := runs_bind_iff.mp continued
      obtain ⟨time, _, rfl, ended⟩ := runs_lift_bind_iff.mp finished
      obtain ⟨rfl, same⟩ := runs_done_iff.mp ended
      have licensed {more : Trace} : Licensed settings journal.lastRebalance target now position
          (asking ++ more) Contract.rebalanceCalldata :=
        .of_rebalance needed elapsed fun splitter given =>
          List.mem_append_left _ (unpaused splitter given)
      have sends : Sends target (fun _ data => data = Contract.rebalanceCalldata) sending :=
        sends_send rfl sent
      refine ⟨(sends.append rfl).prepend quiet fun same => same ▸ licensed, fun skipped => ?_⟩
      rw [skipped] at same
      cases result <;> cases congrArg Prod.fst same
  · obtain ⟨rfl, _⟩ := runs_done_iff.mp run
    exact ⟨.nothing rfl, fun _ => rfl⟩

/-- The debt is looked at only when no rebalance was sent. -/
theorem sends_serve {result : Except StepFailure Outcome}
    (run : Runs (serve settings journal target position now) trace (result, after)) :
    Sends target (Licensed settings journal.lastRebalance target now position) trace := by
  obtain ⟨checking, ⟨attempt, noted⟩, rest, rfl, checked, continued⟩ := runs_bind_iff.mp run
  have ⟨sends, skipped⟩ :
      Sends target (Licensed settings journal.lastRebalance target now position) checking ∧
      (attempt = .ok none → submissions checking = []) := by
    unfold checkRebalance at checked
    split at checked
    · next needed => exact sends_rebalance needed checked
    · obtain ⟨rfl, _⟩ := runs_done_iff.mp checked
      exact ⟨.nothing rfl, fun _ => rfl⟩
  match attempt, continued with
  | .error _, continued | .ok (some _), continued =>
    obtain ⟨rfl, _⟩ := runs_done_iff.mp continued
    rw [List.append_nil]
    exact sends
  | .ok none, continued =>
    -- whatever kept the range as it is, nothing was sent for it
    obtain ⟨_, reduced, _⟩ := runs_bind_done_iff.mp continued
    exact (sends_reduceDebt reduced).prepend (skipped rfl) fun unwinds =>
      (Licensed.of_unwind unwinds).prepend

@[simp] theorem lastRebalance_observe (journal : Journal) (strategy : Address) (needed : Bool)
    (now alertAfter : UInt64) :
    (journal.observe strategy needed now alertAfter).2.lastRebalance = journal.lastRebalance := by
  unfold Journal.observe
  split <;> rfl

/-- Noting a need sends nothing and leaves the cooldown alone. -/
theorem runs_observe {noted : Journal}
    (run : Runs (observe settings journal target position now) trace noted) :
    submissions trace = [] ∧ noted.lastRebalance = journal.lastRebalance := by
  unfold observe at run
  have same := lastRebalance_observe journal target.strategy position.needRebalance now
    settings.stuckAlert
  generalize journal.observe target.strategy position.needRebalance now settings.stuckAlert = seen
    at run same
  obtain ⟨age, later⟩ := seen
  cases age with
  | none =>
    obtain ⟨rfl, rfl⟩ := runs_done_iff.mp run
    exact ⟨rfl, same⟩
  | some age =>
    obtain ⟨_, _, rfl, ended⟩ := runs_lift_bind_iff.mp run
    obtain ⟨rfl, rfl⟩ := runs_done_iff.mp ended
    exact ⟨rfl, same⟩

/-- A step asks for the time, then for the position, and from then on it is gated by what they
were. -/
inductive Gated (settings : KeeperSettings) (lastRebalance : Option UInt64) (target : Target) :
    Trace → Prop
  | unread (now : UInt64) (failure : Failure) :
      Gated settings lastRebalance target
        [⟨.step (.delivery .now), now⟩, ⟨.step (.position target.strategy), .error failure⟩]
  | read (now : UInt64) (position : Position) {rest : Trace}
      (sends : Sends target (Licensed settings lastRebalance target now position) rest) :
      Gated settings lastRebalance target
        (⟨.step (.delivery .now), now⟩ :: ⟨.step (.position target.strategy), .ok position⟩ :: rest)

theorem gated_of_runs {result : Except StepFailure Outcome}
    (run : Runs (process settings journal target) trace (result, after)) :
    Gated settings journal.lastRebalance target trace := by
  obtain ⟨now, _, rfl, started⟩ := runs_lift_bind_iff.mp run
  obtain ⟨answer, rest, rfl, continued⟩ := runs_lift_bind_iff.mp started
  cases answer with
  | error failure =>
    obtain ⟨rfl, _⟩ := runs_done_iff.mp continued
    exact .unread now failure
  | ok position =>
    obtain ⟨observing, noted, serving, rfl, observed, served⟩ := runs_bind_iff.mp continued
    obtain ⟨quiet, same⟩ := runs_observe observed
    have sends : Sends target (Licensed settings journal.lastRebalance target now position)
        (observing ++ serving) :=
      (same ▸ sends_serve served).prepend quiet .prepend
    exact .read now position sends

end

end Task

namespace Keeper

open Program VaultKeeper.Cycle

/-- Along every run, from whatever journal, each step is for a target that the last search before it
found, and it is gated: it hands over one payload at most, to the strategy of its target, and for a
reason that it has read itself. Nothing else is delivered. -/
theorem runFrom_gated {keeper : Keeper} {limit : Nat} {poller : Poller} {journal : Journal}
    {trace : Cycle.Trace} {tallies : List Tally}
    (run : Runs (keeper.runFrom limit poller journal) trace tallies) :
    (∃ pieces, Life keeper limit poller journal pieces trace tallies) ∧
    ∀ pieces, Life keeper limit poller journal pieces trace tallies →
      ∀ front visit steps back, pieces = front ++ .visit visit steps :: back →
        (∃ search, (searches front).getLast? = some search ∧
          search.Finds keeper.vaults visit.target) ∧
        visit.Takes keeper steps ∧
        Task.Gated keeper.settings visit.before.lastRebalance visit.target visit.calls ∧
        ∀ exchange ∈ visit.calls, exchange.call.Plans := by
  refine ⟨life_of_runFrom run, fun pieces life front visit steps back split => ?_⟩
  obtain ⟨taken, found⟩ := life.visited split
  exact ⟨found, taken, Task.gated_of_runs taken.planned,
    Task.calls_process _ _ _ _ _ taken.planned⟩

/-- A keeper of one vault. -/
def lone : Keeper where
  courier := ⟨7, .default, Courier.defaultPolling⟩
  settings := .default
  vaults := [⟨"lone", 3, .uniswapV3, []⟩]

/-- A position that needs a rebalance. -/
def shifted : Position := ⟨1, 2, .off, .off, true, 50, false, 0, 1⟩

/-- The target of `lone`. -/
def loneTarget : Target := ⟨"lone", 3, some 4, 5, .uniswapV3⟩

/-- The search that finds it. -/
def loneSearch : Search where
  vault := ⟨"lone", 3, .uniswapV3, []⟩
  calls := [⟨.splitterOf 3, .ok (some 4)⟩, ⟨.strategiesOf 4, .ok [5]⟩]
  found := .ok [loneTarget]

/-- The journal of `lone` after a rebalance in some cycle. -/
def loneJournal (cycle finished : UInt64) : Journal := ⟨cycle, some finished, [(5, ⟨1000, false⟩)]⟩

/-- What a courier does in a step whose rebalance gets no fee. -/
def unpricedSteps (started finished : UInt64) : List (Exchange Step) :=
  [⟨.delivery .now, started⟩, ⟨.position 5, .ok shifted⟩, ⟨.isPaused 4 5, .ok false⟩,
    ⟨.delivery .offeredFee, .error (.transient .unreachable)⟩, ⟨.delivery .now, finished⟩]

/-- The visit of such a step. -/
def unpricedVisit (before after : Journal) (started finished : UInt64) : Visit where
  target := loneTarget
  before := before
  calls := [Task.own ⟨.delivery .now, started⟩, Task.own ⟨.position 5, .ok shifted⟩,
    Task.own ⟨.isPaused 4 5, .ok false⟩,
    Task.handing 5 Contract.rebalanceCalldata (.error (.transient .unreachable)),
    Task.own ⟨.delivery .now, finished⟩]
  outcome := .error (.chain (.transient .unreachable))
  after := after

/-- Whoever is refused a fee delivers nothing. -/
theorem takes_unpricedVisit {before after : Journal} {started finished : UInt64}
    (planned : Runs (Task.process lone.settings before loneTarget)
      (unpricedVisit before after started finished).calls
      (.error (.chain (.transient .unreachable)), after)) :
    (unpricedVisit before after started finished).Takes lone (unpricedSteps started finished) := by
  have unpriced : Runs (lone.courier.deliver 5 Contract.rebalanceCalldata)
      [⟨.offeredFee, .error (.transient .unreachable)⟩] (.error (.transient .unreachable)) :=
    .call (.done _)
  refine ⟨planned, Task.expands_own_iff.mpr ⟨_, rfl, Task.expands_own_iff.mpr ⟨_, rfl, ?_⟩⟩⟩
  refine Task.expands_own_iff.mpr ⟨_, rfl, Task.expands_handing_iff.mpr ⟨_, _, rfl, unpriced, ?_⟩⟩
  exact Task.expands_own_iff.mpr ⟨_, rfl, .nil⟩

/-- The visit of a first cycle. -/
def firstVisit : Visit :=
  unpricedVisit Journal.empty.beginCycle (loneJournal 1 1001) 1000 1001

theorem takes_firstVisit : firstVisit.Takes lone (unpricedSteps 1000 1001) :=
  takes_unpricedVisit (.call (.call (.call (.call (.call (.done _))))))

/-- A run of this one cycle. -/
def unpricedRun : Cycle.Trace :=
  [look false] ++
    (look false :: ((Piece.search loneSearch).exchanges ++
      look false :: ((Piece.visit firstVisit (unpricedSteps 1000 1001)).exchanges ++ [])) ++
    [⟨.report ⟨1, 1, 1, 0, 0, 0, 1⟩, ()⟩])

theorem runs_unpricedRun :
    Runs (lone.runFrom 1 (Poller.start ⟨60000, none⟩) Journal.empty) unpricedRun
      [⟨1, 1, 1, 0, 0, 0, 1⟩] :=
  .call (.call (.call (.call (.call (.call (.call (.call (.call (.call (.call (.call
    (.done _))))))))))))

theorem life_unpricedRun :
    Life lone 1 (Poller.start ⟨60000, none⟩) Journal.empty
      [.search loneSearch, .visit firstVisit (unpricedSteps 1000 1001)] unpricedRun
      [⟨1, 1, 1, 0, 0, 0, 1⟩] := by
  have ticked : Runs (Poller.start ⟨60000, none⟩).tick [⟨.stopRequested, false⟩]
      (.attempt 1, ⟨⟨60000, none⟩, 1⟩) :=
    .call (.done _)
  have ran : Runs loneSearch.vault.discover loneSearch.calls loneSearch.found :=
    .call (.call (.done _))
  exact .cycle ticked (.search ran (.visit takes_firstVisit rfl (.finished _))) (.spent _ _)

/-- The splitter that was found with the strategy is the one that is asked whether it is paused. -/
theorem runFrom_gated_unpriced :
    Runs (lone.runFrom 1 (Poller.start ⟨60000, none⟩) Journal.empty) unpricedRun
        [⟨1, 1, 1, 0, 0, 0, 1⟩] ∧
      Life lone 1 (Poller.start ⟨60000, none⟩) Journal.empty
        [.search loneSearch, .visit firstVisit (unpricedSteps 1000 1001)] unpricedRun
        [⟨1, 1, 1, 0, 0, 0, 1⟩] ∧
      loneSearch.Finds lone.vaults loneTarget ∧
      Task.Gated lone.settings none loneTarget firstVisit.calls := by
  obtain ⟨⟨search, latest, finds⟩, -, gated, -⟩ := (runFrom_gated runs_unpricedRun).2 _
    life_unpricedRun [.search loneSearch] firstVisit (unpricedSteps 1000 1001) [] rfl
  cases latest
  exact ⟨runs_unpricedRun, life_unpricedRun, finds, gated⟩

end Keeper

end VaultKeeper
