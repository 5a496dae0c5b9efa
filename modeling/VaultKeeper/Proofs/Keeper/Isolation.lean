import VaultKeeper.Proofs.Keeper.Cooldown
import VaultKeeper.Proofs.Keeper.Episodes
import VaultKeeper.Proofs.Keeper.Notices
import VaultKeeper.Proofs.Service.Account

/-! # What a failure leaves alone

Whatever fails in a cycle, all the other targets are served as if it had not. And a step that hands
nothing over leaves no trace but in what is remembered of its own strategy: neither in the journal
nor in the account that transactions are sent from.
-/

namespace VaultKeeper

namespace Journal

/-- The journals agree on the cycle and on the episodes of all strategies but one. -/
structure SameBut (strategy : Address) (before after : Journal) : Prop where
  cycle : after.cycle = before.cycle
  episodes : ∀ other, other ≠ strategy → after.episode? other = before.episode? other

variable {strategy : Address} {journal : Journal}

/-- Noting a need says nothing about other strategies. -/
theorem sameBut_observe (needed : Bool) (now alertAfter : UInt64) :
    SameBut strategy journal (journal.observe strategy needed now alertAfter).2 := by
  refine ⟨?_, fun other different => episode?_observe_other different⟩
  unfold observe
  split <;> rfl

end Journal

namespace Task

open Program

section

variable {settings : KeeperSettings} {journal noted after : Journal} {target : Target}
  {now : UInt64} {position : Position} {trace : Trace} {result : Except StepFailure Outcome}

/-- Observing leaves behind what the journal makes of the observation. -/
theorem journal_of_observe
    (run : Runs (observe settings journal target position now) trace noted) :
    noted = (journal.observe target.strategy position.needRebalance now settings.stuckAlert).2 := by
  unfold observe at run
  generalize journal.observe target.strategy position.needRebalance now settings.stuckAlert =
    seen at run ⊢
  obtain ⟨age, later⟩ := seen
  cases age with
  | none => exact (runs_done_iff.mp run).2
  | some age =>
    obtain ⟨_, _, rfl, ended⟩ := runs_lift_bind_iff.mp run
    exact (runs_done_iff.mp ended).2

/-- Serving a target moves the record of the last rebalance at most. -/
theorem kept_of_serve
    (run : Runs (serve settings journal target position now) trace (result, after)) :
    after.cycle = journal.cycle ∧ after.episodes = journal.episodes := by
  obtain ⟨checking, ⟨attempt, noted⟩, rest, rfl, checked, continued⟩ := runs_bind_iff.mp run
  have kept : noted.cycle = journal.cycle ∧ noted.episodes = journal.episodes := by
    cases attempt_of_runs checked with
    | skipped => exact ⟨rfl, rfl⟩
    | made => exact ⟨rfl, rfl⟩
  match attempt, continued with
  | .error _, continued | .ok (some _), continued =>
    obtain ⟨_, same⟩ := runs_done_iff.mp continued
    cases same
    exact kept
  | .ok none, continued =>
    obtain ⟨_, _, same⟩ := runs_bind_done_iff.mp continued
    cases same
    exact kept

/-- A step notes something about its own strategy only. -/
theorem sameBut_of_process
    (run : Runs (process settings journal target) trace (result, after)) :
    journal.SameBut target.strategy after := by
  obtain ⟨_, _, _, rfl, _⟩ | ⟨now, position, _, noted, _, _, observed, served⟩ := process_cases run
  · exact ⟨rfl, fun _ _ => rfl⟩
  · obtain ⟨cycle, episodes⟩ := kept_of_serve served
    have same : journal.SameBut target.strategy noted := by
      rw [journal_of_observe observed]
      exact journal.sameBut_observe _ _ _
    refine ⟨cycle.trans same.cycle, fun other different => ?_⟩
    rw [← same.episodes other different, Journal.episode?, Journal.episode?, episodes]

/-- A step that hands nothing over keeps the record of the last rebalance. -/
theorem lastRebalance_of_process (unsent : submissions trace = [])
    (run : Runs (process settings journal target) trace (result, after)) :
    after.lastRebalance = journal.lastRebalance := by
  have cooling := cooling_of_runs run
  generalize after.lastRebalance = last at cooling ⊢
  cases cooling with
  | kept => rfl
  | recorded started finished elapsed before outcome quiet =>
    rw [← List.cons_append, submissions_append] at unsent
    have handed := (List.append_eq_nil_iff.mp unsent).2
    cases handed

/-- Where nothing is handed over there is nothing for a courier to do. -/
theorem eq_own_of_expands {courier : Courier} {calls : Trace} {steps : List (Exchange Step)}
    (unsent : submissions calls = []) (expands : Expands (carryOut courier) calls steps) :
    calls = steps.map own := by
  induction calls generalizing steps with
  | nil =>
    cases expands
    rfl
  | cons exchange calls ih =>
    obtain ⟨call, answer⟩ := exchange
    cases call with
    | step call =>
      change Expands _ (own ⟨call, answer⟩ :: calls) steps at expands
      obtain ⟨rest, rfl, expanded⟩ := expands_own_iff.mp expands
      rw [ih unsent expanded]
      rfl
    | deliver receiver data => cases unsent

end

end Task

namespace Cycle

open Program

variable {keeper : Keeper} {visit : Visit} {steps : List (Exchange Step)}

/-- All the exchanges of a visit that hands nothing over only read and tell. -/
theorem plans_of_takes (unsent : Task.submissions visit.calls = [])
    (taken : visit.Takes keeper steps) :
    ∀ step ∈ steps ++ visit.complaints.map telling, Task.Call.Plans (.step step.call) := by
  refine List.forall_mem_append.mpr ⟨fun step member => ?_, fun step member => ?_⟩
  · have same := Task.eq_own_of_expands unsent taken.carriedOut
    have listed : Task.own step ∈ visit.calls := same ▸ List.mem_map_of_mem member
    exact Task.calls_process _ _ _ _ _ taken.planned _ listed
  · obtain ⟨message, _, rfl⟩ := List.mem_map.mp member
    trivial

/-- What a step keeps: something always, and all but its own episode if it hands nothing over. -/
structure Isolated (visit : Visit) (steps : List (Exchange Step)) : Prop where
  others : visit.before.SameBut visit.target.strategy visit.after
  lastRebalance : Task.submissions visit.calls = [] →
    visit.after.lastRebalance = visit.before.lastRebalance
  sender : Task.submissions visit.calls = [] →
    ∀ (service : Service) (before after : ServiceState) (hosted : List (Exchange Host)),
      Threads service.onCycle before (Piece.visit visit steps).exchanges hosted after →
      after.sender = before.sender
  idle : ∀ reason, visit.outcome = .ok (.idle reason) → Task.submissions visit.calls = []
  refused : Task.refusals visit.calls ≠ [] → Task.submissions visit.calls = []

theorem isolated_of_takes (taken : visit.Takes keeper steps) : Isolated visit steps := by
  obtain ⟨idle, refused⟩ := Task.unsent_of_process taken.planned
  refine ⟨Task.sameBut_of_process taken.planned, fun unsent => ?_, fun unsent => ?_, idle, refused⟩
  · exact Task.lastRebalance_of_process unsent taken.planned
  · intro service before after hosted threads
    exact Service.sender_of_threads (plans_of_takes unsent taken) threads

section

variable {state later : State} {targets : List Target} {vaults : List Vault}
  {pieces : List Piece} {trace : Trace}

/-- A cycle that is never asked to stop searches all its vaults, and serves all the targets that are
on its agenda and all that it finds. -/
theorem Round.agenda (round : Round keeper state targets vaults pieces trace later)
    (calm : look true ∉ trace) :
    (searches pieces).map Search.vault = vaults ∧
      (visits pieces).map Visit.target = targets ++ (searches pieces).flatMap Search.targets := by
  induction round with
  | finished => exact ⟨rfl, rfl⟩
  | stopped => exact absurd (List.mem_singleton_self _) calm
  | search _ _ ih =>
    have quiet := fun member => calm (List.mem_cons_of_mem _ (List.mem_append_right _ member))
    obtain ⟨searched, served⟩ := ih quiet
    rw [searches_search, visits_search, List.map_cons, List.flatMap_cons, searched, served]
    exact ⟨rfl, rfl⟩
  | visit _ _ _ ih =>
    have quiet := fun member => calm (List.mem_cons_of_mem _ (List.mem_append_right _ member))
    obtain ⟨searched, served⟩ := ih quiet
    rw [searches_visit, visits_visit, List.map_cons, searched, served]
    exact ⟨rfl, rfl⟩

end

end Cycle

namespace Keeper

open Program VaultKeeper.Cycle VaultKeeper.Task

/-- A cycle that is never asked to stop serves just the targets that its searches find, in their
order and whatever fails; and no step interferes with another strategy, nor with anything that is
shared as long as it hands nothing over. -/
theorem cycle_isolated {keeper : Keeper} {journal after : Journal} {trace : Cycle.Trace}
    {tally : Tally} (run : Runs (keeper.cycle journal) trace (tally, after)) :
    (∃ pieces, Round keeper (State.opening journal) [] keeper.vaults pieces trace ⟨tally, after⟩) ∧
    ∀ pieces, Round keeper (State.opening journal) [] keeper.vaults pieces trace ⟨tally, after⟩ →
      (look true ∉ trace →
        (searches pieces).map Search.vault = keeper.vaults ∧
        (visits pieces).map Visit.target = (searches pieces).flatMap Search.targets) ∧
      ∀ visit steps, .visit visit steps ∈ pieces → Isolated visit steps := by
  refine ⟨round_of_cycle run, fun pieces round => ⟨round.agenda, fun visit steps member => ?_⟩⟩
  exact isolated_of_takes (round.takes visit steps member)

/-- Two vaults, of which the first cannot be searched. -/
def dim : Keeper :=
  { lone with vaults := ⟨"dark", 6, .uniswapV3, []⟩ :: lone.vaults }

/-- The target of a strategy of the second vault. -/
def dimTarget (strategy : Address) : Target := ⟨"lone", 3, some 4, strategy, .uniswapV3⟩

/-- A search that fails, and one that finds two strategies. -/
def dimSearches : List Search :=
  [⟨⟨"dark", 6, .uniswapV3, []⟩, [⟨.splitterOf 6, .error (.transient .unreachable)⟩],
      .error (.transient .unreachable)⟩,
    ⟨⟨"lone", 3, .uniswapV3, []⟩,
      [⟨.splitterOf 3, .ok (some 4)⟩, ⟨.strategiesOf 4, .ok [5, 8]⟩],
      .ok [dimTarget 5, dimTarget 8]⟩]

/-- What a step does whose position cannot be read. -/
def dimSteps (strategy : Address) : List (Exchange Step) :=
  [⟨.delivery .now, 1000⟩, ⟨.position strategy, .error (.transient .unreachable)⟩]

/-- The visit of such a step. -/
def dimVisit (strategy : Address) : Visit where
  target := dimTarget strategy
  before := ⟨1, none, []⟩
  calls := (dimSteps strategy).map own
  outcome := .error (.chain (.transient .unreachable))
  after := ⟨1, none, []⟩

/-- The pieces of a cycle in which everything fails that can be read. -/
def dimPieces : List Piece :=
  dimSearches.map .search ++ [.visit (dimVisit 5) (dimSteps 5), .visit (dimVisit 8) (dimSteps 8)]

/-- Such a cycle. -/
def dimTurn : Cycle.Trace :=
  dimPieces.flatMap fun piece => look false :: piece.exchanges

theorem runs_dimTurn :
    Runs (dim.cycle Journal.empty) dimTurn (⟨1, 1, 2, 0, 0, 0, 3⟩, ⟨1, none, []⟩) :=
  .call (.call (.call (.call (.call (.call (.call (.call (.call (.call (.call (.call (.call (.call
    (.done _))))))))))))))

theorem takes_dimVisit (strategy : Address) :
    (dimVisit strategy).Takes dim (dimSteps strategy) where
  planned := .call (.call (.done _))
  carriedOut := expands_own_iff.mpr ⟨_, rfl, expands_own_iff.mpr ⟨_, rfl, .nil⟩⟩

theorem round_dimTurn :
    Round dim (State.opening Journal.empty) [] dim.vaults dimPieces dimTurn
      ⟨⟨1, 1, 2, 0, 0, 0, 3⟩, ⟨1, none, []⟩⟩ := by
  have blind : Runs dimSearches[0].vault.discover dimSearches[0].calls dimSearches[0].found :=
    .call (.done _)
  have sighted : Runs dimSearches[1].vault.discover dimSearches[1].calls dimSearches[1].found :=
    .call (.call (.done _))
  exact .search blind (.search sighted
    (.visit (takes_dimVisit 5) rfl (.visit (takes_dimVisit 8) rfl (.finished _))))

/-- The strategies of the second vault are both served, though the first vault cannot be searched
and neither of them can be read. -/
theorem cycle_isolated_dim :
    Runs (dim.cycle Journal.empty) dimTurn (⟨1, 1, 2, 0, 0, 0, 3⟩, ⟨1, none, []⟩) ∧
      look true ∉ dimTurn ∧
      (searches dimPieces).map Search.vault = dim.vaults ∧
      (visits dimPieces).map Visit.target = [dimTarget 5, dimTarget 8] ∧
      Task.submissions (dimVisit 5).calls = [] ∧
      Isolated (dimVisit 5) (dimSteps 5) := by
  have calm : look true ∉ dimTurn := by
    simp [dimTurn, dimPieces, dimSearches, Piece.exchanges, look, lift, liftRegistry]
  obtain ⟨agenda, isolated⟩ := (cycle_isolated runs_dimTurn).2 dimPieces round_dimTurn
  obtain ⟨searched, served⟩ := agenda calm
  exact ⟨runs_dimTurn, calm, searched, served, rfl, isolated _ (dimSteps 5) (by simp [dimPieces])⟩

end Keeper

end VaultKeeper
