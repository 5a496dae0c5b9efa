import VaultKeeper.Keeper.Cycle
import VaultKeeper.Proofs.Keeper.Task

/-! # The steps of a run

Whatever the keeper does is either a visit, one step for one target, or a call on the side: finding
strategies, watching the clock between cycles, reporting. A `Journey` takes a run apart into its
visits, in their order and with the journal passed on from each to the next. What holds of every
step then holds all along every run.
-/

namespace VaultKeeper.Cycle

open Program

/-- The exchanges of a keeper, oldest first. -/
abbrev Trace := List (Exchange Cycle)

/-- An exchange of a step as part of a cycle. -/
def lift (exchange : Exchange Step) : Exchange Cycle :=
  ⟨.step exchange.call, exchange.answer⟩

/-- An exchange of a search as part of a cycle. -/
def liftRegistry (exchange : Exchange Registry) : Exchange Cycle :=
  ⟨.registry exchange.call, exchange.answer⟩

/-- An exchange of a clock as part of a run. -/
def liftTimer (exchange : Exchange Timer) : Exchange Cycle :=
  ⟨.timer exchange.call, exchange.answer⟩

/-- A call on the side. -/
def Call.isAside : Call → Bool
  | .step (.notify _) | .registry _ | .timer _ | .report _ => true
  | .step _ => false

/-- One step: its target, the journal before it and after, the calls that it makes with deliveries
left to the courier, and what comes of it. -/
structure Visit where
  target : Target
  before : Journal
  calls : Task.Trace
  outcome : Except StepFailure Outcome
  after : Journal

/-- The visit is a run of a step, and `trace` is what it takes once the courier carries the
deliveries out. -/
structure Visit.Takes (keeper : Keeper) (visit : Visit) (trace : List (Exchange Step)) : Prop where
  planned : Runs (Task.process keeper.settings visit.before visit.target) visit.calls
    (visit.outcome, visit.after)
  carriedOut : Expands (Task.carryOut keeper.courier) visit.calls trace

/-- The visits that some exchanges are made of, with the journal before and after them. -/
inductive Journey (keeper : Keeper) : Journal → List Visit → Trace → Journal → Prop
  | nil (journal : Journal) : Journey keeper journal [] [] journal
  | begin {journal after : Journal} {visits : List Visit} {trace : Trace}
      (rest : Journey keeper journal.beginCycle visits trace after) :
      Journey keeper journal visits trace after
  | aside {journal after : Journal} {visits : List Visit} {trace : Trace}
      {exchange : Exchange Cycle} (own : exchange.call.isAside = true)
      (rest : Journey keeper journal visits trace after) :
      Journey keeper journal visits (exchange :: trace) after
  | visit {visit : Visit} {after : Journal} {visits : List Visit} {steps : List (Exchange Step)}
      {trace : Trace} (taken : visit.Takes keeper steps)
      (rest : Journey keeper visit.after visits trace after) :
      Journey keeper visit.before (visit :: visits) (steps.map lift ++ trace) after

namespace Journey

variable {keeper : Keeper} {source middle target : Journal} {early late : List Visit}
  {first second : Trace}

theorem append (left : Journey keeper source early first middle)
    (right : Journey keeper middle late second target) :
    Journey keeper source (early ++ late) (first ++ second) target := by
  induction left with
  | nil => exact right
  | begin _ ih => exact .begin (ih right)
  | aside own _ ih => exact .aside own (ih right)
  | visit taken _ ih =>
    rw [List.append_assoc]
    exact .visit taken (ih right)

/-- Calls on the side visit nobody. -/
theorem behind (asides : ∀ exchange ∈ first, exchange.call.isAside = true)
    (rest : Journey keeper source late second target) :
    Journey keeper source late (first ++ second) target := by
  induction first with
  | nil => exact rest
  | cons exchange first ih =>
    exact .aside (asides exchange List.mem_cons_self)
      (ih fun other member => asides other (List.mem_cons_of_mem _ member))

end Journey

section

variable {keeper : Keeper} {α : Type} {trace : Trace}

theorem runs_ofStep_iff {program : Program Step α} {a : α} :
    Runs (ofStep program) trace a ↔ ∃ steps, Runs program steps a ∧ trace = steps.map lift :=
  runs_relabel_iff fun _ _ _ => runs_ask_iff

theorem runs_ofRegistry_iff {program : Program Registry α} {a : α} :
    Runs (ofRegistry program) trace a ↔
      ∃ calls, Runs program calls a ∧ trace = calls.map liftRegistry :=
  runs_relabel_iff fun _ _ _ => runs_ask_iff

theorem runs_ofTimer_iff {program : Program Timer α} {a : α} :
    Runs (ofTimer program) trace a ↔ ∃ calls, Runs program calls a ∧ trace = calls.map liftTimer :=
  runs_relabel_iff fun _ _ _ => runs_ask_iff

theorem asides_ofRegistry {program : Program Registry α} {a : α}
    (run : Runs (ofRegistry program) trace a) :
    ∀ exchange ∈ trace, exchange.call.isAside = true := by
  obtain ⟨calls, _, rfl⟩ := runs_ofRegistry_iff.mp run
  simp [liftRegistry, Call.isAside]

theorem asides_ofTimer {program : Program Timer α} {a : α}
    (run : Runs (ofTimer program) trace a) : ∀ exchange ∈ trace, exchange.call.isAside = true := by
  obtain ⟨calls, _, rfl⟩ := runs_ofTimer_iff.mp run
  simp [liftTimer, Call.isAside]

/-- One step of a cycle is one visit to its target. -/
theorem journey_process {state later : State} {target : Target}
    (run : Runs (ofStep (process keeper state target)) trace later) :
    ∃ visit, visit.target = target ∧
      Journey keeper state.journal [visit] trace later.journal := by
  obtain ⟨steps, ran, rfl⟩ := runs_ofStep_iff.mp run
  obtain ⟨stepping, ⟨result, journal⟩, rest, rfl, stepped, continued⟩ := runs_bind_iff.mp ran
  obtain ⟨calls, planned, carriedOut⟩ := runs_interpret_iff.mp stepped
  let visit : Visit := ⟨target, state.journal, calls, result, journal⟩
  have taken : visit.Takes keeper stepping := ⟨planned, carriedOut⟩
  refine ⟨visit, rfl, ?_⟩
  rw [List.map_append]
  refine .visit taken ?_
  cases result with
  | ok outcome =>
    obtain ⟨rfl, rfl⟩ := runs_done_iff.mp continued
    exact .nil journal
  | error failure =>
    obtain ⟨_, _, rfl, ended⟩ := runs_ask_bind_iff.mp continued
    obtain ⟨rfl, rfl⟩ := runs_done_iff.mp ended
    exact .aside rfl (.nil journal)

theorem journey_processAll {state : State} {targets : List Target} {answer : Bool × State}
    (run : Runs (processAll keeper state targets) trace answer) :
    ∃ visits, Journey keeper state.journal visits trace answer.2.journal := by
  induction targets generalizing state trace with
  | nil =>
    obtain ⟨rfl, rfl⟩ := runs_done_iff.mp run
    exact ⟨[], .nil _⟩
  | cons target targets ih =>
    obtain ⟨stopped, rest, rfl, continued⟩ := runs_ask_bind_iff.mp run
    cases stopped with
    | true =>
      obtain ⟨rfl, rfl⟩ := runs_done_iff.mp continued
      exact ⟨[], .aside rfl (.nil _)⟩
    | false =>
      obtain ⟨visiting, later, others, rfl, processed, remaining⟩ := runs_bind_iff.mp continued
      obtain ⟨visit, _, visited⟩ := journey_process processed
      obtain ⟨visits, onward⟩ := ih remaining
      exact ⟨visit :: visits, .aside rfl (visited.append onward)⟩

theorem journey_visitAll {state later : State} {vaults : List Vault}
    (run : Runs (visitAll keeper state vaults) trace later) :
    ∃ visits, Journey keeper state.journal visits trace later.journal := by
  induction vaults generalizing state trace with
  | nil =>
    obtain ⟨rfl, rfl⟩ := runs_done_iff.mp run
    exact ⟨[], .nil _⟩
  | cons vault vaults ih =>
    obtain ⟨stopped, rest, rfl, continued⟩ := runs_ask_bind_iff.mp run
    cases stopped with
    | true =>
      obtain ⟨rfl, rfl⟩ := runs_done_iff.mp continued
      exact ⟨[], .aside rfl (.nil _)⟩
    | false =>
      obtain ⟨finding, found, others, rfl, discovered, remaining⟩ := runs_bind_iff.mp continued
      cases found with
      | error failure =>
        obtain ⟨_, others, rfl, visited⟩ := runs_ask_bind_iff.mp remaining
        obtain ⟨visits, onward⟩ := ih visited
        exact ⟨visits, .aside rfl (.behind (asides_ofRegistry discovered) (.aside rfl onward))⟩
      | ok targets =>
        obtain ⟨visiting, ⟨stopped, later⟩, others, rfl, processed, visited⟩ :=
          runs_bind_iff.mp remaining
        obtain ⟨early, through⟩ := journey_processAll processed
        cases stopped with
        | true =>
          obtain ⟨rfl, rfl⟩ := runs_done_iff.mp visited
          rw [List.append_nil]
          exact ⟨early, .aside rfl (.behind (asides_ofRegistry discovered) through)⟩
        | false =>
          obtain ⟨late, onward⟩ := ih visited
          exact ⟨early ++ late, .aside rfl
            (.behind (asides_ofRegistry discovered) (through.append onward))⟩

theorem journey_cycle {journal : Journal} {answer : Tally × Journal}
    (run : Runs (keeper.cycle journal) trace answer) :
    ∃ visits, Journey keeper journal visits trace answer.2 := by
  obtain ⟨later, visited, rfl⟩ := runs_bind_done_iff.mp run
  obtain ⟨visits, journey⟩ := journey_visitAll visited
  exact ⟨visits, .begin journey⟩

/-- Cycles one after another, each with the journal that the one before it left; between them there
are calls on the side. -/
inductive Cycles (keeper : Keeper) : Journal → Trace → Journal → Prop
  | nil (journal : Journal) : Cycles keeper journal [] journal
  | aside {journal after : Journal} {trace : Trace} {exchange : Exchange Cycle}
      (own : exchange.call.isAside = true) (rest : Cycles keeper journal trace after) :
      Cycles keeper journal (exchange :: trace) after
  | cycle {journal middle after : Journal} {tally : Tally} {first second : Trace}
      (run : Runs (keeper.cycle journal) first (tally, middle))
      (rest : Cycles keeper middle second after) : Cycles keeper journal (first ++ second) after

theorem Cycles.behind {journal after : Journal} {first : Trace}
    (asides : ∀ exchange ∈ first, exchange.call.isAside = true)
    (rest : Cycles keeper journal trace after) : Cycles keeper journal (first ++ trace) after := by
  induction first with
  | nil => exact rest
  | cons exchange first ih =>
    exact .aside (asides exchange List.mem_cons_self)
      (ih fun other member => asides other (List.mem_cons_of_mem _ member))

theorem Cycles.journey {journal after : Journal} (cycles : Cycles keeper journal trace after) :
    ∃ visits, Journey keeper journal visits trace after := by
  induction cycles with
  | nil journal => exact ⟨[], .nil journal⟩
  | aside own _ ih =>
    obtain ⟨visits, journey⟩ := ih
    exact ⟨visits, .aside own journey⟩
  | cycle run _ ih =>
    obtain ⟨early, through⟩ := journey_cycle run
    obtain ⟨late, onward⟩ := ih
    exact ⟨early ++ late, through.append onward⟩

/-- Every run, from whatever journal, is made of cycles. -/
theorem cycles_runFrom {limit : Nat} {poller : Poller} {journal : Journal} {tallies : List Tally}
    (run : Runs (keeper.runFrom limit poller journal) trace tallies) :
    ∃ after, Cycles keeper journal trace after := by
  induction limit generalizing poller journal trace tallies with
  | zero =>
    obtain ⟨rfl, rfl⟩ := runs_done_iff.mp run
    exact ⟨journal, .nil journal⟩
  | succ limit ih =>
    obtain ⟨ticking, ⟨step, poller⟩, rest, rfl, ticked, continued⟩ := runs_bind_iff.mp run
    cases step with
    | attempt number =>
      obtain ⟨cycling, ⟨tally, later⟩, others, rfl, cycled, remaining⟩ :=
        runs_bind_iff.mp continued
      obtain ⟨_, onward, rfl, again⟩ := runs_ask_bind_iff.mp remaining
      obtain ⟨_, followed, _⟩ := runs_bind_done_iff.mp again
      obtain ⟨after, further⟩ := ih followed
      exact ⟨after, .behind (asides_ofTimer ticked) (.cycle cycled (.aside rfl further))⟩
    | exhausted | cancelled =>
      obtain ⟨rfl, _⟩ := runs_done_iff.mp continued
      exact ⟨journal, .behind (asides_ofTimer ticked) (.nil journal)⟩

/-- Every run, from whatever journal, is a journey. -/
theorem journey_runFrom {limit : Nat} {poller : Poller} {journal : Journal} {tallies : List Tally}
    (run : Runs (keeper.runFrom limit poller journal) trace tallies) :
    ∃ visits after, Journey keeper journal visits trace after := by
  obtain ⟨after, cycles⟩ := cycles_runFrom run
  obtain ⟨visits, journey⟩ := cycles.journey
  exact ⟨visits, after, journey⟩

end

end VaultKeeper.Cycle
