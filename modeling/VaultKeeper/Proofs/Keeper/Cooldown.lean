import VaultKeeper.Proofs.Keeper.Gate

/-! # Rebalances keep their distance

A step looks at the clock first and rebalances only if the last rebalance that it knows of lies far
enough in the past. After a rebalance, whatever came of it, the time is read again and kept. So on a
clock that never goes back any two rebalances of a run are a cooldown apart, from the end of the one
to the start of the other.
-/

namespace VaultKeeper

namespace Task

open Program

/-- The calls that hand over a rebalance. -/
def Call.Rebalances : Call → Prop
  | .deliver _ data => data = Contract.rebalanceCalldata
  | .step _ => False

/-- An exchange that hands over a rebalance for a target. -/
def rebalancing (target : Target) (outcome : Except Failure Receipt) : Exchange Task :=
  handing target.strategy Contract.rebalanceCalldata outcome

/-- An exchange that reads the clock. -/
def reading (time : UInt64) : Exchange Task :=
  own ⟨.delivery .now, time⟩

/-- What a step does about the cooldown: its exchanges, between the last rebalance that is known
before it and after it. -/
inductive Cooling (settings : KeeperSettings) (target : Target) (last : Option UInt64) :
    Trace → Option UInt64 → Prop
  | kept {trace : Trace} (none : ∀ exchange ∈ trace, ¬ exchange.call.Rebalances) :
      Cooling settings target last trace last
  | recorded (started finished : UInt64) {reads reports : Trace}
      (elapsed : ∀ time, last = some time →
        settings.rebalanceCooldown.toNat ≤ started.toNat - time.toNat)
      (before : submissions reads = []) (outcome : Except Failure Receipt)
      (after : submissions reports = []) :
      Cooling settings target last
        (reading started ::
          (reads ++ rebalancing target outcome :: (reports ++ [reading finished])))
        (some finished)

section

variable {settings : KeeperSettings} {journal after : Journal} {target : Target} {now : UInt64}
  {position : Position} {trace : Trace}

theorem not_rebalances_of_submissions (quiet : submissions trace = []) :
    ∀ exchange ∈ trace, ¬ exchange.call.Rebalances := by
  rintro ⟨call, answer⟩ member
  have unsubmitted := List.filterMap_eq_nil_iff.mp quiet _ member
  cases call with
  | step => exact id
  | deliver => cases unsubmitted

/-- Debt reduction hands over no rebalance. -/
theorem not_rebalances_of_unwinds (sends : Sends target (Unwinds target now position) trace) :
    ∀ exchange ∈ trace, ¬ exchange.call.Rebalances := by
  cases sends with
  | nothing quiet => exact not_rebalances_of_submissions quiet
  | once unwinds outcome first last =>
    obtain ⟨step, _, _, _, rfl, _, _⟩ := unwinds
    intro exchange member
    rcases List.mem_append.mp member with member | member
    · exact not_rebalances_of_submissions first exchange member
    · rcases List.mem_cons.mp member with rfl | member
      · exact step.calldata_ne
      · exact not_rebalances_of_submissions last exchange member

/-- How a rebalance is attempted: not at all, or to its end and with a record of it. -/
inductive Attempt (settings : KeeperSettings) (journal : Journal) (target : Target)
    (now : UInt64) : Trace → Except StepFailure (Option Outcome) → Journal → Prop
  | skipped {trace : Trace} {attempt : Except StepFailure (Option Outcome)}
      (quiet : submissions trace = []) : Attempt settings journal target now trace attempt journal
  | made {reads reports : Trace} {attempt : Except StepFailure (Option Outcome)}
      (elapsed : journal.cooldownElapsed now settings.rebalanceCooldown = true)
      (before : submissions reads = []) (outcome : Except Failure Receipt)
      (after : submissions reports = []) (finished : UInt64) (ended : attempt ≠ .ok none) :
      Attempt settings journal target now
        (reads ++ rebalancing target outcome :: (reports ++ [reading finished])) attempt
        (journal.recordRebalance finished)

theorem attempt_of_runs {attempt : Except StepFailure (Option Outcome)}
    (run : Runs (checkRebalance settings journal target position now) trace (attempt, after)) :
    Attempt settings journal target now trace attempt after := by
  unfold checkRebalance at run
  split at run
  · unfold rebalance at run
    split at run
    · next elapsed =>
      obtain ⟨asking, answer, rest, rfl, asked, continued⟩ := runs_bind_iff.mp run
      obtain ⟨quiet, -⟩ := runs_pauseOf asked
      match answer, continued with
      | .error _, continued | .ok true, continued =>
        obtain ⟨rfl, same⟩ := runs_done_iff.mp continued
        cases same
        rw [List.append_nil]
        exact .skipped quiet
      | .ok false, continued =>
        obtain ⟨sending, result, _, rfl, sent, finishing⟩ := runs_bind_iff.mp continued
        obtain ⟨finished, _, rfl, ended⟩ := runs_lift_bind_iff.mp finishing
        obtain ⟨rfl, same⟩ := runs_done_iff.mp ended
        obtain ⟨outcome, reports, rfl, silent⟩ := runs_send sent
        cases same
        refine .made elapsed quiet outcome silent finished fun skipped => ?_
        cases result <;> cases skipped
    · obtain ⟨rfl, same⟩ := runs_done_iff.mp run
      cases same
      exact .skipped rfl
  · obtain ⟨rfl, same⟩ := runs_done_iff.mp run
    cases same
    exact .skipped rfl

/-- A step keeps the record of the last rebalance, or makes a rebalance after the cooldown and
records it. -/
theorem cooling_of_runs {result : Except StepFailure Outcome}
    (run : Runs (process settings journal target) trace (result, after)) :
    Cooling settings target journal.lastRebalance trace after.lastRebalance := by
  obtain ⟨now, _, rfl, started⟩ := runs_lift_bind_iff.mp run
  obtain ⟨answer, rest, rfl, continued⟩ := runs_lift_bind_iff.mp started
  cases answer with
  | error failure =>
    obtain ⟨rfl, same⟩ := runs_done_iff.mp continued
    cases same
    exact .kept (not_rebalances_of_submissions rfl)
  | ok position =>
    obtain ⟨observing, noted, serving, rfl, observed, served⟩ := runs_bind_iff.mp continued
    obtain ⟨unsent, same⟩ := runs_observe observed
    obtain ⟨checking, ⟨attempt, noted'⟩, rest, rfl, checked, resumed⟩ := runs_bind_iff.mp served
    rw [← same]
    cases attempt_of_runs checked with
    | skipped quiet =>
      have early : submissions (reading now :: ⟨.step (.position target.strategy), .ok position⟩ ::
          (observing ++ checking)) = [] := by
        change submissions (observing ++ checking) = []
        rw [submissions_append, unsent, quiet]
        rfl
      match attempt, resumed with
      | .error _, resumed | .ok (some _), resumed =>
        obtain ⟨rfl, ended⟩ := runs_done_iff.mp resumed
        cases ended
        rw [List.append_nil]
        exact .kept (not_rebalances_of_submissions early)
      | .ok none, resumed =>
        obtain ⟨_, reduced, ended⟩ := runs_bind_done_iff.mp resumed
        cases ended
        rw [← List.append_assoc]
        refine .kept (List.forall_mem_append.mpr ⟨not_rebalances_of_submissions early, ?_⟩)
        exact not_rebalances_of_unwinds (sends_reduceDebt reduced)
    | @made reads reports _ elapsed before outcome quiet finished ended =>
      have early : submissions
          (⟨.step (.position target.strategy), .ok position⟩ :: (observing ++ reads)) = [] := by
        change submissions (observing ++ reads) = []
        rw [submissions_append, unsent, before]
        rfl
      have recorded : Cooling settings target noted.lastRebalance _ (some finished) :=
        .recorded now finished (fun time known => noted.cooldown_le elapsed known) early outcome
          quiet
      -- a rebalance that was made leaves nothing more to do
      match attempt, ended, resumed with
      | .ok none, ended, _ => exact absurd rfl ended
      | .error _, _, resumed | .ok (some _), _, resumed =>
        obtain ⟨rfl, ended⟩ := runs_done_iff.mp resumed
        cases ended
        rw [List.append_nil, ← List.append_assoc]
        exact recorded

end

/-- An exchange, with the times in unix seconds at which it starts and is over. -/
structure Phase where
  exchange : Exchange Task
  start : Nat
  finish : Nat

/-- The phase hands over a rebalance. -/
def Phase.Rebalances (phase : Phase) : Prop :=
  phase.exchange.call.Rebalances

/-- Phases on a clock that never goes back. Whoever reads the clock is told a time between the
start and the end of the reading. -/
structure Timeline (phases : List Phase) : Prop where
  lasts : ∀ phase ∈ phases, phase.start ≤ phase.finish
  reads : ∀ phase ∈ phases, ∀ time : UInt64, phase.exchange = reading time →
    phase.start ≤ time.toNat ∧ time.toNat ≤ phase.finish
  ordered : phases.Pairwise fun earlier later => earlier.finish ≤ later.start

/-- The last rebalance that is known of lies at a time or after it. -/
def KnownSince (last : Option UInt64) (time : Nat) : Prop :=
  ∃ recorded : UInt64, last = some recorded ∧ time ≤ recorded.toNat

section

variable {settings : KeeperSettings} {target : Target} {last next : Option UInt64} {trace : Trace}
  {phases first second : List Phase}

theorem Timeline.of_append (timeline : Timeline (first ++ second)) :
    Timeline first ∧ Timeline second ∧
      ∀ earlier ∈ first, ∀ later ∈ second, earlier.finish ≤ later.start := by
  obtain ⟨before, after, across⟩ := List.pairwise_append.mp timeline.ordered
  obtain ⟨short, long⟩ := List.forall_mem_append.mp timeline.lasts
  obtain ⟨early, late⟩ := List.forall_mem_append.mp timeline.reads
  exact ⟨⟨short, early, before⟩, ⟨long, late, after⟩, across⟩

theorem not_rebalances_of_map (same : phases.map Phase.exchange = trace)
    (none : ∀ exchange ∈ trace, ¬ exchange.call.Rebalances) :
    ∀ phase ∈ phases, ¬ phase.Rebalances := by
  intro phase member
  exact none _ (same ▸ List.mem_map_of_mem member)

theorem pairwise_of_not_rebalances (quiet : ∀ phase ∈ phases, ¬ phase.Rebalances) :
    phases.Pairwise fun earlier later => earlier.Rebalances → ¬ later.Rebalances := by
  apply List.pairwise_of_forall_mem_list
  intro earlier member later _ rebalances
  exact absurd rebalances (quiet earlier member)

section

variable {delivery : Phase} (quiet : ∀ phase ∈ first, ¬ phase.Rebalances)
  (silent : ∀ phase ∈ second, ¬ phase.Rebalances)

include quiet silent

theorem eq_of_rebalances :
    ∀ phase ∈ first ++ delivery :: second, phase.Rebalances → phase = delivery := by
  intro phase member rebalances
  rcases List.mem_append.mp member with member | member
  · exact absurd rebalances (quiet phase member)
  · rcases List.mem_cons.mp member with same | member
    · exact same
    · exact absurd rebalances (silent phase member)

theorem pairwise_around :
    (first ++ delivery :: second).Pairwise fun earlier later =>
      earlier.Rebalances → ¬ later.Rebalances := by
  refine List.pairwise_append.mpr ⟨pairwise_of_not_rebalances quiet, ?_, ?_⟩
  · refine List.pairwise_cons.mpr ⟨?_, pairwise_of_not_rebalances silent⟩
    intro later member _
    exact silent later member
  · intro earlier member later _ rebalances
    exact absurd rebalances (quiet earlier member)

end

/-- What lies between two readings of the clock lies between the times that are read. -/
theorem Timeline.between {opening delivery closing : Phase} {started finished : UInt64}
    (timeline : Timeline ((opening :: first) ++ delivery :: (second ++ [closing])))
    (opened : opening.exchange = reading started)
    (closed : closing.exchange = reading finished) :
    started.toNat ≤ delivery.start ∧ delivery.start ≤ delivery.finish ∧
      delivery.finish ≤ finished.toNat := by
  obtain ⟨-, ordered, across⟩ := List.pairwise_append.mp timeline.ordered
  have opening_le := across opening List.mem_cons_self delivery List.mem_cons_self
  have delivery_le := (List.pairwise_cons.mp ordered).1 closing (by simp)
  have started_le := (timeline.reads opening (by simp) started opened).2
  have le_finished := (timeline.reads closing (by simp) finished closed).1
  exact ⟨Nat.le_trans started_le opening_le, timeline.lasts delivery (by simp),
    Nat.le_trans delivery_le le_finished⟩

/-- What the rebalance of a step, if there is one, has to do with the record before it and after. -/
structure Spaced (cooldown : Nat) (last next : Option UInt64) (phases : List Phase) : Prop where
  /-- It starts a cooldown after any time that the last rebalance lies after. -/
  apart : ∀ time, KnownSince last time → (∀ phase ∈ phases, time ≤ phase.start) →
    KnownSince next time ∧ ∀ phase ∈ phases, phase.Rebalances → time + cooldown ≤ phase.start
  known : ∀ phase ∈ phases, phase.Rebalances → KnownSince next phase.finish
  single : phases.Pairwise fun earlier later => earlier.Rebalances → ¬ later.Rebalances

theorem Cooling.spaced (cooling : Cooling settings target last trace next)
    (timeline : Timeline phases) (same : phases.map Phase.exchange = trace) :
    Spaced settings.rebalanceCooldown.toNat last next phases := by
  cases cooling with
  | kept none =>
    have quiet := not_rebalances_of_map same none
    refine ⟨fun time known _ => ⟨known, ?_⟩, ?_, pairwise_of_not_rebalances quiet⟩
    · intro phase member rebalances
      exact absurd rebalances (quiet phase member)
    · intro phase member rebalances
      exact absurd rebalances (quiet phase member)
  | @recorded started finished reads reports elapsed before outcome after =>
    -- the phases of the two readings, and that of the rebalance between them
    obtain ⟨opening, rest, rfl, opened, same⟩ := List.map_eq_cons_iff.mp same
    obtain ⟨early, rest, rfl, read, same⟩ := List.map_eq_append_iff.mp same
    obtain ⟨delivery, rest, rfl, delivered, same⟩ := List.map_eq_cons_iff.mp same
    obtain ⟨late, rest, rfl, reported, same⟩ := List.map_eq_append_iff.mp same
    obtain ⟨closing, rest, rfl, closed, none⟩ := List.map_eq_cons_iff.mp same
    obtain rfl := List.map_eq_nil_iff.mp none
    rw [← List.cons_append] at timeline ⊢
    obtain ⟨started_le, lasts, le_finished⟩ := timeline.between opened closed
    have quiet : ∀ phase ∈ opening :: early, ¬ phase.Rebalances := by
      refine not_rebalances_of_map rfl (not_rebalances_of_submissions ?_)
      rw [List.map_cons, opened, read]
      exact before
    have silent : ∀ phase ∈ late ++ [closing], ¬ phase.Rebalances := by
      refine not_rebalances_of_map rfl (not_rebalances_of_submissions ?_)
      rw [List.map_append, reported, submissions_append, after, List.map_singleton, closed]
      rfl
    have only : ∀ phase ∈ (opening :: early) ++ delivery :: (late ++ [closing]),
        phase.Rebalances → phase = delivery := eq_of_rebalances quiet silent
    refine ⟨fun time known starts => ?_, ?_, pairwise_around quiet silent⟩
    · have first := starts delivery (by simp)
      refine ⟨⟨finished, rfl, by omega⟩, ?_⟩
      intro phase member rebalances
      obtain rfl := only phase member rebalances
      obtain ⟨recorded, rfl, later⟩ := known
      have elapsed := elapsed recorded rfl
      omega
    · intro phase member rebalances
      obtain rfl := only phase member rebalances
      exact ⟨finished, rfl, by omega⟩

end

end Task

namespace Keeper

open Program VaultKeeper.Cycle VaultKeeper.Task

variable {keeper : Keeper} {journal after : Journal} {visits : List Visit} {trace : Cycle.Trace}
  {phases : List Phase}

/-- Of two rebalances the later one starts a cooldown after the end of the earlier one. -/
def Apart (cooldown : UInt64) (earlier later : Phase) : Prop :=
  earlier.Rebalances → later.Rebalances → earlier.finish + cooldown.toNat ≤ later.start

/-- All rebalances of a journey are a cooldown apart, and so they are from any time before it that
the record at its start lies after. -/
theorem apart_of_journey (journey : Journey keeper journal visits trace after)
    (timeline : Timeline phases)
    (same : phases.map Phase.exchange = visits.flatMap Visit.calls) :
    (∀ time, KnownSince journal.lastRebalance time → (∀ phase ∈ phases, time ≤ phase.start) →
      ∀ phase ∈ phases, phase.Rebalances →
        time + keeper.settings.rebalanceCooldown.toNat ≤ phase.start) ∧
    phases.Pairwise (Apart keeper.settings.rebalanceCooldown) := by
  induction journey generalizing phases with
  | nil =>
    obtain rfl := List.map_eq_nil_iff.mp same
    exact ⟨by simp, .nil⟩
  | begin _ ih => exact ih timeline same
  | aside _ _ ih => exact ih timeline same
  | @visit visit _ visits _ _ taken _ ih =>
    obtain ⟨own, rest, rfl, called, same⟩ := List.map_eq_append_iff.mp same
    obtain ⟨before, later, across⟩ := timeline.of_append
    obtain ⟨onward, ordered⟩ := ih later same
    have spaced := (cooling_of_runs taken.planned).spaced before called
    refine ⟨fun time known starts => ?_, List.pairwise_append.mpr ⟨?_, ordered, ?_⟩⟩
    · obtain ⟨first, last⟩ := List.forall_mem_append.mp starts
      obtain ⟨known, apart⟩ := spaced.apart time known first
      exact List.forall_mem_append.mpr ⟨apart, onward time known last⟩
    · exact spaced.single.imp fun single first second => absurd second (single first)
    · intro earlier member late listed first second
      have known := spaced.known earlier member first
      exact onward earlier.finish known (across earlier member) late listed second

/-- On a clock that never goes back no rebalance of a run starts before a cooldown has gone by since
the end of any earlier one, for whichever strategy in whichever cycle, and whatever came of it. -/
theorem cycles_apart (cycles : Cycles keeper journal trace after) :
    (∃ visits, Journey keeper journal visits trace after) ∧
    ∀ visits phases, Journey keeper journal visits trace after → Timeline phases →
      phases.map Phase.exchange = visits.flatMap Visit.calls →
      phases.Pairwise (Apart keeper.settings.rebalanceCooldown) :=
  ⟨cycles.journey, fun _ _ journey timeline same => (apart_of_journey journey timeline same).2⟩

/-- A cycle of `lone` with a step whose rebalance gets no fee. -/
def unpricedTurn (started finished : UInt64) : Cycle.Trace :=
  [⟨.timer .stopRequested, false⟩, ⟨.registry (.splitterOf 3), .ok (some 4)⟩,
    ⟨.registry (.strategiesOf 4), .ok [5]⟩, ⟨.timer .stopRequested, false⟩] ++
  (unpricedSteps started finished).map lift ++
  [⟨.step (.notify (Step.failureMessage loneTarget (.chain (.transient .unreachable)))), ()⟩]

/-- The phases of such a visit: time passes only while the rebalance is delivered. -/
def unpricedPhases (started finished : UInt64) : List Phase :=
  [⟨reading started, started.toNat, started.toNat⟩,
    ⟨own ⟨.position 5, .ok shifted⟩, started.toNat, started.toNat⟩,
    ⟨own ⟨.isPaused 4 5, .ok false⟩, started.toNat, started.toNat⟩,
    ⟨rebalancing loneTarget (.error (.transient .unreachable)), started.toNat, finished.toNat⟩,
    ⟨reading finished, finished.toNat, finished.toNat⟩]

/-- Two such cycles, as soon after one another as the cooldown allows. -/
def unpricedTurns : Cycle.Trace := unpricedTurn 1000 1001 ++ (unpricedTurn 1301 1302 ++ [])

theorem cycles_unpricedTurns :
    Cycles lone Journal.empty unpricedTurns (loneJournal 2 1302) := by
  have first : Runs (lone.cycle Journal.empty) (unpricedTurn 1000 1001)
      (⟨1, 1, 1, 0, 0, 0, 1⟩, loneJournal 1 1001) :=
    .call (.call (.call (.call (.call (.call (.call (.call (.call (.call (.done _))))))))))
  have second : Runs (lone.cycle (loneJournal 1 1001)) (unpricedTurn 1301 1302)
      (⟨2, 1, 1, 0, 0, 0, 1⟩, loneJournal 2 1302) :=
    .call (.call (.call (.call (.call (.call (.call (.call (.call (.call (.done _))))))))))
  exact .cycle first (.cycle second (.nil _))

theorem takes_secondVisit :
    (unpricedVisit (loneJournal 1 1001).beginCycle (loneJournal 2 1302) 1301 1302).Takes lone
      (unpricedSteps 1301 1302) :=
  takes_unpricedVisit (.call (.call (.call (.call (.call (.done _))))))

/-- The visits of both cycles. -/
def unpricedVisits : List Visit :=
  [firstVisit, unpricedVisit (loneJournal 1 1001).beginCycle (loneJournal 2 1302) 1301 1302]

theorem journey_unpricedVisits :
    Journey lone Journal.empty unpricedVisits unpricedTurns (loneJournal 2 1302) := by
  have turn {before middle after : Journal} {visits : List Visit} {rest : Cycle.Trace}
      {started finished : UInt64}
      (taken : (unpricedVisit before.beginCycle middle started finished).Takes lone
        (unpricedSteps started finished))
      (journey : Journey lone middle visits rest after) :
      Journey lone before (unpricedVisit before.beginCycle middle started finished :: visits)
        (unpricedTurn started finished ++ rest) after :=
    .begin (.aside rfl (.aside rfl (.aside rfl (.aside rfl (.visit taken (.aside rfl journey))))))
  exact turn takes_firstVisit (turn takes_secondVisit (.nil _))

theorem timeline_unpricedPhases :
    Timeline (unpricedPhases 1000 1001 ++ unpricedPhases 1301 1302) where
  lasts := by decide
  reads := by
    intro phase member time same
    simp only [unpricedPhases, List.cons_append, List.nil_append, List.mem_cons,
      List.not_mem_nil, or_false] at member
    rcases member with rfl | rfl | rfl | rfl | rfl | rfl | rfl | rfl | rfl | rfl <;> cases same <;>
      decide
  ordered := by decide

theorem cycles_apart_unpriced :
    Cycles lone Journal.empty unpricedTurns (loneJournal 2 1302) ∧
      Journey lone Journal.empty unpricedVisits unpricedTurns (loneJournal 2 1302) ∧
      Timeline (unpricedPhases 1000 1001 ++ unpricedPhases 1301 1302) ∧
      (unpricedPhases 1000 1001 ++ unpricedPhases 1301 1302).Pairwise
        (Apart lone.settings.rebalanceCooldown) := by
  have apart := (cycles_apart cycles_unpricedTurns).2 unpricedVisits _ journey_unpricedVisits
    timeline_unpricedPhases rfl
  exact ⟨cycles_unpricedTurns, journey_unpricedVisits, timeline_unpricedPhases, apart⟩

end Keeper

end VaultKeeper
