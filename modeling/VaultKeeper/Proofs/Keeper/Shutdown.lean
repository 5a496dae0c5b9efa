import VaultKeeper.Proofs.Keeper.Life
import VaultKeeper.Proofs.Service.Succession

/-! # How a keeper stops

The request to stop may come at any moment. To see what it changes, a run that is asked to stop is
held against the run in the same surroundings that is not. Both do the same until the moment and
then until the piece that is in progress is done: not a single call of a search or a step is lost or
altered, whatever it is about. After that nothing begins any more.
-/

namespace VaultKeeper

namespace Cycle

open Program

/-- Nobody asks the keeper to stop. -/
structure Calm (surroundings : Surroundings Cycle) : Prop where
  asked : ∀ past, surroundings past (.timer .stopRequested) = false
  slept : ∀ past milliseconds, surroundings past (.timer (.sleep milliseconds)) = true

/-- The keeper is asked to stop after so many exchanges, and all else is as in other surroundings.
A wait that is over by then was not cut short; of any other wait nothing is said. -/
structure StopsAt (moment : Nat) (cut calm : Surroundings Cycle) : Prop where
  asked : ∀ past, cut past (.timer .stopRequested) = decide (moment ≤ past.length)
  slept : ∀ past milliseconds, past.length < moment →
    cut past (.timer (.sleep milliseconds)) = true
  others : ∀ past call, (∀ request, call ≠ .timer request) → cut past call = calm past call

/-- Surroundings with a request to stop added to them. -/
def interrupted (moment : Nat) (surroundings : Surroundings Cycle) : Surroundings Cycle :=
  fun past call =>
    match call with
    | .timer .stopRequested => decide (moment ≤ past.length)
    | .timer (.sleep _) => decide (past.length < moment)
    | call => surroundings past call

theorem stopsAt_interrupted (moment : Nat) (surroundings : Surroundings Cycle) :
    StopsAt moment (interrupted moment surroundings) surroundings where
  asked _ := rfl
  slept _ _ early := decide_eq_true early
  others past call other := by
    cases call with
    | timer request => exact absurd rfl (other request)
    | _ => rfl

/-- The calls of a run that belong to no search and to no step. -/
def Call.isPause : Call → Bool
  | .timer _ | .report _ => true
  | .step _ | .registry _ => false

/-- What the exchanges that two runs begin with have to do with the moment: up to there the runs are
the same, beyond it there is the rest of one piece at most, and what follows are pauses. -/
structure Break (moment : Nat) (past : Trace) (pieces : List Piece) (begun ending rest : Trace) :
    Prop where
  reaches : (ending = [] ∧ rest = []) ∨ moment ≤ (past ++ begun).length
  finishes : moment < (past ++ begun).length → ∃ head piece, pieces.getLast? = some piece ∧
    past ++ begun = head ++ piece.exchanges ∧ head.length ≤ moment
  pauses : ∀ exchange ∈ ending, exchange.call.isPause = true

/-- A run that is asked to stop at a moment, held against one that is not: its pieces are the first
ones of the other run, with all that belongs to them, and none of them begins after the moment. -/
def WindsDown (moment : Nat) (past : Trace) (pieces all : List Piece) (trace whole : Trace) :
    Prop :=
  pieces <+: all ∧ ∃ begun ending rest, trace = begun ++ ending ∧ whole = begun ++ rest ∧
    Break moment past pieces begun ending rest

/-- The same of two cycles, and as long as the moment has not come there is no difference at all. -/
structure Abreast (moment : Nat) (past : Trace) (pieces all : List Piece) (trace whole : Trace)
    (later later' : State) : Prop where
  windsDown : WindsDown moment past pieces all trace whole
  same : (past ++ trace).length < moment → pieces = all ∧ trace = whole ∧ later = later'

section

variable {keeper : Keeper} {state : State} {moment : Nat} {cut calm : Surroundings Cycle}
  {past trace whole : Trace} {pieces all : List Piece}

theorem lift_injective : Function.Injective lift := by
  rintro ⟨call, answer⟩ ⟨call', answer'⟩ same
  injection same with calls answers
  cases calls
  cases answers
  rfl

theorem liftRegistry_injective : Function.Injective liftRegistry := by
  rintro ⟨call, answer⟩ ⟨call', answer'⟩ same
  injection same with calls answers
  cases calls
  cases answers
  rfl

/-- A piece asks for no stop itself. -/
theorem Piece.not_timer (piece : Piece) :
    ∀ exchange ∈ piece.exchanges, ∀ request, exchange.call ≠ .timer request := by
  intro exchange among request
  cases piece with
  | search made =>
    obtain searched | told := List.mem_append.mp among
    · obtain ⟨_, _, rfl⟩ := List.mem_map.mp searched
      exact nofun
    · obtain ⟨_, _, rfl⟩ := List.mem_map.mp told
      exact nofun
  | visit made steps =>
    obtain ⟨_, _, rfl⟩ := List.mem_map.mp among
    exact nofun

/-- So it goes on as if nobody had asked. -/
theorem StopsAt.undisturbed (stops : StopsAt moment cut calm) (piece : Piece)
    (answered : AnsweredBy cut past piece.exchanges) : AnsweredBy calm past piece.exchanges :=
  answered.transfer fun exchange among past =>
    stops.others past exchange.call (piece.not_timer exchange among)

/-- In given surroundings there is one search of a vault only. -/
theorem search_determined {made made' : Search} (vault : made'.vault = made.vault)
    (ran : Runs made.vault.discover made.calls made.found)
    (again : Runs made'.vault.discover made'.calls made'.found)
    (answered : AnsweredBy calm past (Piece.search made).exchanges)
    (answered' : AnsweredBy calm past (Piece.search made').exchanges) : made = made' := by
  rw [vault] at again
  have lifted := runs_ofRegistry_iff.mpr ⟨_, ran, rfl⟩
  have lifted' := runs_ofRegistry_iff.mpr ⟨_, again, rfl⟩
  obtain ⟨calls, found⟩ := lifted.determined lifted' (answered_append_iff.mp answered).1
    (answered_append_iff.mp answered').1
  have calls := (List.map_inj_right fun _ _ => (liftRegistry_injective ·)).mp calls
  obtain ⟨_, _, _⟩ := made
  obtain ⟨_, _, _⟩ := made'
  cases vault
  cases calls
  cases found
  rfl

/-- In given surroundings there is one visit to a target only. -/
theorem visit_determined {visit visit' : Visit} {steps steps' : List (Exchange Step)}
    (target : visit'.target = visit.target) (before : visit'.before = visit.before)
    (taken : visit.Takes keeper steps) (again : visit'.Takes keeper steps')
    (answered : AnsweredBy calm past (Piece.visit visit steps).exchanges)
    (answered' : AnsweredBy calm past (Piece.visit visit' steps').exchanges) :
    visit = visit' ∧ steps = steps' := by
  obtain ⟨planned, carried⟩ := taken
  obtain ⟨planned', carried'⟩ := again
  rw [target, before] at planned'
  have stepped := runs_interpret_iff.mpr ⟨_, planned, carried⟩
  have stepped' := runs_interpret_iff.mpr ⟨_, planned', carried'⟩
  have lifted := runs_ofStep_iff.mpr ⟨_, stepped, rfl⟩
  have lifted' := runs_ofStep_iff.mpr ⟨_, stepped', rfl⟩
  simp only [Piece.exchanges, List.map_append] at answered answered'
  obtain ⟨steps, -⟩ := lifted.determined lifted' (answered_append_iff.mp answered).1
    (answered_append_iff.mp answered').1
  obtain rfl := (List.map_inj_right fun _ _ => (lift_injective ·)).mp steps
  obtain ⟨calls, results⟩ := Expands.unique planned planned' carried carried'
  obtain ⟨_, _, _, _, _⟩ := visit
  obtain ⟨_, _, _, _, _⟩ := visit'
  cases target
  cases before
  cases calls
  cases results
  exact ⟨rfl, rfl⟩

/-- At a look for a request to stop. -/
theorem StopsAt.look {stopped : Bool} (stops : StopsAt moment cut calm)
    (answered : AnsweredBy cut past (look stopped :: trace)) :
    stopped = decide (moment ≤ past.length) :=
  (answered_cons_iff.mp answered).1.trans (stops.asked past)

theorem Calm.look {stopped : Bool} (calmly : Calm calm)
    (answered : AnsweredBy calm past (look stopped :: trace)) : stopped = false :=
  (answered_cons_iff.mp answered).1.trans (calmly.asked past)

namespace WindsDown

/-- Two runs that are the same, with no piece and at an end by the moment. -/
theorem same (early : (past ++ trace).length ≤ moment) :
    WindsDown moment past [] [] trace trace := by
  refine ⟨List.prefix_rfl, trace, [], [], (List.append_nil _).symm, (List.append_nil _).symm, ?_⟩
  exact ⟨.inl ⟨rfl, rfl⟩, fun late => absurd early (Nat.not_le.mpr late),
    List.forall_mem_nil _⟩

/-- A run that halts at the very moment. -/
theorem halt {begun ending rest : Trace} (there : (past ++ begun).length = moment)
    (pauses : ∀ exchange ∈ ending, exchange.call.isPause = true) :
    WindsDown moment past [] all (begun ++ ending) (begun ++ rest) := by
  refine ⟨List.nil_prefix, begun, ending, rest, rfl, rfl, .inr ?_, fun late => ?_, pauses⟩
  · exact Nat.le_of_eq there.symm
  · exact absurd there (Nat.ne_of_gt late)

/-- A run that ends with the piece that is in progress. -/
theorem finish {piece : Piece} {ending rest : Trace} (began : past.length < moment)
    (reached : moment ≤ (past ++ look false :: piece.exchanges).length)
    (pauses : ∀ exchange ∈ ending, exchange.call.isPause = true) :
    WindsDown moment past [piece] (piece :: all) (look false :: (piece.exchanges ++ ending))
      (look false :: (piece.exchanges ++ rest)) := by
  refine ⟨List.cons_prefix_cons.mpr ⟨rfl, List.nil_prefix⟩, look false :: piece.exchanges,
    ending, rest, rfl, rfl, .inr reached, fun _ => ?_, pauses⟩
  refine ⟨past ++ [look false], piece, rfl, List.append_cons .., ?_⟩
  rw [List.length_append]
  exact began

/-- What both runs do first does not matter. -/
theorem behind (first : List Piece) {block : Trace}
    (later : WindsDown moment (past ++ block) pieces all trace whole) :
    WindsDown moment past (first ++ pieces) (first ++ all) (block ++ trace) (block ++ whole) := by
  obtain ⟨initial, begun, ending, rest, rfl, rfl, reaches, finishes, pauses⟩ := later
  refine ⟨(List.prefix_append_right_inj first).mpr initial, block ++ begun, ending, rest,
    (List.append_assoc ..).symm, (List.append_assoc ..).symm, ?_, ?_, pauses⟩
  · rw [← List.append_assoc]
    exact reaches
  · rw [← List.append_assoc]
    intro late
    obtain ⟨head, piece, last, shape, began⟩ := finishes late
    refine ⟨head, piece, ?_, shape, began⟩
    rw [List.getLast?_append, last]
    rfl

/-- Nor does what comes when all is over. -/
theorem extend {others : List Piece} {more rest : Trace}
    (wound : WindsDown moment past pieces all trace whole)
    (reached : moment ≤ (past ++ trace).length)
    (pauses : ∀ exchange ∈ more, exchange.call.isPause = true) :
    WindsDown moment past pieces (all ++ others) (trace ++ more) (whole ++ rest) := by
  obtain ⟨initial, begun, ending, remaining, rfl, rfl, reaches, finishes, paused⟩ := wound
  refine ⟨initial.trans (List.prefix_append all others), begun, ending ++ more, remaining ++ rest,
    List.append_assoc .., List.append_assoc .., .inr ?_, finishes, ?_⟩
  · obtain ⟨rfl, -⟩ | reached := reaches
    · rwa [List.append_nil] at reached
    · exact reached
  · intro exchange among
    exact (List.mem_append.mp among).elim (paused exchange) (pauses exchange)

end WindsDown

/-- After the moment a cycle begins nothing. -/
theorem Round.idle {targets : List Target} {vaults : List Vault} {later : State}
    (stops : StopsAt moment cut calm)
    (round : Round keeper state targets vaults pieces trace later)
    (answered : AnsweredBy cut past trace) (reached : moment ≤ past.length) :
    pieces = [] ∧ ∀ exchange ∈ trace, exchange.call.isPause = true := by
  cases round with
  | finished => exact ⟨rfl, List.forall_mem_nil _⟩
  | stopped => exact ⟨rfl, fun exchange among => List.mem_singleton.mp among ▸ rfl⟩
  | search | visit =>
    have asked := stops.look answered
    rw [decide_eq_true reached] at asked
    cases asked

/-- A cycle with a vault on its agenda. -/
theorem Round.of_vault {vault : Vault} {vaults : List Vault} {later : State}
    (round : Round keeper state [] (vault :: vaults) all whole later) :
    (∃ rest, whole = look true :: rest) ∨
    ∃ search others rest, search.vault = vault ∧
      Runs search.vault.discover search.calls search.found ∧
      Round keeper (state.after (.search search)) search.targets vaults others rest later ∧
      all = .search search :: others ∧
      whole = look false :: ((Piece.search search).exchanges ++ rest) := by
  cases round with
  | stopped => exact .inl ⟨_, rfl⟩
  | search ran round => exact .inr ⟨_, _, _, rfl, ran, round, rfl, rfl⟩

/-- A cycle with a target on its agenda. -/
theorem Round.of_target {target : Target} {targets : List Target} {vaults : List Vault}
    {later : State} (round : Round keeper state (target :: targets) vaults all whole later) :
    (∃ rest, whole = look true :: rest) ∨
    ∃ visit steps others rest, visit.target = target ∧ visit.before = state.journal ∧
      visit.Takes keeper steps ∧
      Round keeper (state.after (.visit visit steps)) targets vaults others rest later ∧
      all = .visit visit steps :: others ∧
      whole = look false :: ((Piece.visit visit steps).exchanges ++ rest) := by
  cases round with
  | stopped => exact .inl ⟨_, rfl⟩
  | visit taken before round => exact .inr ⟨_, _, _, _, rfl, before, taken, round, rfl, rfl⟩

/-- A piece that is the same in both cycles, given how they go on. -/
theorem Abreast.piece {piece : Piece} {others : List Piece} {rest : Trace} {later later' : State}
    (stops : StopsAt moment cut calm)
    (answered : AnsweredBy cut past (look false :: (piece.exchanges ++ trace)))
    (idle : moment ≤ (past ++ look false :: piece.exchanges).length →
      pieces = [] ∧ ∀ exchange ∈ trace, exchange.call.isPause = true)
    (onward : (past ++ look false :: piece.exchanges).length ≤ moment →
      Abreast moment (past ++ look false :: piece.exchanges) pieces others trace rest later
        later') :
    Abreast moment past (piece :: pieces) (piece :: others)
      (look false :: (piece.exchanges ++ trace)) (look false :: (piece.exchanges ++ rest)) later
      later' := by
  have began : past.length < moment := by simpa using stops.look answered
  rw [← List.cons_append, ← List.cons_append]
  -- either the piece is over when the moment comes, or it is the one in progress
  obtain early | late := Nat.le_total (past ++ look false :: piece.exchanges).length moment
  · obtain ⟨wound, finished⟩ := onward early
    refine ⟨wound.behind [piece], fun done => ?_⟩
    rw [← List.append_assoc] at done
    obtain ⟨rfl, rfl, rfl⟩ := finished done
    exact ⟨rfl, rfl, rfl⟩
  · obtain ⟨rfl, pauses⟩ := idle late
    refine ⟨.finish began late pauses, fun done => ?_⟩
    rw [← List.append_assoc, List.length_append] at done
    exact absurd late (Nat.not_le.mpr (Nat.lt_of_le_of_lt (Nat.le_add_right _ _) done))

/-- Of two cycles with one agenda and one state, one is asked to stop and the other is not. -/
theorem Round.abreast {targets : List Target} {vaults : List Vault} {later later' : State}
    (calmly : Calm calm) (stops : StopsAt moment cut calm)
    (round : Round keeper state targets vaults pieces trace later)
    (again : Round keeper state targets vaults all whole later')
    (answered : AnsweredBy cut past trace) (answered' : AnsweredBy calm past whole)
    (early : past.length ≤ moment) : Abreast moment past pieces all trace whole later later' := by
  -- The cycle that is not asked to stop follows: it has the same agenda and never stops by itself.
  induction round generalizing past all whole with
  | finished =>
    cases again with
    | finished => exact ⟨.same (by rwa [List.append_nil]), fun _ => ⟨rfl, rfl, rfl⟩⟩
    | stopped _ more => simp at more
  | stopped state more =>
    have reached : moment ≤ past.length := by simpa using stops.look answered
    have there : (past ++ []).length = moment := by
      rw [List.append_nil]
      exact Nat.le_antisymm early reached
    refine ⟨.halt there ?_, fun done => ?_⟩
    · exact fun exchange among => List.mem_singleton.mp among ▸ rfl
    · rw [List.length_append] at done
      omega
  | @search state later search vaults pieces trace ran rest ih =>
    obtain ⟨_, rfl⟩ | ⟨search', others, onward, same, ran', round', rfl, rfl⟩ := again.of_vault
    · cases calmly.look answered'
    · obtain ⟨-, answers⟩ := answered_cons_iff.mp answered
      obtain ⟨-, answers'⟩ := answered_cons_iff.mp answered'
      obtain ⟨searching, further⟩ := answered_append_iff.mp answers
      obtain ⟨searching', further'⟩ := answered_append_iff.mp answers'
      obtain rfl := search_determined same ran ran' (stops.undisturbed _ searching) searching'
      rw [List.append_assoc] at further further'
      exact .piece stops answered (rest.idle stops further) (ih round' further further')
  | @visit state later visit steps targets vaults pieces trace taken before rest ih =>
    obtain ⟨_, rfl⟩ | ⟨visit', steps', others, onward, same, before', taken', round', rfl, rfl⟩ :=
      again.of_target
    · cases calmly.look answered'
    · obtain ⟨-, answers⟩ := answered_cons_iff.mp answered
      obtain ⟨-, answers'⟩ := answered_cons_iff.mp answered'
      obtain ⟨visiting, further⟩ := answered_append_iff.mp answers
      obtain ⟨visiting', further'⟩ := answered_append_iff.mp answers'
      obtain ⟨rfl, rfl⟩ := visit_determined same (before'.trans before.symm) taken taken'
        (stops.undisturbed _ visiting) visiting'
      rw [List.append_assoc] at further further'
      exact .piece stops answered (rest.idle stops further) (ih round' further further')

/-- A tick is at least one exchange and at most two, and all of them are pauses. -/
theorem length_ticking {poller : Poller} {result : PollStep × Poller}
    {ticking : List (Exchange Timer)} (ticked : Runs poller.tick ticking result) :
    0 < ticking.length ∧ ticking.length ≤ 2 := by
  obtain ⟨step, next⟩ := result
  obtain ⟨rfl, -⟩ | rfl | ⟨_, rfl, -⟩ := Poller.tick_cases ticked <;>
    exact ⟨Nat.zero_lt_succ _, by simp⟩

theorem pauses_ticking (ticking : List (Exchange Timer)) :
    ∀ exchange ∈ ticking.map liftTimer, exchange.call.isPause = true := by
  intro exchange among
  obtain ⟨_, -, rfl⟩ := List.mem_map.mp among
  rfl

/-- A tick that is over before the moment is the same in both runs. -/
theorem tick_determined {poller : Poller} {result result' : PollStep × Poller}
    {ticking ticking' : List (Exchange Timer)} (calmly : Calm calm)
    (stops : StopsAt moment cut calm) (ticked : Runs poller.tick ticking result)
    (ticked' : Runs poller.tick ticking' result')
    (answered : AnsweredBy cut past (ticking.map liftTimer))
    (answered' : AnsweredBy calm past (ticking'.map liftTimer)) (far : past.length + 1 < moment) :
    ticking.map liftTimer = ticking'.map liftTimer ∧ result = result' := by
  have unasked : cut past (.timer .stopRequested) = calm past (.timer .stopRequested) := by
    rw [stops.asked, calmly.asked, decide_eq_false (by omega)]
  have transferred : AnsweredBy calm past (ticking.map liftTimer) := by
    obtain ⟨step, next⟩ := result
    obtain ⟨rfl, -⟩ | rfl | ⟨completed, rfl, -⟩ := Poller.tick_cases ticked
    · exact answered_cons_iff.mpr ⟨(answered_cons_iff.mp answered).1.trans unasked, .nil _⟩
    · exact answered_cons_iff.mpr ⟨(answered_cons_iff.mp answered).1.trans unasked, .nil _⟩
    · obtain ⟨asked, waited⟩ := answered_cons_iff.mp answered
      obtain ⟨slept, -⟩ := answered_cons_iff.mp waited
      refine answered_cons_iff.mpr ⟨asked.trans unasked, answered_cons_iff.mpr ⟨?_, .nil _⟩⟩
      have early : (past ++ [liftTimer ⟨.stopRequested, false⟩]).length < moment := by
        rw [List.length_append]
        exact far
      exact slept.trans ((stops.slept _ _ early).trans (calmly.slept _ _).symm)
  have lifted := runs_ofTimer_iff.mpr ⟨_, ticked, rfl⟩
  have lifted' := runs_ofTimer_iff.mpr ⟨_, ticked', rfl⟩
  exact lifted.determined lifted' transferred answered'

/-- A run that may have a cycle begins with a look for a request to stop. -/
theorem Life.begins {limit : Nat} {poller : Poller} {journal : Journal} {tallies : List Tally}
    (life : Life keeper (limit + 1) poller journal pieces trace tallies) :
    ∃ stopped rest, trace = look stopped :: rest := by
  cases life with
  | ended _ ticked | cycle ticked =>
    obtain ⟨rfl, -⟩ | rfl | ⟨_, rfl, -⟩ := Poller.tick_cases ticked <;> exact ⟨_, _, rfl⟩

/-- A run that is asked to stop during a tick, or before it, begins nothing. -/
theorem Life.idle {limit : Nat} {poller : Poller} {journal : Journal} {tallies : List Tally}
    (stops : StopsAt moment cut calm)
    (life : Life keeper limit poller journal pieces trace tallies)
    (answered : AnsweredBy cut past trace) (reached : moment ≤ past.length + 1) :
    pieces = [] ∧ ∀ exchange ∈ trace, exchange.call.isPause = true := by
  induction life generalizing past with
  | spent => exact ⟨rfl, List.forall_mem_nil _⟩
  | @ended limit poller next step journal ticking ticked last =>
    exact ⟨rfl, pauses_ticking ticking⟩
  | @cycle limit poller next journal middle number tally tallies ticking made pieces trace later
      ticked round rest ih =>
    obtain ⟨-, onward⟩ := answered_append_iff.mp answered
    obtain ⟨cycling, reporting⟩ := answered_append_iff.mp onward
    obtain ⟨-, further⟩ := answered_cons_iff.mp reporting
    have waited : moment ≤ (past ++ ticking.map liftTimer).length := by
      have some := (length_ticking ticked).1
      simp only [List.length_append, List.length_map]
      omega
    obtain ⟨rfl, paused⟩ := round.idle stops cycling waited
    obtain ⟨rfl, pausing⟩ := ih further (by simp only [List.length_append] at waited ⊢; omega)
    refine ⟨rfl, fun exchange among => ?_⟩
    obtain ticks | among := List.mem_append.mp among
    · exact pauses_ticking ticking exchange ticks
    · obtain within | among := List.mem_append.mp among
      · exact paused exchange within
      · obtain rfl | among := List.mem_cons.mp among
        · rfl
        · exact pausing exchange among

/-- Two runs when the moment comes during the next tick or before it. -/
theorem Life.windsDown_near {limit : Nat} {poller : Poller} {journal : Journal}
    {tallies tallies' : List Tally} (calmly : Calm calm) (stops : StopsAt moment cut calm)
    (life : Life keeper (limit + 1) poller journal pieces trace tallies)
    (again : Life keeper (limit + 1) poller journal all whole tallies')
    (answered : AnsweredBy cut past trace) (answered' : AnsweredBy calm past whole)
    (early : past.length ≤ moment) (near : moment ≤ past.length + 1) :
    WindsDown moment past pieces all trace whole := by
  obtain ⟨rfl, pauses⟩ := life.idle stops answered near
  obtain ⟨stopped, rest, rfl⟩ := life.begins
  obtain ⟨stopped', rest', rfl⟩ := again.begins
  cases calmly.look answered'
  have asked := stops.look answered
  cases stopped with
  | true =>
    have there : (past ++ []).length = moment := by
      rw [List.append_nil]
      exact Nat.le_antisymm early (of_decide_eq_true asked.symm)
    exact .halt there pauses
  | false =>
    have there : (past ++ [look false]).length = moment := by
      have later : ¬ moment ≤ past.length := of_decide_eq_false asked.symm
      rw [List.length_append, List.length_singleton]
      omega
    exact .halt there (List.forall_mem_cons.mp pauses).2

/-- Two cycles in such runs, given how these go on after the reports. -/
theorem Abreast.proceed {made made' others : List Piece} {first first' later later' : Trace}
    {state' : State} (abreast : Abreast moment past made made' first first' state state')
    (idle : moment ≤ (past ++ first).length →
      pieces = [] ∧ ∀ exchange ∈ later, exchange.call.isPause = true)
    (onward : first = first' → state = state' →
      (past ++ first).length + 1 ≤ moment →
      WindsDown moment (past ++ first ++ [⟨.report state.tally, ()⟩]) pieces others later later') :
    WindsDown moment past (made ++ pieces) (made' ++ others)
      (first ++ ⟨.report state.tally, ()⟩ :: later)
      (first' ++ ⟨.report state'.tally, ()⟩ :: later') := by
  obtain done | going := Nat.lt_or_ge (past ++ first).length moment
  · obtain ⟨rfl, rfl, rfl⟩ := abreast.same done
    rw [List.append_cons first _ later, List.append_cons first _ later']
    refine .behind made ?_
    rw [← List.append_assoc]
    exact onward rfl rfl done
  · -- the moment came in this cycle, and the report does not matter any more
    obtain ⟨rfl, pauses⟩ := idle going
    rw [List.append_nil]
    exact abreast.windsDown.extend going (List.forall_mem_cons.mpr ⟨rfl, pauses⟩)

/-- Of two runs with one journal, one is asked to stop and the other is not. -/
theorem Life.windsDown {limit : Nat} {poller : Poller} {journal : Journal}
    {tallies tallies' : List Tally} (calmly : Calm calm) (stops : StopsAt moment cut calm)
    (life : Life keeper limit poller journal pieces trace tallies)
    (again : Life keeper limit poller journal all whole tallies')
    (answered : AnsweredBy cut past trace) (answered' : AnsweredBy calm past whole)
    (early : past.length ≤ moment) : WindsDown moment past pieces all trace whole := by
  induction life generalizing past all whole tallies' with
  | spent =>
    cases again
    exact .same (by rwa [List.append_nil])
  | @ended limit poller next step journal ticking ticked last =>
    obtain near | far := Decidable.em (moment ≤ past.length + 1)
    · exact (Life.ended journal ticked last).windsDown_near calmly stops again answered answered'
        early near
    rw [Nat.not_le] at far
    cases again with
    | @ended _ _ _ _ _ ticking' ticked' =>
      obtain ⟨same, -⟩ := tick_determined calmly stops ticked ticked' answered answered' far
      rw [← same]
      have brief := (length_ticking ticked).2
      exact .same (by simp only [List.length_append, List.length_map]; omega)
    | cycle ticked' =>
      obtain ⟨ticks', -⟩ := answered_append_iff.mp answered'
      obtain ⟨-, results⟩ := tick_determined calmly stops ticked ticked' answered ticks' far
      cases results
      exact absurd rfl (last _)
  | @cycle limit poller next journal middle number tally tallies ticking made pieces trace later
      ticked round rest ih =>
    obtain near | far := Decidable.em (moment ≤ past.length + 1)
    · exact (Life.cycle ticked round rest).windsDown_near calmly stops again answered answered'
        early near
    rw [Nat.not_le] at far
    obtain ⟨ticks, onward⟩ := answered_append_iff.mp answered
    obtain ⟨cycling, reporting⟩ := answered_append_iff.mp onward
    obtain ⟨-, further⟩ := answered_cons_iff.mp reporting
    cases again with
    | ended _ ticked' last' =>
      obtain ⟨-, results⟩ := tick_determined calmly stops ticked ticked' ticks answered' far
      cases results
      exact absurd rfl (last' _)
    | @cycle _ _ _ _ middle' _ tally' _ ticking' made' pieces' trace' later' ticked' round' rest' =>
      obtain ⟨ticks', onward'⟩ := answered_append_iff.mp answered'
      obtain ⟨cycling', reporting'⟩ := answered_append_iff.mp onward'
      obtain ⟨-, further'⟩ := answered_cons_iff.mp reporting'
      obtain ⟨same, results⟩ := tick_determined calmly stops ticked ticked' ticks ticks' far
      cases results
      rw [← same] at cycling' further' ⊢
      have brief : (past ++ ticking.map liftTimer).length ≤ moment := by
        have brief := (length_ticking ticked).2
        simp only [List.length_append, List.length_map]
        omega
      have abreast := round.abreast calmly stops round' cycling cycling' brief
      refine (abreast.proceed (fun going => ?_) fun same states early => ?_).behind []
      · refine rest.idle stops further ?_
        rw [List.length_append]
        omega
      · cases same
        cases states
        refine ih rest' further further' ?_
        rw [List.length_append]
        exact early

/-- Every cycle of a run takes some of the time until the moment. -/
theorem Life.length_tallies {limit : Nat} {poller : Poller} {journal : Journal}
    {tallies : List Tally} (stops : StopsAt moment cut calm)
    (life : Life keeper limit poller journal pieces trace tallies)
    (answered : AnsweredBy cut past trace) :
    tallies = [] ∨ past.length + tallies.length ≤ moment := by
  induction life generalizing past with
  | spent | ended => exact .inl rfl
  | @cycle limit poller next journal middle number tally tallies ticking made pieces trace later
      ticked round rest ih =>
    right
    obtain ⟨ticks, onward⟩ := answered_append_iff.mp answered
    obtain ⟨-, reporting⟩ := answered_append_iff.mp onward
    obtain ⟨-, further⟩ := answered_cons_iff.mp reporting
    have began : past.length < moment := by
      obtain ⟨-, halted⟩ | rfl | ⟨_, rfl, -⟩ := Poller.tick_cases ticked
      · cases halted
      · simpa using stops.look ticks
      · simpa using stops.look ticks
    obtain rfl | bounded := ih further
    · exact began
    · simp only [List.length_append, List.length_cons, List.length_nil] at bounded ⊢
      omega

end

end Cycle

namespace Keeper

open Program VaultKeeper.Cycle

/-- Whenever a keeper is asked to stop, it finishes the search or the step that is in progress just
as it would have done anyway, begins nothing more and returns. So every delivery comes to its
outcome. -/
theorem stops_gracefully {moment : Nat} {cut calm : Surroundings Cycle} (calmly : Calm calm)
    (stops : StopsAt moment cut calm) (keeper : Keeper) :
    (∀ journal trace whole tally tally' after after',
      Runs (keeper.cycle journal) trace (tally, after) → AnsweredBy cut [] trace →
      Runs (keeper.cycle journal) whole (tally', after') → AnsweredBy calm [] whole →
      (∃ dispatches, Delivery.Dispatches keeper.courier (dealings trace) dispatches) ∧
      ∃ pieces all,
        Round keeper (State.opening journal) [] keeper.vaults pieces trace ⟨tally, after⟩ ∧
        Round keeper (State.opening journal) [] keeper.vaults all whole ⟨tally', after'⟩ ∧
        WindsDown moment [] pieces all trace whole) ∧
    (∀ limit poller journal trace whole tallies tallies',
      Runs (keeper.runFrom limit poller journal) trace tallies → AnsweredBy cut [] trace →
      Runs (keeper.runFrom limit poller journal) whole tallies' → AnsweredBy calm [] whole →
      (∃ dispatches, Delivery.Dispatches keeper.courier (dealings trace) dispatches) ∧
      ∃ pieces all,
        Life keeper limit poller journal pieces trace tallies ∧
        Life keeper limit poller journal all whole tallies' ∧
        WindsDown moment [] pieces all trace whole) ∧
    ∀ poller journal, ∃ trace tallies, AnsweredBy cut [] trace ∧
      ∀ limit, moment < limit → Runs (keeper.runFrom limit poller journal) trace tallies := by
  refine ⟨?_, ?_, fun poller journal => ?_⟩
  · intro journal trace whole tally tally' after after' ran answered ran' answered'
    obtain ⟨visits, journey⟩ := journey_cycle ran
    obtain ⟨pieces, round⟩ := round_of_cycle ran
    obtain ⟨all, round'⟩ := round_of_cycle ran'
    have abreast := round.abreast calmly stops round' answered answered' (Nat.zero_le moment)
    exact ⟨Delivery.dispatches_of_journey journey, pieces, all, round, round', abreast.windsDown⟩
  · intro limit poller journal trace whole tallies tallies' ran answered ran' answered'
    obtain ⟨visits, after, journey⟩ := journey_runFrom ran
    obtain ⟨pieces, life⟩ := life_of_runFrom ran
    obtain ⟨all, life'⟩ := life_of_runFrom ran'
    have wound := life.windsDown calmly stops life' answered answered' (Nat.zero_le moment)
    exact ⟨Delivery.dispatches_of_journey journey, pieces, all, life, life', wound⟩
  · -- a run that may have one cycle more than there is time for ends by itself
    obtain ⟨trace, tallies, ran, answered⟩ :=
      exists_answered_run cut [] (keeper.runFrom (moment + 1) poller journal)
    obtain ⟨pieces, life⟩ := life_of_runFrom ran
    have short : tallies.length < moment + 1 := by
      obtain rfl | bounded := life.length_tallies stops answered
      · exact Nat.succ_pos moment
      · simpa [Nat.lt_succ_iff] using bounded
    refine ⟨trace, tallies, answered, fun limit beyond => ?_⟩
    obtain ⟨more, rfl⟩ := Nat.exists_eq_add_of_le beyond
    exact runs_of_length_lt ran short more

/-- A keeper that raises no fees. -/
def patient : Keeper :=
  { lone with courier := { lone.courier with policy.enabled := false } }

/-- Surroundings in which a keeper finds two strategies that need a rebalance, and in which its
transactions are mined at once. -/
def serene : Surroundings Cycle := fun _ call =>
  match call with
  | .timer .stopRequested => false
  | .timer (.sleep _) => true
  | .registry (.splitterOf _) => .ok (some 4)
  | .registry (.strategiesOf _) => .ok [5, 8]
  | .step (.delivery .now) => (1000 : UInt64)
  | .step (.delivery .reserveNonce) => (4 : UInt64)
  | .step (.delivery .offeredFee) => .ok (.legacy 3)
  | .step (.delivery (.broadcast _)) => .ok 11
  | .step (.delivery (.receipt _)) => .ok (some ⟨11, some 5, 0, true, []⟩)
  | .step (.delivery (.sleep _)) => ()
  | .step (.delivery .networkPrice) => .error (.transient .unreachable)
  | .step (.delivery .nonceCounts) => .error (.transient .unreachable)
  | .step (.delivery .syncNonce) => .error (.transient .unreachable)
  | .step (.position _) => .ok shifted
  | .step (.isPaused ..) => .ok false
  | .step (.thresholds _) => .error (.transient .unreachable)
  | .step (.quoteWithdraw ..) => .error (.transient .unreachable)
  | .step (.bestQuote ..) => .error (.allFailed 0 [])
  | .step (.notify _) => ()
  | .report _ => ()

theorem calm_serene : Calm serene where
  asked _ := rfl
  slept _ _ := rfl

/-- A rebalance in such surroundings, from the search on. -/
def sereneStart : Cycle.Trace :=
  [⟨.timer .stopRequested, false⟩, ⟨.registry (.splitterOf 3), .ok (some 4)⟩,
    ⟨.registry (.strategiesOf 4), .ok [5, 8]⟩, ⟨.timer .stopRequested, false⟩,
    ⟨.step (.delivery .now), (1000 : UInt64)⟩, ⟨.step (.position 5), .ok shifted⟩,
    ⟨.step (.isPaused 4 5), .ok false⟩, ⟨.step (.delivery .offeredFee), .ok (.legacy 3)⟩,
    ⟨.step (.delivery .reserveNonce), (4 : UInt64)⟩,
    ⟨.step (.delivery (.broadcast (Delivery.Payload.transaction ⟨5, Contract.rebalanceCalldata⟩ 4
      (.legacy 3)))), .ok 11⟩,
    ⟨.step (.delivery .now), (1000 : UInt64)⟩,
    ⟨.step (.delivery (.receipt 11)), .ok (some ⟨11, some 5, 0, true, []⟩)⟩,
    ⟨.step (.notify (Step.successMessage loneTarget .rebalance ⟨11, some 5, 0, true, []⟩)), ()⟩,
    ⟨.step (.delivery .now), (1000 : UInt64)⟩]

/-- What follows if nobody asks the keeper to stop: it is too early for another rebalance. -/
def sereneRest : Cycle.Trace :=
  [⟨.timer .stopRequested, false⟩, ⟨.step (.delivery .now), (1000 : UInt64)⟩,
    ⟨.step (.position 8), .ok shifted⟩,
    ⟨.step (.thresholds 8), .error (.transient .unreachable)⟩,
    ⟨.step (.notify (Step.failureMessage { loneTarget with strategy := 8 }
      (.chain (.transient .unreachable)))), ()⟩]

theorem runs_sereneRest :
    Runs (patient.cycle Journal.empty) (sereneStart ++ sereneRest)
      (⟨1, 1, 2, 1, 0, 0, 1⟩, ⟨1, some 1000, [(8, ⟨1000, false⟩), (5, ⟨1000, false⟩)]⟩) := by
  iterate 19 refine .call ?_
  exact .done _

theorem runs_sereneStart :
    Runs (patient.cycle Journal.empty) (sereneStart ++ [look true])
      (⟨1, 1, 1, 1, 0, 0, 0⟩, loneJournal 1 1000) := by
  iterate 15 refine .call ?_
  exact .done _

theorem answered_sereneRest : AnsweredBy serene [] (sereneStart ++ sereneRest) := by
  iterate 19 refine .cons _ ?_
  exact .nil _

theorem answered_sereneStart :
    AnsweredBy (interrupted 11 serene) [] (sereneStart ++ [look true]) := by
  iterate 15 refine .cons _ ?_
  exact .nil _

/-- The request to stop comes when a rebalance has just been broadcast: its receipt is still
fetched, and the second strategy is left alone. -/
theorem stops_gracefully_serene :
    Calm serene ∧ StopsAt 11 (interrupted 11 serene) serene ∧
      Runs (patient.cycle Journal.empty) (sereneStart ++ [look true])
        (⟨1, 1, 1, 1, 0, 0, 0⟩, loneJournal 1 1000) ∧
      Runs (patient.cycle Journal.empty) (sereneStart ++ sereneRest)
        (⟨1, 1, 2, 1, 0, 0, 1⟩, ⟨1, some 1000, [(8, ⟨1000, false⟩), (5, ⟨1000, false⟩)]⟩) ∧
      (∃ pieces all,
        Round patient (State.opening Journal.empty) [] patient.vaults pieces
          (sereneStart ++ [look true]) ⟨⟨1, 1, 1, 1, 0, 0, 0⟩, loneJournal 1 1000⟩ ∧
        WindsDown 11 [] pieces all (sereneStart ++ [look true]) (sereneStart ++ sereneRest)) ∧
      ∃ trace tallies, AnsweredBy (interrupted 11 serene) [] trace ∧
        ∀ limit, 11 < limit → Runs (patient.run limit) trace tallies := by
  have stops := stopsAt_interrupted 11 serene
  obtain ⟨cycles, -, returns⟩ := stops_gracefully calm_serene stops patient
  obtain ⟨-, pieces, all, round, -, wound⟩ := cycles _ _ _ _ _ _ _ runs_sereneStart
    answered_sereneStart runs_sereneRest answered_sereneRest
  exact ⟨calm_serene, stops, runs_sereneStart, runs_sereneRest, ⟨pieces, all, round, wound⟩,
    returns _ _⟩

end Keeper

end VaultKeeper
