import VaultKeeper.Proofs.Keeper.Cooldown
import VaultKeeper.Proofs.Keeper.Notices

/-! # The counts of a cycle

Each piece of a cycle moves the counts by what came of it, and tells the operator what
`Piece.notices` lists. Added up over a whole cycle, wherever it is broken off, the counts balance
with its pieces and with the number of messages.
-/

namespace VaultKeeper

namespace Cycle

open Program

/-- The vault that an exchange begins to search, if it does. -/
def searched? : Exchange Cycle → Option Address
  | ⟨.registry (.splitterOf vault), _⟩ => some vault
  | _ => none

/-- The vaults that are searched, in their order. -/
def discoveries (trace : Trace) : List Address :=
  trace.filterMap searched?

@[simp] theorem discoveries_append (first second : Trace) :
    discoveries (first ++ second) = discoveries first ++ discoveries second :=
  List.filterMap_append

/-- The search failed. -/
def Search.failed (search : Search) : Bool := !search.found.isOk

/-- The step failed. -/
def Visit.failed (visit : Visit) : Bool := !visit.outcome.isOk

/-- The step left everything as it was. -/
def Visit.idle (visit : Visit) : Bool :=
  match visit.outcome with
  | .ok (.idle _) | .ok (.executed (.idle _)) => true
  | _ => false

/-- The step found an age that is too high. -/
def Visit.stuck (settings : KeeperSettings) (visit : Visit) : Bool :=
  (visit.age settings).isSome

/-- All that the operator is told in a piece. -/
def Piece.notices (settings : KeeperSettings) : Piece → List String
  | .search made => made.complaints
  | .visit made _ => made.notices settings

/-- How far the counts move over some pieces. -/
structure Counts (before after : Tally) (pieces : List Piece) : Prop where
  vaults : after.vaults + (searches pieces).countP Search.failed =
    before.vaults + (searches pieces).length
  processed : after.processed = before.processed + (visits pieces).length
  rebalanced : after.rebalanced = before.rebalanced + (visits pieces).countP Visit.rebalanced
  reducedDebt : after.reducedDebt = before.reducedDebt + (visits pieces).countP Visit.reducedDebt
  idle : after.idle = before.idle + (visits pieces).countP Visit.idle
  failed : after.failed = before.failed + (searches pieces).countP Search.failed +
    (visits pieces).countP Visit.failed

section

variable {keeper : Keeper} {state later : State} {targets : List Target} {vaults : List Vault}
  {pieces first second : List Piece} {trace : Trace}

theorem Counts.trans {start middle stop : Tally} (before : Counts start middle first)
    (after : Counts middle stop second) : Counts start stop (first ++ second) := by
  obtain ⟨vaults, processed, rebalanced, reducedDebt, idle, failed⟩ := before
  obtain ⟨vaults', processed', rebalanced', reducedDebt', idle', failed'⟩ := after
  constructor <;> simp only [searches_append, visits_append, List.countP_append,
    List.length_append] <;> omega

/-- A search counts as a vault or as a failure. -/
theorem counts_search (search : Search) :
    Counts state.tally (state.after (.search search)).tally [.search search] := by
  obtain ⟨vault, calls, found⟩ := search
  cases found <;> constructor <;> rfl

/-- A visit counts as processed, and as what came of it. -/
theorem counts_visit (visit : Visit) (steps : List (Exchange Step)) :
    Counts state.tally (state.after (.visit visit steps)).tally [.visit visit steps] := by
  obtain ⟨target, before, calls, outcome, after⟩ := visit
  rcases outcome with failure | (reason | (reason | - | reduction)) <;> constructor <;> rfl

theorem counts_of_round (round : Round keeper state targets vaults pieces trace later) :
    Counts state.tally later.tally pieces := by
  induction round with
  | finished | stopped => constructor <;> rfl
  | search _ _ ih => exact (counts_search _).trans ih
  | visit _ _ _ ih => exact (counts_visit _ _).trans ih

/-- Every visit comes to exactly one of four ends. -/
theorem length_visits (visits : List Visit) :
    visits.length = visits.countP Visit.rebalanced + visits.countP Visit.reducedDebt +
      visits.countP Visit.idle + visits.countP Visit.failed := by
  induction visits with
  | nil => rfl
  | cons visit visits ih =>
    obtain ⟨target, before, calls, outcome, after⟩ := visit
    simp only [List.length_cons, List.countP_cons, ih]
    rcases outcome with failure | (reason | (reason | - | reduction)) <;>
      simp only [Visit.rebalanced, Visit.reducedDebt, Visit.idle, Visit.failed, Except.isOk,
        Except.toBool] <;> grind

/-- A search begins with its vault and comes back to none. -/
theorem discoveries_search {search : Search}
    (ran : Runs search.vault.discover search.calls search.found) :
    discoveries (Piece.search search).exchanges = [search.vault.address] := by
  have silent : discoveries ((search.complaints.map telling).map lift) = [] := by
    simp [discoveries, List.filterMap_map, Function.comp_def, lift, searched?]
  rw [Piece.exchanges, discoveries_append, silent, List.append_nil]
  obtain ⟨answer, rest, same, continued⟩ := runs_ask_bind_iff.mp ran
  rw [same]
  rcases answer with failure | (_ | splitter)
  · obtain ⟨rfl, _⟩ := runs_done_iff.mp continued
    rfl
  · obtain ⟨rfl, _⟩ := runs_done_iff.mp continued
    rfl
  · obtain ⟨listed, _, rfl, ended⟩ := runs_ask_bind_iff.mp continued
    cases listed <;> obtain ⟨rfl, _⟩ := runs_done_iff.mp ended <;> rfl

theorem discoveries_visit (visit : Visit) (steps : List (Exchange Step)) :
    discoveries (Piece.visit visit steps).exchanges = [] := by
  simp [Piece.exchanges, discoveries, List.filterMap_map, Function.comp_def, lift, searched?]

/-- The vaults that a cycle searches are those of its searches. -/
theorem discoveries_of_round (round : Round keeper state targets vaults pieces trace later) :
    discoveries trace = (searches pieces).map fun search => search.vault.address := by
  induction round with
  | finished | stopped => rfl
  | @search _ _ search _ pieces trace ran _ ih =>
    calc discoveries (look false :: ((Piece.search search).exchanges ++ trace))
      _ = discoveries (Piece.search search).exchanges ++ discoveries trace := discoveries_append _ _
      _ = [search.vault.address] ++ (searches pieces).map fun search => search.vault.address := by
        rw [discoveries_search ran, ih]
  | @visit _ _ visit steps _ _ pieces trace _ _ _ ih =>
    calc discoveries (look false :: ((Piece.visit visit steps).exchanges ++ trace))
      _ = discoveries (Piece.visit visit steps).exchanges ++ discoveries trace :=
        discoveries_append _ _
      _ = (searches pieces).map fun search => search.vault.address := by
        rw [discoveries_visit, ih, List.nil_append]

theorem notices_search (search : Search) :
    notices (Piece.search search).exchanges = search.complaints := by
  rw [Piece.exchanges, notices_append, notices_liftRegistry, notices_telling, List.nil_append]

/-- What the operator is told in a cycle is what each of its pieces tells. -/
theorem notices_of_round (round : Round keeper state targets vaults pieces trace later) :
    notices trace = pieces.flatMap (Piece.notices keeper.settings) := by
  induction round with
  | finished | stopped => rfl
  | @search _ _ search _ pieces trace _ _ ih =>
    calc notices (look false :: ((Piece.search search).exchanges ++ trace))
      _ = notices (Piece.search search).exchanges ++ notices trace := notices_append _ _
      _ = search.complaints ++ pieces.flatMap (Piece.notices keeper.settings) := by
        rw [notices_search, ih]
  | @visit _ _ visit steps _ _ pieces trace taken _ _ ih =>
    calc notices (look false :: ((Piece.visit visit steps).exchanges ++ trace))
      _ = notices (Piece.visit visit steps).exchanges ++ notices trace := notices_append _ _
      _ = visit.notices keeper.settings ++ pieces.flatMap (Piece.notices keeper.settings) := by
        rw [notices_of_takes taken, ih]

theorem length_complaints_search (search : Search) :
    search.complaints.length = if search.failed then 1 else 0 := by
  obtain ⟨vault, calls, found⟩ := search
  cases found <;> rfl

theorem length_complaints_visit (visit : Visit) :
    visit.complaints.length = if visit.failed then 1 else 0 := by
  obtain ⟨target, before, calls, outcome, after⟩ := visit
  cases outcome <;> rfl

theorem length_notices_visit {settings : KeeperSettings} (visit : Visit) :
    (visit.notices settings).length = (if visit.stuck settings then 1 else 0) +
      visit.successes.length + if visit.failed then 1 else 0 := by
  rw [Visit.notices, List.length_append, List.length_append, length_complaints_visit,
    List.length_map, Visit.stuck]
  cases visit.age settings <;> rfl

/-- The operator gets one message for each failed search, for each visit that failed or carried
something out, and for each age that is too high. -/
theorem length_notices_of_round (round : Round keeper state targets vaults pieces trace later) :
    (notices trace).length =
      (searches pieces).countP Search.failed + (visits pieces).countP Visit.failed +
        (visits pieces).countP Visit.rebalanced + (visits pieces).countP Visit.reducedDebt +
        (visits pieces).countP (Visit.stuck keeper.settings) := by
  rw [notices_of_round round]
  induction round with
  | finished | stopped => rfl
  | search _ _ ih =>
    rw [List.flatMap_cons, List.length_append, ih, Piece.notices, length_complaints_search,
      searches_search, visits_search, List.countP_cons]
    omega
  | visit taken _ _ ih =>
    rw [List.flatMap_cons, List.length_append, ih, Piece.notices, length_notices_visit,
      length_successes taken, searches_visit, visits_visit]
    simp only [List.countP_cons]
    omega

end

end Cycle

namespace Keeper

open Program VaultKeeper.Cycle

/-- What the counts of a cycle and its messages have to do with its pieces. -/
structure Accounts (settings : KeeperSettings) (pieces : List Piece) (trace : Cycle.Trace)
    (tally : Tally) : Prop where
  /-- The vaults that were searched were found or failed. -/
  searched : tally.vaults + (searches pieces).countP Search.failed = (discoveries trace).length
  /-- The strategies that were served were acted on, left as they were or failed. -/
  served : tally.processed = tally.rebalanced + tally.reducedDebt + tally.idle +
    (visits pieces).countP Visit.failed
  failed : tally.failed = (searches pieces).countP Search.failed +
    (visits pieces).countP Visit.failed
  /-- The messages are those of the pieces, in their order. -/
  told : notices trace = pieces.flatMap (Piece.notices settings)
  notified : (notices trace).length = (searches pieces).countP Search.failed +
    (visits pieces).countP Visit.failed + tally.rebalanced + tally.reducedDebt +
    (visits pieces).countP (Visit.stuck settings)

/-- The counts of every cycle balance, whatever is found or answered in it and wherever it is broken
off, and the operator gets one message for each thing that there is to tell. -/
theorem cycle_accounts {keeper : Keeper} {journal after : Journal} {trace : Cycle.Trace}
    {tally : Tally} (run : Runs (keeper.cycle journal) trace (tally, after)) :
    (∃ pieces, Round keeper (State.opening journal) [] keeper.vaults pieces trace ⟨tally, after⟩) ∧
    ∀ pieces, Round keeper (State.opening journal) [] keeper.vaults pieces trace ⟨tally, after⟩ →
      Counts (Tally.start journal.beginCycle.cycle) tally pieces ∧
        Accounts keeper.settings pieces trace tally := by
  refine ⟨round_of_cycle run, fun pieces round => ?_⟩
  have counts : Counts (Tally.start journal.beginCycle.cycle) tally pieces := counts_of_round round
  obtain ⟨vaults, processed, rebalanced, reducedDebt, idle, failed⟩ := id counts
  simp only [Tally.start, Nat.zero_add] at vaults processed rebalanced reducedDebt idle failed
  refine ⟨counts, ?_, ?_, failed, notices_of_round round, ?_⟩
  · rw [vaults, discoveries_of_round round, List.length_map]
  · rw [processed, rebalanced, reducedDebt, idle, length_visits]
  · rw [length_notices_of_round round, rebalanced, reducedDebt]

/-- A keeper of two vaults that is alarmed at once. -/
def wary : Keeper where
  courier := lone.courier
  settings := { lone.settings with stuckAlert := 0 }
  vaults := ⟨"dark", 6, .uniswapV3, []⟩ :: lone.vaults

/-- What the operator is told when nothing goes well. -/
def waryNotices : List String :=
  [discoveryMessage ⟨"dark", 6, .uniswapV3, []⟩ (.transient .unreachable),
    Step.stuckMessage loneTarget 0,
    Step.failureMessage loneTarget (.chain (.transient .unreachable))]

/-- A cycle in which nothing goes well: the first vault cannot be searched, and the rebalance of the
strategy of the second gets no fee. -/
def waryTurn : Cycle.Trace :=
  [⟨.timer .stopRequested, false⟩, ⟨.registry (.splitterOf 6), .error (.transient .unreachable)⟩,
    ⟨.step (.notify (waryNotices[0])), ()⟩, ⟨.timer .stopRequested, false⟩,
    ⟨.registry (.splitterOf 3), .ok (some 4)⟩, ⟨.registry (.strategiesOf 4), .ok [5]⟩,
    ⟨.timer .stopRequested, false⟩, ⟨.step (.delivery .now), 1000⟩,
    ⟨.step (.position 5), .ok shifted⟩, ⟨.step (.notify (waryNotices[1])), ()⟩,
    ⟨.step (.isPaused 4 5), .ok false⟩,
    ⟨.step (.delivery .offeredFee), .error (.transient .unreachable)⟩,
    ⟨.step (.delivery .now), 1001⟩, ⟨.step (.notify (waryNotices[2])), ()⟩]

theorem runs_waryTurn :
    Runs (wary.cycle Journal.empty) waryTurn
      (⟨1, 1, 1, 0, 0, 0, 2⟩, ⟨1, some 1001, [(5, ⟨1000, true⟩)]⟩) :=
  .call (.call (.call (.call (.call (.call (.call (.call (.call (.call (.call (.call (.call (.call
    (.done _))))))))))))))

/-- Three messages for one failed search, one alarm and one failed step. -/
theorem cycle_accounts_wary :
    Runs (wary.cycle Journal.empty) waryTurn
        (⟨1, 1, 1, 0, 0, 0, 2⟩, ⟨1, some 1001, [(5, ⟨1000, true⟩)]⟩) ∧
      notices waryTurn = waryNotices ∧ discoveries waryTurn = [6, 3] ∧
      ∃ pieces, Round wary (State.opening Journal.empty) [] wary.vaults pieces waryTurn
          ⟨⟨1, 1, 1, 0, 0, 0, 2⟩, ⟨1, some 1001, [(5, ⟨1000, true⟩)]⟩⟩ ∧
        Accounts wary.settings pieces waryTurn ⟨1, 1, 1, 0, 0, 0, 2⟩ := by
  obtain ⟨⟨pieces, round⟩, balanced⟩ := cycle_accounts runs_waryTurn
  exact ⟨runs_waryTurn, rfl, rfl, pieces, round, (balanced pieces round).2⟩

end Keeper

end VaultKeeper
