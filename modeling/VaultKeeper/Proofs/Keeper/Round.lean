import VaultKeeper.Proofs.Keeper.Journey

/-! # The agenda of a cycle

A cycle has an agenda: the targets that are still to be served and the vaults that are still to be
searched. It works it off piece by piece and looks for a request to stop before each of them. A
`Round` lists the pieces that a cycle gets to, with all their exchanges and with what is counted
after each.
-/

namespace VaultKeeper

namespace Tally

/-- The counts after a search. -/
def afterSearch (tally : Tally) : Except Failure (List Target) → Tally
  | .ok _ => { tally with vaults := tally.vaults + 1 }
  | .error _ => tally.fail

/-- The counts after a visit. -/
def afterVisit (tally : Tally) (outcome : Except StepFailure Outcome) : Tally :=
  let counted := { tally with processed := tally.processed + 1 }
  match outcome with
  | .ok outcome => counted.record outcome
  | .error _ => counted.fail

end Tally

namespace Cycle

open Program

/-- A look for a request to stop. -/
def look (stopped : Bool) : Exchange Cycle :=
  ⟨.timer .stopRequested, stopped⟩

/-- An exchange that tells the operator something. -/
def telling (message : String) : Exchange Step :=
  ⟨.notify message, ()⟩

/-- A search for the strategies of a vault. -/
structure Search where
  vault : Vault
  calls : List (Exchange Registry)
  found : Except Failure (List Target)

/-- The targets that a search found; one that failed found none. -/
def Search.targets (search : Search) : List Target :=
  search.found.toOption.getD []

/-- A search of one of the vaults found a target. -/
structure Search.Finds (vaults : List Vault) (search : Search) (target : Target) : Prop where
  vault : search.vault ∈ vaults
  ran : Runs search.vault.discover search.calls search.found
  listed : ∃ targets, search.found = .ok targets ∧ target ∈ targets

/-- What the operator is told after a search. -/
def Search.complaints (search : Search) : List String :=
  match search.found with
  | .ok _ => []
  | .error failure => [discoveryMessage search.vault failure]

/-- What the operator is told after a visit. -/
def Visit.complaints (visit : Visit) : List String :=
  match visit.outcome with
  | .ok _ => []
  | .error failure => [Step.failureMessage visit.target failure]

/-- What a cycle does between two looks for a request to stop. A visit comes with the exchanges that
it takes. -/
inductive Piece where
  | search (search : Search)
  | visit (visit : Visit) (steps : List (Exchange Step))

/-- The exchanges of a piece, its complaint included. -/
def Piece.exchanges : Piece → Trace
  | .search made => made.calls.map liftRegistry ++ (made.complaints.map telling).map lift
  | .visit made steps => (steps ++ made.complaints.map telling).map lift

/-- What a cycle passes on after a piece. -/
def State.after (state : State) : Piece → State
  | .search search => { state with tally := state.tally.afterSearch search.found }
  | .visit visit _ => ⟨state.tally.afterVisit visit.outcome, visit.after⟩

/-- The searches among some pieces. -/
def searches (pieces : List Piece) : List Search :=
  pieces.filterMap fun
    | .search search => some search
    | .visit _ _ => none

/-- The visits among some pieces. -/
def visits (pieces : List Piece) : List Visit :=
  pieces.filterMap fun
    | .search _ => none
    | .visit visit _ => some visit

@[simp] theorem searches_append (first second : List Piece) :
    searches (first ++ second) = searches first ++ searches second :=
  List.filterMap_append

@[simp] theorem visits_append (first second : List Piece) :
    visits (first ++ second) = visits first ++ visits second :=
  List.filterMap_append

@[simp] theorem searches_search (search : Search) (pieces : List Piece) :
    searches (.search search :: pieces) = search :: searches pieces := rfl

@[simp] theorem searches_visit (visit : Visit) (steps : List (Exchange Step))
    (pieces : List Piece) : searches (.visit visit steps :: pieces) = searches pieces := rfl

@[simp] theorem visits_search (search : Search) (pieces : List Piece) :
    visits (.search search :: pieces) = visits pieces := rfl

@[simp] theorem visits_visit (visit : Visit) (steps : List (Exchange Step)) (pieces : List Piece) :
    visits (.visit visit steps :: pieces) = visit :: visits pieces := rfl

/-- From a state and an agenda on, a cycle gets to some pieces and ends in a state. Targets come
before vaults, and a search puts the targets that it finds on the agenda. -/
inductive Round (keeper : Keeper) :
    State → List Target → List Vault → List Piece → Trace → State → Prop
  | finished (state : State) : Round keeper state [] [] [] [] state
  | stopped (state : State) {targets : List Target} {vaults : List Vault}
      (more : targets ≠ [] ∨ vaults ≠ []) :
      Round keeper state targets vaults [] [look true] state
  | search {state later : State} {search : Search} {vaults : List Vault} {pieces : List Piece}
      {trace : Trace} (ran : Runs search.vault.discover search.calls search.found)
      (rest : Round keeper (state.after (.search search)) search.targets vaults pieces trace
        later) :
      Round keeper state [] (search.vault :: vaults) (.search search :: pieces)
        (look false :: ((Piece.search search).exchanges ++ trace)) later
  | visit {state later : State} {visit : Visit} {steps : List (Exchange Step)}
      {targets : List Target} {vaults : List Vault} {pieces : List Piece} {trace : Trace}
      (taken : visit.Takes keeper steps) (before : visit.before = state.journal)
      (rest : Round keeper (state.after (.visit visit steps)) targets vaults pieces trace later) :
      Round keeper state (visit.target :: targets) vaults (.visit visit steps :: pieces)
        (look false :: ((Piece.visit visit steps).exchanges ++ trace)) later

section

variable {keeper : Keeper} {state later : State} {trace rest : Trace}

/-- One step of a cycle is a visit with its complaint. -/
theorem visit_of_process {target : Target}
    (run : Runs (ofStep (process keeper state target)) trace later) :
    ∃ visit steps, visit.target = target ∧ visit.before = state.journal ∧
      visit.Takes keeper steps ∧ trace = (Piece.visit visit steps).exchanges ∧
      later = state.after (.visit visit steps) := by
  obtain ⟨_, ran, rfl⟩ := runs_ofStep_iff.mp run
  obtain ⟨steps, ⟨outcome, journal⟩, _, rfl, stepped, continued⟩ := runs_bind_iff.mp ran
  obtain ⟨calls, planned, carriedOut⟩ := runs_interpret_iff.mp stepped
  refine ⟨⟨target, state.journal, calls, outcome, journal⟩, steps, rfl, rfl,
    ⟨planned, carriedOut⟩, ?_⟩
  cases outcome with
  | ok outcome =>
    obtain ⟨rfl, rfl⟩ := runs_done_iff.mp continued
    exact ⟨rfl, rfl⟩
  | error failure =>
    obtain ⟨_, _, rfl, ended⟩ := runs_ask_bind_iff.mp continued
    obtain ⟨rfl, rfl⟩ := runs_done_iff.mp ended
    exact ⟨rfl, rfl⟩

/-- The targets of a vault are served in their order; `onward` says how the cycle goes on if nobody
asks it to stop meanwhile. -/
theorem round_of_processAll {targets : List Target} {vaults : List Vault} {stopped : Bool}
    {middle : State} (run : Runs (processAll keeper state targets) trace (stopped, middle))
    (halted : stopped = true → rest = [] ∧ later = middle)
    (onward : stopped = false → ∃ pieces, Round keeper middle [] vaults pieces rest later) :
    ∃ pieces, Round keeper state targets vaults pieces (trace ++ rest) later := by
  induction targets generalizing state trace with
  | nil =>
    obtain ⟨rfl, same⟩ := runs_done_iff.mp run
    cases same
    exact onward rfl
  | cons target targets ih =>
    obtain ⟨asked, _, rfl, continued⟩ := runs_ask_bind_iff.mp run
    cases asked with
    | true =>
      obtain ⟨rfl, same⟩ := runs_done_iff.mp continued
      cases same
      obtain ⟨rfl, rfl⟩ := halted rfl
      exact ⟨[], .stopped _ (.inl (List.cons_ne_nil _ _))⟩
    | false =>
      obtain ⟨_, next, others, rfl, processed, remaining⟩ := runs_bind_iff.mp continued
      obtain ⟨visit, steps, rfl, before, taken, rfl, rfl⟩ := visit_of_process processed
      obtain ⟨pieces, round⟩ := ih remaining
      refine ⟨.visit visit steps :: pieces, ?_⟩
      rw [List.cons_append, List.append_assoc]
      exact .visit taken before round

theorem round_of_visitAll {vaults : List Vault}
    (run : Runs (visitAll keeper state vaults) trace later) :
    ∃ pieces, Round keeper state [] vaults pieces trace later := by
  induction vaults generalizing state trace with
  | nil =>
    obtain ⟨rfl, rfl⟩ := runs_done_iff.mp run
    exact ⟨[], .finished _⟩
  | cons vault vaults ih =>
    obtain ⟨asked, _, rfl, continued⟩ := runs_ask_bind_iff.mp run
    cases asked with
    | true =>
      obtain ⟨rfl, rfl⟩ := runs_done_iff.mp continued
      exact ⟨[], .stopped _ (.inr (List.cons_ne_nil _ _))⟩
    | false =>
      obtain ⟨_, found, others, rfl, discovered, remaining⟩ := runs_bind_iff.mp continued
      obtain ⟨calls, ran, rfl⟩ := runs_ofRegistry_iff.mp discovered
      cases found with
      | error failure =>
        -- nothing was put on the agenda, so the next vault follows at once
        obtain ⟨_, _, rfl, visited⟩ := runs_ask_bind_iff.mp remaining
        obtain ⟨pieces, round⟩ := ih visited
        let search : Search := ⟨vault, calls, .error failure⟩
        have searched : Runs search.vault.discover search.calls search.found := ran
        refine ⟨.search search :: pieces, ?_⟩
        rw [List.append_cons]
        exact .search searched round
      | ok targets =>
        obtain ⟨serving, ⟨stopped, middle⟩, visiting, rfl, processed, visited⟩ :=
          runs_bind_iff.mp remaining
        let search : Search := ⟨vault, calls, .ok targets⟩
        have served : ∃ pieces, Round keeper (state.after (.search search)) targets vaults pieces
            (serving ++ visiting) later := by
          refine round_of_processAll processed ?_ ?_
          · rintro rfl
            exact runs_done_iff.mp visited
          · rintro rfl
            exact ih visited
        obtain ⟨pieces, round⟩ := served
        have searched : Runs search.vault.discover search.calls search.found := ran
        have exchanges : (Piece.search search).exchanges = calls.map liftRegistry :=
          List.append_nil _
        exact ⟨.search search :: pieces, exchanges ▸ .search searched round⟩

/-- Where a cycle starts. -/
def State.opening (journal : Journal) : State :=
  ⟨Tally.start journal.beginCycle.cycle, journal.beginCycle⟩

section

variable {targets : List Target} {vaults : List Vault} {pieces : List Piece}

/-- Every visit of a cycle is a step of its keeper. -/
theorem Round.takes (round : Round keeper state targets vaults pieces trace later) :
    ∀ visit steps, .visit visit steps ∈ pieces → visit.Takes keeper steps := by
  induction round with
  | finished | stopped => simp
  | search _ _ ih =>
    intro visit steps member
    rcases List.mem_cons.mp member with same | member
    · cases same
    · exact ih visit steps member
  | visit taken _ _ ih =>
    intro visit steps member
    rcases List.mem_cons.mp member with same | member
    · cases same
      exact taken
    · exact ih visit steps member

/-- What is visited was on the agenda from the start, or else the last search before found it. -/
theorem Round.found (round : Round keeper state targets vaults pieces trace later)
    {front back : List Piece} {visit : Visit} {steps : List (Exchange Step)}
    (split : pieces = front ++ .visit visit steps :: back) :
    (searches front = [] ∧ visit.target ∈ targets) ∨
      ∃ search, (searches front).getLast? = some search ∧ search.Finds vaults visit.target := by
  induction round generalizing front with
  | finished | stopped => simp at split
  | @search state later search vaults pieces trace ran _ ih =>
    cases front with
    | nil => cases split
    | cons piece front =>
      rw [List.cons_append] at split
      obtain ⟨rfl, same⟩ := List.cons.inj split
      rw [searches_search, List.getLast?_cons]
      refine .inr ?_
      obtain ⟨first, listed⟩ | ⟨last, latest, vault, searched, lists⟩ := ih same
      · rw [first]
        refine ⟨search, rfl, List.mem_cons_self, ran, ?_⟩
        unfold Search.targets at listed
        cases found : search.found with
        | error failure =>
          rw [found] at listed
          cases listed
        | ok targets =>
          rw [found] at listed
          exact ⟨targets, rfl, listed⟩
      · rw [latest]
        exact ⟨last, rfl, List.mem_cons_of_mem _ vault, searched, lists⟩
  | @visit state later made steps' targets vaults pieces trace _ _ _ ih =>
    cases front with
    | nil =>
      cases split
      exact .inl ⟨rfl, List.mem_cons_self⟩
    | cons piece front =>
      rw [List.cons_append] at split
      obtain ⟨rfl, same⟩ := List.cons.inj split
      obtain ⟨first, listed⟩ | found := ih same
      · exact .inl ⟨first, List.mem_cons_of_mem _ listed⟩
      · exact .inr found

end

/-- Every cycle works off the vaults of its keeper. -/
theorem round_of_cycle {journal after : Journal} {tally : Tally}
    (run : Runs (keeper.cycle journal) trace (tally, after)) :
    ∃ pieces, Round keeper (State.opening journal) [] keeper.vaults pieces trace
      ⟨tally, after⟩ := by
  obtain ⟨later, visited, same⟩ := runs_bind_done_iff.mp run
  cases same
  exact round_of_visitAll visited

end

end Cycle

end VaultKeeper
