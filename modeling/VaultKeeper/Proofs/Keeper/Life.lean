import VaultKeeper.Proofs.Keeper.Round
import VaultKeeper.Proofs.Program.Agreement

/-! # The life of a keeper

A run is ticks of a poller with a cycle after each of them but the last. `Life` lists the pieces of
all its cycles. A run is over when a tick says so; only where that does not happen in time does the
limit on the number of cycles count.
-/

namespace VaultKeeper

namespace Poller

open Program

variable {poller next : Poller} {step : PollStep} {trace : List (Exchange Timer)}

/-- What a tick can do: see a request to stop, count an attempt or find none left without waiting,
or wait first. -/
theorem tick_cases (run : Runs poller.tick trace (step, next)) :
    (trace = [⟨.stopRequested, true⟩] ∧ step = .cancelled) ∨
    trace = [⟨.stopRequested, false⟩] ∨
    ∃ completed, trace = [⟨.stopRequested, false⟩, ⟨.sleep poller.policy.interval, completed⟩] ∧
      (step, next) = if completed then poller.count else (.cancelled, poller) := by
  obtain ⟨stopped, _, rfl, continued⟩ := runs_ask_bind_iff.mp run
  cases stopped with
  | true =>
    obtain ⟨rfl, same⟩ := runs_done_iff.mp continued
    cases same
    exact .inl ⟨rfl, rfl⟩
  | false =>
    simp only [Bool.false_eq_true, if_false] at continued
    split at continued
    · obtain ⟨rfl, _⟩ := runs_done_iff.mp continued
      exact .inr (.inl rfl)
    · split at continued
      · obtain ⟨rfl, _⟩ := runs_done_iff.mp continued
        exact .inr (.inl rfl)
      · obtain ⟨completed, _, rfl, ended⟩ := runs_ask_bind_iff.mp continued
        obtain ⟨rfl, same⟩ := runs_done_iff.mp ended
        exact .inr (.inr ⟨completed, rfl, same⟩)

end Poller

namespace Cycle

open Program

/-- The pieces that a run gets to, its exchanges and its tallies. -/
inductive Life (keeper : Keeper) :
    Nat → Poller → Journal → List Piece → Trace → List Tally → Prop
  | spent (poller : Poller) (journal : Journal) : Life keeper 0 poller journal [] [] []
  | ended {limit : Nat} {poller next : Poller} {step : PollStep} (journal : Journal)
      {ticking : List (Exchange Timer)} (ticked : Runs poller.tick ticking (step, next))
      (last : ∀ number, step ≠ .attempt number) :
      Life keeper (limit + 1) poller journal [] (ticking.map liftTimer) []
  | cycle {limit : Nat} {poller next : Poller} {journal middle : Journal} {number : UInt32}
      {tally : Tally} {tallies : List Tally} {ticking : List (Exchange Timer)}
      {made pieces : List Piece} {trace later : Trace}
      (ticked : Runs poller.tick ticking (.attempt number, next))
      (round : Round keeper (State.opening journal) [] keeper.vaults made trace ⟨tally, middle⟩)
      (rest : Life keeper limit next middle pieces later tallies) :
      Life keeper (limit + 1) poller journal (made ++ pieces)
        (ticking.map liftTimer ++ (trace ++ ⟨.report tally, ()⟩ :: later)) (tally :: tallies)

variable {keeper : Keeper} {limit : Nat} {poller : Poller} {journal : Journal} {trace : Trace}
  {tallies : List Tally}

/-- Every run has its life. -/
theorem life_of_runFrom (run : Runs (keeper.runFrom limit poller journal) trace tallies) :
    ∃ pieces, Life keeper limit poller journal pieces trace tallies := by
  induction limit generalizing poller journal trace tallies with
  | zero =>
    obtain ⟨rfl, rfl⟩ := runs_done_iff.mp run
    exact ⟨[], .spent poller journal⟩
  | succ limit ih =>
    obtain ⟨_, ⟨step, next⟩, rest, rfl, lifted, continued⟩ := runs_bind_iff.mp run
    obtain ⟨ticking, ticked, rfl⟩ := runs_ofTimer_iff.mp lifted
    cases step with
    | attempt number =>
      obtain ⟨cycling, ⟨tally, middle⟩, others, rfl, cycled, remaining⟩ :=
        runs_bind_iff.mp continued
      obtain ⟨_, onward, rfl, again⟩ := runs_ask_bind_iff.mp remaining
      obtain ⟨later, followed, rfl⟩ := runs_bind_done_iff.mp again
      obtain ⟨made, round⟩ := round_of_cycle cycled
      obtain ⟨pieces, life⟩ := ih followed
      exact ⟨made ++ pieces, .cycle ticked round life⟩
    | exhausted | cancelled =>
      obtain ⟨rfl, rfl⟩ := runs_done_iff.mp continued
      rw [List.append_nil]
      exact ⟨[], .ended journal ticked nofun⟩

/-- Every visit of a run is a step of its keeper for a target which the last search before it found,
since each cycle begins with an agenda of vaults only. -/
theorem Life.visited {pieces : List Piece}
    (life : Life keeper limit poller journal pieces trace tallies) {front back : List Piece}
    {visit : Visit} {steps : List (Exchange Step)}
    (split : pieces = front ++ .visit visit steps :: back) :
    visit.Takes keeper steps ∧ ∃ search, (searches front).getLast? = some search ∧
      search.Finds keeper.vaults visit.target := by
  induction life generalizing front with
  | spent | ended => simp at split
  | @cycle _ _ _ _ _ _ _ _ _ made pieces _ _ _ round _ ih =>
    obtain ⟨more, rfl, rest⟩ | ⟨more, begun, rest⟩ := List.append_eq_append_iff.mp split
    · obtain ⟨taken, search, latest, finds⟩ := ih rest
      refine ⟨taken, search, ?_, finds⟩
      rw [searches_append, List.getLast?_append, latest]
      rfl
    · cases more with
      | nil =>
        -- the visit would be the first piece of a cycle
        have first : pieces = [] ++ .visit visit steps :: back := rest.symm
        obtain ⟨_, search, latest, _⟩ := ih first
        cases latest
      | cons piece more =>
        obtain ⟨rfl, -⟩ := List.cons.inj rest
        have taken := round.takes visit steps (begun ▸ List.mem_append_right _ List.mem_cons_self)
        obtain ⟨_, listed⟩ | found := round.found begun
        · cases listed
        · exact ⟨taken, found⟩

/-- A run of fewer cycles than it is allowed comes to its end by itself: no higher limit makes a
difference. -/
theorem runs_of_length_lt (run : Runs (keeper.runFrom limit poller journal) trace tallies)
    (short : tallies.length < limit) (more : Nat) :
    Runs (keeper.runFrom (limit + more) poller journal) trace tallies := by
  induction limit generalizing poller journal trace tallies with
  | zero => exact absurd short (Nat.not_lt_zero _)
  | succ limit ih =>
    rw [Nat.add_right_comm]
    obtain ⟨_, ⟨step, next⟩, rest, rfl, ticked, continued⟩ := runs_bind_iff.mp run
    refine runs_bind_iff.mpr ⟨_, (step, next), rest, rfl, ticked, ?_⟩
    cases step with
    | attempt number =>
      obtain ⟨cycling, ⟨tally, middle⟩, others, rfl, cycled, remaining⟩ :=
        runs_bind_iff.mp continued
      obtain ⟨_, onward, rfl, again⟩ := runs_ask_bind_iff.mp remaining
      obtain ⟨later, followed, rfl⟩ := runs_bind_done_iff.mp again
      -- one cycle is spent, of those that are allowed and of those that are made
      have further := ih followed (Nat.lt_of_succ_lt_succ short)
      refine runs_bind_iff.mpr ⟨cycling, (tally, middle), _, rfl, cycled, ?_⟩
      exact runs_ask_bind_iff.mpr ⟨_, onward, rfl, runs_bind_done_iff.mpr ⟨later, further, rfl⟩⟩
    | exhausted | cancelled => exact continued

end Cycle

end VaultKeeper
