import VaultKeeper.Proofs.Poll

/-! # Calls, loops and surroundings

What can be said of every run of a program, whatever is answered: which calls it makes, and what a
loop keeps from turn to turn. A run leaves the answers open; surroundings decide on them.
-/

namespace VaultKeeper.Program

variable {I : Interface} {σ α β : Type} {allowed : I.Call → Prop}

/-! ## Which calls a program can make

A bound on the calls of a program, over all its runs, is kept by sequencing and by polling, so that
a bound on a loop follows from bounds on the parts of its body.
-/

/-- Whatever the answers are, every call of the program is an allowed one. -/
def Calls (allowed : I.Call → Prop) (p : Program I α) : Prop :=
  ∀ trace a, Runs p trace a → ∀ exchange ∈ trace, allowed exchange.call

theorem Calls.done (a : α) : Calls allowed (done a) := by
  intro trace result run
  obtain ⟨rfl, _⟩ := runs_done_iff.mp run
  simp

theorem Calls.ask {request : I.Call} (permitted : allowed request) :
    Calls allowed (ask request) := by
  intro trace answer run
  obtain rfl := runs_ask_iff.mp run
  simpa using permitted

theorem Calls.bind {p : Program I α} {f : α → Program I β} (first : Calls allowed p)
    (rest : ∀ a, Calls allowed (f a)) : Calls allowed (p >>= f) := by
  intro trace b run exchange member
  obtain ⟨before, a, after, rfl, ran, continued⟩ := runs_bind_iff.mp run
  rcases List.mem_append.mp member with member | member
  · exact first before a ran exchange member
  · exact rest a after b continued exchange member

theorem Calls.pollUntil {wait : Program I Unit} {check : Program I (Option α)}
    (waits : Calls allowed wait) (checks : Calls allowed check) (rounds : Nat) :
    Calls allowed (pollUntil wait check rounds) := by
  match rounds with
  | 0 => exact .done none
  | 1 => exact checks
  | rounds + 2 =>
    refine .bind checks fun found => ?_
    cases found with
    | some value => exact .done (some value)
    | none => exact .bind waits fun _ => .pollUntil waits checks (rounds + 1)

/-! ## Loops without a bound

A loop repeats its body until the body says that it is done. Nothing in `Iterates` limits how often
that is. An invariant of the turns made so far, of their exchanges and of the state holds before the
last turn as well, which is where bounds on all of them come from.
-/

/-- From a state on, the turns of a loop end with a result. The body answers the state to go on with
or, when it is done, the result. -/
inductive Iterates (body : σ → Program I (σ ⊕ α)) :
    σ → (turns : Nat) → List (Exchange I) → α → Prop
  | done {state : σ} {trace : List (Exchange I)} {a : α} (last : Runs (body state) trace (.inr a)) :
      Iterates body state 1 trace a
  | again {state next : σ} {turns : Nat} {first rest : List (Exchange I)} {a : α}
      (turn : Runs (body state) first (.inl next)) (later : Iterates body next turns rest a) :
      Iterates body state (turns + 1) (first ++ rest) a

/-- What holds after some turns with some exchanges, and is kept by every further turn, holds before
the last turn. -/
theorem Iterates.invariant {body : σ → Program I (σ ⊕ α)} {state : σ} {turns made : Nat}
    {past trace : List (Exchange I)} {a : α} {holds : Nat → List (Exchange I) → σ → Prop}
    (kept : ∀ {made past state next first}, holds made past state →
      Runs (body state) first (.inl next) → holds (made + 1) (past ++ first) next)
    (loop : Iterates body state turns trace a) (start : holds made past state) :
    ∃ before final last, past ++ trace = before ++ last ∧
      holds (made + (turns - 1)) before final ∧ Runs (body final) last (.inr a) ∧ 0 < turns := by
  induction loop generalizing made past with
  | done last => exact ⟨past, _, _, rfl, start, last, Nat.one_pos⟩
  | @again state next turns first rest a turn later ih =>
    obtain ⟨before, final, last, same, holds, ended, some⟩ := ih (kept start turn)
    refine ⟨before, final, last, (List.append_assoc past first rest) ▸ same, ?_, ended, by omega⟩
    have count : made + 1 + (turns - 1) = made + (turns + 1 - 1) := by omega
    exact count ▸ holds

/-! ## Definite surroundings

Surroundings answer each call in the light of all exchanges before it, with a success or a failure,
but always with something. So there are none where a call has no answer, and in any that there are
every program comes to an end.
-/

/-- What is answered to each call after some exchanges. -/
abbrev Surroundings (I : Interface) := List (Exchange I) → (call : I.Call) → I.Answer call

/-- With the exchanges of `past` behind them, some surroundings give all the answers of a trace. -/
inductive AnsweredBy (surroundings : Surroundings I) :
    (past trace : List (Exchange I)) → Prop
  | nil (past : List (Exchange I)) : AnsweredBy surroundings past []
  | cons {past rest : List (Exchange I)} (call : I.Call)
      (later : AnsweredBy surroundings (past ++ [⟨call, surroundings past call⟩]) rest) :
      AnsweredBy surroundings past (⟨call, surroundings past call⟩ :: rest)

theorem exists_answered_run (surroundings : Surroundings I) (past : List (Exchange I))
    (p : Program I α) : ∃ trace a, Runs p trace a ∧ AnsweredBy surroundings past trace := by
  induction p generalizing past with
  | done a => exact ⟨[], a, .done a, .nil past⟩
  | call request next ih =>
    let exchange : Exchange I := ⟨request, surroundings past request⟩
    obtain ⟨trace, a, ran, answered⟩ := ih exchange.answer (past ++ [exchange])
    exact ⟨exchange :: trace, a, .call ran, .cons request answered⟩

end VaultKeeper.Program
