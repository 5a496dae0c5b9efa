import VaultKeeper.Program

/-! # Programs whose calls are programs again

A handler answers each call of a program by a program of its own. Interpreting the calls of `p`
this way makes the exchanges of the handlers, call after call, and nothing else: a run of the
interpreted program is a run of `p` with every exchange expanded. A handler may also pass a state
on from call to call.
-/

namespace VaultKeeper.Program

variable {I J : Interface} {α β : Type}

@[simp] theorem runs_ask_iff {request : I.Call} {trace : List (Exchange I)}
    {answer : I.Answer request} :
    Runs (ask request) trace answer ↔ trace = [⟨request, answer⟩] := by
  constructor
  · intro run
    cases run with
    | call rest =>
      cases rest
      rfl
  · rintro rfl
    exact .call (.done answer)

/-- A run that starts with a call is the call's exchange and a run of what follows. -/
theorem runs_ask_bind_iff {request : I.Call} {f : I.Answer request → Program I β}
    {trace : List (Exchange I)} {b : β} :
    Runs (ask request >>= f) trace b ↔
      ∃ answer rest, trace = ⟨request, answer⟩ :: rest ∧ Runs (f answer) rest b := by
  rw [ask, call_bind, runs_call_iff]
  rfl

/-- Where a call has an answer, a program that starts with it breaks off only later. -/
theorem breaks_ask_bind_iff {request call : I.Call} {f : I.Answer request → Program I β}
    {trace : List (Exchange I)} (answered : Nonempty (I.Answer request)) :
    Breaks (ask request >>= f) trace call ↔
      ∃ answer rest, trace = ⟨request, answer⟩ :: rest ∧ Breaks (f answer) rest call := by
  obtain ⟨answer⟩ := answered
  rw [ask, call_bind, breaks_call_iff]
  exact or_iff_right fun ⟨unanswered, _⟩ => unanswered answer

/-- What is only computed from a result leaves the exchanges as they are. -/
theorem runs_bind_done_iff {p : Program I α} {f : α → β} {trace : List (Exchange I)} {b : β} :
    Runs (p >>= fun a => done (f a)) trace b ↔ ∃ a, Runs p trace a ∧ b = f a := by
  rw [runs_bind_iff]
  constructor
  · rintro ⟨first, a, second, rfl, ran, ended⟩
    obtain ⟨rfl, rfl⟩ := runs_done_iff.mp ended
    exact ⟨a, (List.append_nil first).symm ▸ ran, rfl⟩
  · rintro ⟨a, ran, rfl⟩
    exact ⟨trace, a, [], (List.append_nil trace).symm, ran, .done _⟩

/-- The exchanges of some calls, each replaced by a run of its handler with the same answer. -/
inductive Expands (handler : (call : J.Call) → Program I (J.Answer call)) :
    List (Exchange J) → List (Exchange I) → Prop
  | nil : Expands handler [] []
  | cons {call : J.Call} {answer : J.Answer call} {calls : List (Exchange J)}
      {head tail : List (Exchange I)} (handled : Runs (handler call) head answer)
      (rest : Expands handler calls tail) :
      Expands handler (⟨call, answer⟩ :: calls) (head ++ tail)

/-- The exchanges of some calls are those of the first of them and then those of the others. -/
theorem expands_append_iff {handler : (call : J.Call) → Program I (J.Answer call)}
    {early late : List (Exchange J)} {trace : List (Exchange I)} :
    Expands handler (early ++ late) trace ↔
      ∃ first second, trace = first ++ second ∧ Expands handler early first ∧
        Expands handler late second := by
  induction early generalizing trace with
  | nil =>
    constructor
    · intro expands
      exact ⟨[], trace, rfl, .nil, expands⟩
    · rintro ⟨_, second, rfl, ⟨⟩, expands⟩
      exact expands
  | cons exchange early ih =>
    constructor
    · rintro (_ | @⟨_, _, _, head, _, handled, expands⟩)
      obtain ⟨first, second, rfl, before, after⟩ := ih.mp expands
      exact ⟨head ++ first, second, (List.append_assoc _ _ _).symm, .cons handled before, after⟩
    · rintro ⟨_, second, rfl, _ | @⟨_, _, _, head, first, handled, before⟩, after⟩
      rw [List.append_assoc]
      exact .cons handled (ih.mpr ⟨first, second, rfl, before, after⟩)

theorem runs_interpret_iff {handler : (call : J.Call) → Program I (J.Answer call)}
    {p : Program J α} {trace : List (Exchange I)} {a : α} :
    Runs (p.interpret handler) trace a ↔ ∃ calls, Runs p calls a ∧ Expands handler calls trace := by
  induction p generalizing trace with
  | done value =>
    constructor
    · intro run
      obtain ⟨rfl, rfl⟩ := runs_done_iff.mp run
      exact ⟨[], .done _, .nil⟩
    · rintro ⟨calls, run, expands⟩
      obtain ⟨rfl, rfl⟩ := runs_done_iff.mp run
      cases expands
      exact .done _
  | call request next ih =>
    simp only [interpret, runs_bind_iff, ih]
    constructor
    · rintro ⟨head, answer, tail, rfl, handled, calls, run, expands⟩
      exact ⟨⟨request, answer⟩ :: calls, .call run, .cons handled expands⟩
    · rintro ⟨calls, run, expands⟩
      cases run with
      | call run =>
        cases expands with
        | cons handled expands => exact ⟨_, _, _, rfl, handled, _, run, expands⟩

/-- The one call of a program is answered by its handler. -/
theorem interpret_ask {handler : (call : J.Call) → Program I (J.Answer call)} (request : J.Call) :
    (ask request).interpret handler = handler request :=
  bind_done (handler request)

/-- What a program does first is answered first. -/
theorem interpret_bind {handler : (call : J.Call) → Program I (J.Answer call)} {p : Program J α}
    {f : α → Program J β} :
    (p >>= f).interpret handler = p.interpret handler >>= fun a => (f a).interpret handler := by
  induction p with
  | done a => rfl
  | call request next ih => simp only [call_bind, interpret, ih, bind_assoc]

/-- A handler that answers each call by a single call of its own only relabels the exchanges. -/
theorem runs_relabel_iff {handler : (call : J.Call) → Program I (J.Answer call)}
    {label : Exchange J → Exchange I} {p : Program J α} {trace : List (Exchange I)} {a : α}
    (single : ∀ call answer trace,
      Runs (handler call) trace answer ↔ trace = [label ⟨call, answer⟩]) :
    Runs (p.interpret handler) trace a ↔ ∃ calls, Runs p calls a ∧ trace = calls.map label := by
  have relabels {calls : List (Exchange J)} {trace : List (Exchange I)} :
      Expands handler calls trace ↔ trace = calls.map label := by
    constructor
    · intro expands
      induction expands with
      | nil => rfl
      | cons handled _ ih =>
        rw [(single _ _ _).mp handled, ih]
        rfl
    · rintro rfl
      induction calls with
      | nil => exact .nil
      | cons exchange calls ih => exact .cons ((single _ _ _).mpr rfl) ih
  simp only [runs_interpret_iff, relabels]

/-- An expansion through a handler that passes a state on: the state before, the calls, the
exchanges made for them, and the state after. -/
inductive Threads {σ : Type} (handler : (call : J.Call) → StateT σ (Program I) (J.Answer call)) :
    σ → List (Exchange J) → List (Exchange I) → σ → Prop
  | nil (state : σ) : Threads handler state [] [] state
  | cons {before middle after : σ} {call : J.Call} {answer : J.Answer call}
      {calls : List (Exchange J)} {head tail : List (Exchange I)}
      (handled : Runs ((handler call).run before) head (answer, middle))
      (rest : Threads handler middle calls tail after) :
      Threads handler before (⟨call, answer⟩ :: calls) (head ++ tail) after

theorem runs_interpret_run_iff {σ : Type}
    {handler : (call : J.Call) → StateT σ (Program I) (J.Answer call)} {p : Program J α}
    {before after : σ} {trace : List (Exchange I)} {a : α} :
    Runs ((p.interpret handler).run before) trace (a, after) ↔
      ∃ calls, Runs p calls a ∧ Threads handler before calls trace after := by
  induction p generalizing trace before with
  | done value =>
    change Runs (.done (value, before)) trace (a, after) ↔ _
    constructor
    · intro run
      obtain ⟨rfl, same⟩ := runs_done_iff.mp run
      cases same
      exact ⟨[], .done _, .nil _⟩
    · rintro ⟨calls, run, threads⟩
      obtain ⟨rfl, rfl⟩ := runs_done_iff.mp run
      cases threads
      exact .done _
  | call request next ih =>
    change Runs ((handler request).run before >>= fun reply =>
      ((next reply.1).interpret handler).run reply.2) trace (a, after) ↔ _
    simp only [runs_bind_iff, ih, Prod.exists]
    constructor
    · rintro ⟨head, answer, middle, tail, rfl, handled, calls, run, threads⟩
      exact ⟨⟨request, answer⟩ :: calls, .call run, .cons handled threads⟩
    · rintro ⟨calls, run, threads⟩
      cases run with
      | call run =>
        cases threads with
        | cons handled threads => exact ⟨_, _, _, _, rfl, handled, _, run, threads⟩

end VaultKeeper.Program
