/-! # Programs that call their surroundings

Everything the keeper does between two answers from outside (a node, an aggregator, a clock, an
operator channel) is a `Program`: either a result, or one call together with what happens for each
possible answer. A program is a well-founded tree, so it always finishes after finitely many calls,
unless it makes one that has no answer at all: that is where it breaks off.

`Program.Runs p trace a` says that `p` can end with `a` after exactly the exchanges in `trace`; it
leaves every answer open, so a statement about all its traces is a statement about all possible
surroundings. `Program.Breaks p trace call` says in the same way that `p` can break off with `call`.
`Program.interpret` answers the calls in a monad of the caller's choice.
-/

namespace VaultKeeper

/-- The calls a program may make, with the type of answer each one receives. -/
structure Interface where
  Call : Type
  Answer : Call → Type

/-- One call and the answer it received. -/
structure Exchange (I : Interface) where
  call : I.Call
  answer : I.Answer call

/-- A result, or a call followed by a program for each answer. -/
inductive Program (I : Interface) (α : Type) : Type where
  | done (result : α)
  | call (request : I.Call) (next : I.Answer request → Program I α)

namespace Program

variable {I J : Interface} {α β γ : Type}

/-- Continue with `f` where `p` ends. -/
protected def bind (p : Program I α) (f : α → Program I β) : Program I β :=
  match p with
  | done a => f a
  | call request next => call request fun answer => (next answer).bind f

instance : Monad (Program I) where
  pure := done
  bind := Program.bind

/-- Make one call and return its answer. -/
def ask (request : I.Call) : Program I (I.Answer request) :=
  call request done

/-- Answer every call in the monad `m`. -/
def interpret {m : Type → Type} [Monad m] (answer : (request : I.Call) → m (I.Answer request)) :
    Program I α → m α
  | done a => pure a
  | call request next => do
    let reply ← answer request
    (next reply).interpret answer

/-- `Runs p trace a`: with the answers in `trace`, `p` makes exactly these calls and ends with
`a`. -/
inductive Runs : Program I α → List (Exchange I) → α → Prop where
  | done (a : α) : Runs (.done a) [] a
  | call {request : I.Call} {next : I.Answer request → Program I α} {answer : I.Answer request}
      {trace : List (Exchange I)} {a : α} (rest : Runs (next answer) trace a) :
      Runs (.call request next) (⟨request, answer⟩ :: trace) a

/-- `Breaks p trace call`: with the answers in `trace`, `p` makes exactly these calls and then
`call`, which has no answer. -/
inductive Breaks : Program I α → List (Exchange I) → I.Call → Prop where
  | here {request : I.Call} {next : I.Answer request → Program I α}
      (unanswered : I.Answer request → False) : Breaks (.call request next) [] request
  | later {request call : I.Call} {next : I.Answer request → Program I α}
      {answer : I.Answer request} {trace : List (Exchange I)}
      (rest : Breaks (next answer) trace call) :
      Breaks (.call request next) (⟨request, answer⟩ :: trace) call

@[simp] theorem pure_eq (a : α) : (pure a : Program I α) = done a := rfl

@[simp] theorem done_bind (a : α) (f : α → Program I β) : (done a >>= f) = f a := rfl

@[simp] theorem call_bind (request : I.Call) (next : I.Answer request → Program I α)
    (f : α → Program I β) :
    (call request next >>= f) = call request fun answer => next answer >>= f := rfl

@[simp] theorem bind_done (p : Program I α) : (p >>= done) = p := by
  induction p with
  | done a => rfl
  | call request next ih => simp only [call_bind, ih]

theorem bind_assoc (p : Program I α) (f : α → Program I β) (g : β → Program I γ) :
    (p >>= f >>= g) = (p >>= fun a => f a >>= g) := by
  induction p with
  | done a => rfl
  | call request next ih => simp only [call_bind, ih]

@[simp] theorem runs_done_iff {a b : α} {trace : List (Exchange I)} :
    Runs (done a : Program I α) trace b ↔ trace = [] ∧ b = a := by
  constructor
  · rintro ⟨⟩
    exact ⟨rfl, rfl⟩
  · rintro ⟨rfl, rfl⟩
    exact .done _

@[simp] theorem runs_call_iff {request : I.Call} {next : I.Answer request → Program I α}
    {trace : List (Exchange I)} {a : α} :
    Runs (call request next) trace a ↔
      ∃ answer rest, trace = ⟨request, answer⟩ :: rest ∧ Runs (next answer) rest a := by
  constructor
  · rintro ⟨⟩
    exact ⟨_, _, rfl, ‹_›⟩
  · rintro ⟨answer, rest, rfl, runs⟩
    exact .call runs

@[simp] theorem not_breaks_done {a : α} {trace : List (Exchange I)} {call : I.Call} :
    ¬Breaks (done a : Program I α) trace call :=
  nofun

@[simp] theorem breaks_call_iff {request call : I.Call} {next : I.Answer request → Program I α}
    {trace : List (Exchange I)} :
    Breaks (.call request next) trace call ↔
      ((I.Answer request → False) ∧ trace = [] ∧ call = request) ∨
        ∃ answer rest, trace = ⟨request, answer⟩ :: rest ∧ Breaks (next answer) rest call := by
  constructor
  · intro breaks
    cases breaks with
    | here unanswered => exact .inl ⟨unanswered, rfl, rfl⟩
    | later rest => exact .inr ⟨_, _, rfl, rest⟩
  · rintro (⟨unanswered, rfl, rfl⟩ | ⟨answer, rest, rfl, breaks⟩)
    · exact .here unanswered
    · exact .later breaks

/-- A run of `p >>= f` is a run of `p` followed by a run of `f` at its result. -/
theorem runs_bind_iff {p : Program I α} {f : α → Program I β} {trace : List (Exchange I)} {b : β} :
    Runs (p >>= f) trace b ↔
      ∃ first a second, trace = first ++ second ∧ Runs p first a ∧ Runs (f a) second b := by
  induction p generalizing trace with
  | done a =>
    constructor
    · intro continued
      exact ⟨[], a, trace, rfl, .done a, continued⟩
    · rintro ⟨first, value, second, rfl, ran, continued⟩
      obtain ⟨rfl, rfl⟩ := runs_done_iff.mp ran
      exact continued
  | call request next ih =>
    simp only [call_bind, runs_call_iff, ih]
    constructor
    · rintro ⟨answer, rest, rfl, first, a, second, rfl, ran, continued⟩
      exact ⟨_, a, second, rfl, ⟨answer, first, rfl, ran⟩, continued⟩
    · rintro ⟨_, a, second, rfl, ⟨answer, first, rfl, ran⟩, continued⟩
      exact ⟨answer, first ++ second, rfl, first, a, second, rfl, ran, continued⟩

end Program

end VaultKeeper
