import Mathlib.Algebra.Group.Nat.Defs
import Mathlib.Order.Bounds.Defs
import VaultKeeper.Proofs.Program.Agreement
import VaultKeeper.Retry

/-! # How often a failed call is repeated

A call is repeated until an outcome comes that is no transient failure, or until the policy allows
no further attempt. Between two attempts there is one wait, and after the last attempt there is
none. `Retrying` is what this asks for in itself; with a program in the place of the call and
another one in the place of the wait it is the retry of just that call.
-/

namespace VaultKeeper

open Program

/-- The outcome is a failure of one of the two kinds that may pass. -/
def MayPass {α : Type} (outcome : Except Failure α) : Prop :=
  (∃ cause, outcome = .error (.transient cause)) ∨
    ∃ operation elapsed, outcome = .error (.timeout operation elapsed)

theorem mayPass_iff {α : Type} {outcome : Except Failure α} :
    MayPass outcome ↔ ∃ failure, outcome = .error failure ∧ failure.isTransient = true := by
  constructor
  · rintro (⟨cause, rfl⟩ | ⟨operation, elapsed, rfl⟩)
    · exact ⟨_, rfl, rfl⟩
    · exact ⟨_, rfl, rfl⟩
  · rintro ⟨failure, rfl, passing⟩
    cases failure with
    | transient cause => exact .inl ⟨cause, rfl⟩
    | timeout operation elapsed => exact .inr ⟨operation, elapsed, rfl⟩
    | _ => simp [Failure.isTransient] at passing

namespace RetryPolicy

theorem delayAfter_eq (policy : RetryPolicy) (attempt : Nat) :
    policy.delayAfter attempt = policy.baseDelay * 2 ^ min (attempt - 1) 16 := by
  rw [delayAfter, Nat.shiftLeft_eq]

/-- The longest delay of a policy is the last one. -/
theorem delayAfter_mono (policy : RetryPolicy) {early late : Nat} (order : early ≤ late) :
    policy.delayAfter early ≤ policy.delayAfter late := by
  rw [delayAfter_eq, delayAfter_eq]
  apply Nat.mul_le_mul_left
  apply Nat.pow_le_pow_right (by decide)
  omega

end RetryPolicy

/-- One attempt of a retry that may make another: an outcome that does not pass is the result, and
any other is followed by a wait and the rest. -/
theorem runs_retryFrom_succ_iff {I : Interface} {α : Type} {sleep : Nat → Program I Unit}
    {attempt : Program I (Except Failure α)} {policy : RetryPolicy} {left made : Nat}
    {trace : List (Exchange I)} {result : Except Failure α} :
    Runs (retryFrom sleep attempt policy (left + 1) made) trace result ↔
      (Runs attempt trace result ∧ ¬ MayPass result) ∨
      ∃ outcome called pause rest, trace = called ++ (pause ++ rest) ∧ MayPass outcome ∧
        Runs attempt called outcome ∧ Runs (sleep (policy.delayAfter (made + 1))) pause () ∧
        Runs (retryFrom sleep attempt policy left (made + 1)) rest result := by
  rw [retryFrom, runs_bind_iff]
  constructor
  · rintro ⟨called, outcome, rest, rfl, ran, continued⟩
    cases outcome with
    | ok value =>
      obtain ⟨rfl, rfl⟩ := runs_done_iff.mp continued
      rw [List.append_nil]
      exact .inl ⟨ran, by simp [mayPass_iff]⟩
    | error failure =>
      dsimp only at continued
      by_cases passing : failure.isTransient = true
      · rw [if_pos passing] at continued
        obtain ⟨pause, _, rest, rfl, waited, later⟩ := runs_bind_iff.mp continued
        have passes : MayPass (.error failure : Except Failure α) :=
          mayPass_iff.mpr ⟨failure, rfl, passing⟩
        exact .inr ⟨_, called, pause, rest, rfl, passes, ran, waited, later⟩
      · rw [if_neg passing] at continued
        obtain ⟨rfl, rfl⟩ := runs_done_iff.mp continued
        rw [List.append_nil]
        exact .inl ⟨ran, by simpa [mayPass_iff] using passing⟩
  · rintro (⟨ran, settled⟩ | ⟨outcome, called, pause, rest, rfl, passes, ran, waited, later⟩)
    · refine ⟨trace, result, [], (List.append_nil trace).symm, ran, ?_⟩
      cases result with
      | ok value => exact .done _
      | error failure =>
        have lasting : ¬ failure.isTransient = true := by simpa [mayPass_iff] using settled
        dsimp only
        rw [if_neg lasting]
        exact .done _
    · obtain ⟨failure, rfl, passing⟩ := mayPass_iff.mp passes
      refine ⟨called, _, pause ++ rest, rfl, ran, ?_⟩
      dsimp only
      rw [if_pos passing]
      exact runs_bind_iff.mpr ⟨pause, (), rest, rfl, waited, later⟩

section

variable {I : Interface} {α : Type} {sleep : Nat → Program I Unit}
  {attempt : Program I (Except Failure α)} {policy : RetryPolicy} {left made : Nat}
  {trace : List (Exchange I)}

/-- The result of a retry is that of its last attempt. -/
theorem last_of_runs_retryFrom {result : Except Failure α}
    (run : Runs (retryFrom sleep attempt policy left made) trace result) :
    ∃ earlier last, trace = earlier ++ last ∧ Runs attempt last result := by
  induction left generalizing made trace with
  | zero => exact ⟨[], trace, rfl, run⟩
  | succ left ih =>
    obtain ⟨ran, -⟩ | ⟨_, called, pause, rest, rfl, -, -, -, later⟩ :=
      runs_retryFrom_succ_iff.mp run
    · exact ⟨[], trace, rfl, ran⟩
    · obtain ⟨earlier, last, rfl, ran⟩ := ih later
      exact ⟨called ++ (pause ++ earlier), last, by simp only [List.append_assoc], ran⟩

/-- A first attempt that succeeds is the last one. -/
theorem runs_retryFrom_of_ok {value : α} (ran : Runs attempt trace (.ok value)) :
    Runs (retryFrom sleep attempt policy left made) trace (.ok value) := by
  cases left with
  | zero => exact ran
  | succ left => exact runs_retryFrom_succ_iff.mpr (.inl ⟨ran, by simp [mayPass_iff]⟩)

end

/-- What a retry asks for: the call, or a wait. -/
inductive Retrying.Call where
  | attempt
  | sleep (milliseconds : Nat)
deriving DecidableEq, Repr

/-- The surroundings of a retry. -/
abbrev Retrying (α : Type) : Interface where
  Call := Retrying.Call
  Answer
    | .attempt => Except Failure α
    | .sleep _ => Unit

namespace Retrying

variable {α : Type} {policy : RetryPolicy} {outcomes : Nat → Except Failure α}

def attempt : Program (Retrying α) (Except Failure α) := ask (I := Retrying α) .attempt

def sleep (milliseconds : Nat) : Program (Retrying α) Unit :=
  ask (I := Retrying α) (.sleep milliseconds)

/-- A retry of nothing in particular. -/
def plain (policy : RetryPolicy) : Program (Retrying α) (Except Failure α) :=
  retry sleep attempt policy

/-- Programs in the places of the call and the wait. -/
def handler {I : Interface} (sleep : Nat → Program I Unit)
    (attempt : Program I (Except Failure α)) :
    (call : Call) → Program I ((Retrying α).Answer call)
  | .attempt => attempt
  | .sleep milliseconds => sleep milliseconds

/-- How often the call was made. -/
def made (past : List (Exchange (Retrying α))) : Nat :=
  past.countP fun exchange => exchange.call = .attempt

/-- Surroundings in which the outcomes of the calls are those of a stream, counted from 1. -/
def stream (outcomes : Nat → Except Failure α) : Surroundings (Retrying α)
  | past, .attempt => outcomes (made past + 1)
  | _, .sleep _ => ()

/-- The call that is followed by another one, as the `turn`-th after the first, and the wait after
it. -/
def round (policy : RetryPolicy) (outcomes : Nat → Except Failure α) (turn : Nat) :
    List (Exchange (Retrying α)) :=
  [⟨.attempt, outcomes (turn + 1)⟩, ⟨.sleep (policy.baseDelay * 2 ^ min turn 16), ()⟩]

/-- The exchanges from the call after `first` others up to the `last` one. -/
def rounds (policy : RetryPolicy) (outcomes : Nat → Except Failure α) (first last : Nat) :
    List (Exchange (Retrying α)) :=
  (List.range' first (last - 1 - first)).flatMap (round policy outcomes) ++
    [⟨.attempt, outcomes last⟩]

/-- The attempts after `first` others that may be the last one, when `left` further ones remain. -/
def Final (outcomes : Nat → Except Failure α) (first left : Nat) : Set Nat :=
  {turn | first < turn ∧ (¬ MayPass (outcomes turn) ∨ turn = first + left + 1)}

/-- An attempt that may be the last one is the least such. -/
theorem isLeast_next {first left : Nat} (final : first + 1 ∈ Final outcomes first left) :
    IsLeast (Final outcomes first left) (first + 1) := by
  refine ⟨final, ?_⟩
  rintro turn ⟨later, -⟩
  exact later

/-- An attempt that passes is not the last one while others remain. -/
theorem isLeast_later {first left last : Nat} (passes : MayPass (outcomes (first + 1)))
    (least : IsLeast (Final outcomes (first + 1) left) last) :
    IsLeast (Final outcomes first (left + 1)) last := by
  obtain ⟨⟨later, final⟩, lowest⟩ := least
  refine ⟨⟨by omega, final.imp_right (by omega)⟩, ?_⟩
  rintro turn ⟨after, ends⟩
  by_cases next : turn = first + 1
  · subst next
    rcases ends with settled | same
    · exact absurd passes settled
    · omega
  · apply lowest
    exact ⟨by omega, ends.imp_right (by omega)⟩

theorem rounds_next (first : Nat) :
    rounds policy outcomes first (first + 1) = [⟨.attempt, outcomes (first + 1)⟩] := by
  rw [rounds, Nat.add_sub_cancel, Nat.sub_self]
  rfl

theorem rounds_later {first last : Nat} (later : first + 1 < last) :
    rounds policy outcomes first last =
      round policy outcomes first ++ rounds policy outcomes (first + 1) last := by
  have count : last - 1 - first = last - 1 - (first + 1) + 1 := by omega
  rw [rounds, rounds, count, List.range'_succ, List.flatMap_cons, List.append_assoc]

/-- From some attempt on, a retry goes through the rounds up to the first attempt that may be the
last one. -/
theorem runs_retryFrom (policy : RetryPolicy) (outcomes : Nat → Except Failure α)
    (past : List (Exchange (Retrying α))) (left : Nat) :
    ∃ last, IsLeast (Final outcomes (made past) left) last ∧
      Runs (retryFrom sleep attempt policy left (made past))
        (rounds policy outcomes (made past) last) (outcomes last) ∧
      AnsweredBy (stream outcomes) past (rounds policy outcomes (made past) last) := by
  have asked (past : List (Exchange (Retrying α))) :
      AnsweredBy (stream outcomes) past [⟨.attempt, outcomes (made past + 1)⟩] :=
    answered_cons_iff.mpr ⟨rfl, .nil _⟩
  induction left generalizing past with
  | zero =>
    have final : made past + 1 ∈ Final outcomes (made past) 0 := ⟨Nat.lt_succ_self _, .inr rfl⟩
    refine ⟨made past + 1, isLeast_next final, ?_⟩
    rw [rounds_next]
    exact ⟨.call (.done _), asked past⟩
  | succ left ih =>
    by_cases passes : MayPass (outcomes (made past + 1))
    · -- one round later the same holds with one attempt less
      have counted : made (past ++ round policy outcomes (made past)) = made past + 1 := by
        simp [made, round]
      obtain ⟨last, least, ran, answered⟩ := ih (past ++ round policy outcomes (made past))
      rw [counted] at least ran answered
      have later : made past + 1 < last := least.1.1
      refine ⟨last, isLeast_later passes least, ?_⟩
      have called :
          Runs attempt [⟨.attempt, outcomes (made past + 1)⟩] (outcomes (made past + 1)) :=
        .call (.done _)
      have waited : Runs (sleep (α := α) (policy.delayAfter (made past + 1)))
          [⟨.sleep (policy.baseDelay * 2 ^ min (made past) 16), ()⟩] () := by
        rw [RetryPolicy.delayAfter_eq]
        exact .call (.done _)
      have turn : AnsweredBy (stream outcomes) past (round policy outcomes (made past)) :=
        answered_cons_iff.mpr ⟨rfl, answered_cons_iff.mpr ⟨rfl, .nil _⟩⟩
      rw [rounds_later later]
      refine ⟨runs_retryFrom_succ_iff.mpr (.inr ?_), answered_append_iff.mpr ⟨turn, answered⟩⟩
      exact ⟨_, [_], [_], _, rfl, passes, called, waited, ran⟩
    · have final : made past + 1 ∈ Final outcomes (made past) (left + 1) :=
        ⟨Nat.lt_succ_self _, .inl passes⟩
      refine ⟨made past + 1, isLeast_next final, ?_⟩
      rw [rounds_next]
      exact ⟨runs_retryFrom_succ_iff.mpr (.inl ⟨.call (.done _), passes⟩), asked past⟩

/-- A retry of any call is this one with programs in the places of the call and the wait. -/
theorem interpret_retryFrom {I : Interface} (sleep' : Nat → Program I Unit)
    (attempt' : Program I (Except Failure α)) (left made : Nat) :
    (retryFrom sleep attempt policy left made).interpret (handler sleep' attempt') =
      retryFrom sleep' attempt' policy left made := by
  induction left generalizing made with
  | zero => exact interpret_ask (J := Retrying α) .attempt
  | succ left ih =>
    have called : attempt.interpret (handler sleep' attempt') = attempt' :=
      interpret_ask (J := Retrying α) .attempt
    rw [retryFrom, retryFrom, interpret_bind, called]
    congr 1
    funext outcome
    cases outcome with
    | ok value => rfl
    | error failure =>
      dsimp only
      split
      · have waited : (sleep (policy.delayAfter (made + 1))).interpret (handler sleep' attempt') =
            sleep' (policy.delayAfter (made + 1)) := interpret_ask (J := Retrying α) (.sleep _)
        rw [interpret_bind, waited]
        congr 1
        funext _
        exact ih (made + 1)
      · rfl

/-- The attempts of a policy are those that may be the last one from the start on. -/
theorem final_start (policy : RetryPolicy) :
    Final outcomes 0 (policy.attempts - 1) =
      {turn | 1 ≤ turn ∧ (¬ MayPass (outcomes turn) ∨ turn = max 1 policy.attempts)} := by
  have limit : 0 + (policy.attempts - 1) + 1 = max 1 policy.attempts := by omega
  rw [Final, limit]
  rfl

/-- Whatever the outcomes of a call would be, the retry ends with the first of them that is no
transient failure, or with the last one that the policy allows. It makes that many calls and waits
between any two of them, twice as long each time up to the sixteenth doubling. No delay is longer
than the one after the last call but one that is allowed. -/
theorem retry_scheduled (policy : RetryPolicy) (outcomes : Nat → Except Failure α) :
    ∃ last, IsLeast {turn | 1 ≤ turn ∧
        (¬ MayPass (outcomes turn) ∨ turn = max 1 policy.attempts)} last ∧
      (∀ trace result,
        Runs (plain policy) trace result ∧ AnsweredBy (stream outcomes) [] trace ↔
          trace = rounds policy outcomes 0 last ∧ result = outcomes last) ∧
      (∀ turn < last, policy.delayAfter turn ≤ policy.delayAfter (policy.attempts - 1)) ∧
      ∀ {I : Interface} (sleep : Nat → Program I Unit) (attempt : Program I (Except Failure α)),
        retry sleep attempt policy = (plain policy).interpret (handler sleep attempt) := by
  obtain ⟨last, least, ran, answered⟩ :=
    runs_retryFrom policy outcomes [] (policy.attempts - 1)
  have start : made ([] : List (Exchange (Retrying α))) = 0 := rfl
  rw [start] at least ran answered
  rw [final_start] at least
  refine ⟨last, least, ?_, ?_, ?_⟩
  · intro trace result
    constructor
    · rintro ⟨again, answered'⟩
      exact again.determined ran answered' answered
    · rintro ⟨rfl, rfl⟩
      exact ⟨ran, answered⟩
  · intro turn earlier
    apply policy.delayAfter_mono
    have within : last ≤ max 1 policy.attempts := least.2 ⟨by omega, .inr rfl⟩
    omega
  · intro I sleep attempt
    exact (interpret_retryFrom sleep attempt (policy.attempts - 1) 0).symm

example (outcomes : Nat → Except Failure α) :
    rounds ⟨3, 1000⟩ outcomes 0 3 =
      [⟨.attempt, outcomes 1⟩, ⟨.sleep 1000, ()⟩, ⟨.attempt, outcomes 2⟩, ⟨.sleep 2000, ()⟩,
        ⟨.attempt, outcomes 3⟩] := rfl

end Retrying

end VaultKeeper
