import VaultKeeper.Proofs.Program.Expansion
import VaultKeeper.Proofs.Program.Basic

/-! # Runs that agree

A program makes no choices of its own: what it does next depends on the answers so far and on
nothing else. So two of its runs part only where they are answered differently, and neither of them
is longer than the other before that. The same holds of the calls behind the exchanges that a
handler makes for them.
-/

namespace VaultKeeper.Program

variable {I J : Interface} {α : Type}

/-- Two runs of a program that lie in the same exchanges are one. -/
theorem Runs.unique {p : Program I α} {first second early late : List (Exchange I)} {a b : α}
    (ran : Runs p first a) (again : Runs p second b) (same : first ++ early = second ++ late) :
    first = second ∧ a = b := by
  induction ran generalizing second with
  | done a =>
    obtain ⟨rfl, rfl⟩ := runs_done_iff.mp again
    exact ⟨rfl, rfl⟩
  | call _ ih =>
    obtain ⟨answer, rest, rfl, others⟩ := runs_call_iff.mp again
    rw [List.cons_append, List.cons_append] at same
    injection same with head tail
    cases head
    obtain ⟨rfl, rfl⟩ := ih others tail
    exact ⟨rfl, rfl⟩

/-- If two runs of a program have the same exchanges made for them, they are one. -/
theorem Expands.unique {handler : (call : J.Call) → Program I (J.Answer call)} {p : Program J α}
    {calls calls' : List (Exchange J)} {trace : List (Exchange I)} {a b : α}
    (ran : Runs p calls a) (again : Runs p calls' b) (expands : Expands handler calls trace)
    (expands' : Expands handler calls' trace) : calls = calls' ∧ a = b := by
  induction ran generalizing calls' trace with
  | done a =>
    obtain ⟨rfl, rfl⟩ := runs_done_iff.mp again
    exact ⟨rfl, rfl⟩
  | call _ ih =>
    obtain ⟨answer, rest, rfl, others⟩ := runs_call_iff.mp again
    cases expands with
    | @cons _ _ _ head tail handled later =>
      generalize same : head ++ tail = trace at expands'
      cases expands' with
      | cons handled' later' =>
        obtain ⟨rfl, rfl⟩ := handled.unique handled' same
        cases List.append_cancel_left same
        obtain ⟨rfl, rfl⟩ := ih others later later'
        exact ⟨rfl, rfl⟩

section

variable {surroundings others : Surroundings I} {past first second trace : List (Exchange I)}

theorem answered_cons_iff {call : I.Call} {answer : I.Answer call} :
    AnsweredBy surroundings past (⟨call, answer⟩ :: trace) ↔
      answer = surroundings past call ∧
        AnsweredBy surroundings (past ++ [⟨call, answer⟩]) trace := by
  constructor
  · rintro (_ | ⟨_, later⟩)
    exact ⟨rfl, later⟩
  · rintro ⟨rfl, later⟩
    exact .cons call later

theorem answered_append_iff :
    AnsweredBy surroundings past (first ++ second) ↔
      AnsweredBy surroundings past first ∧ AnsweredBy surroundings (past ++ first) second := by
  induction first generalizing past with
  | nil => simp [AnsweredBy.nil]
  | cons exchange first ih =>
    obtain ⟨call, answer⟩ := exchange
    rw [List.cons_append, answered_cons_iff, answered_cons_iff, ih, List.append_assoc, and_assoc]
    rfl

/-- Surroundings that answer some calls alike give the same answers in a trace of such calls. -/
theorem AnsweredBy.transfer (answered : AnsweredBy surroundings past trace)
    (alike : ∀ exchange ∈ trace, ∀ past,
      surroundings past exchange.call = others past exchange.call) :
    AnsweredBy others past trace := by
  induction answered with
  | nil => exact .nil _
  | cons call _ ih =>
    obtain ⟨head, tail⟩ := List.forall_mem_cons.mp alike
    exact answered_cons_iff.mpr ⟨head _, ih tail⟩

/-- In given surroundings a program has one run only. -/
theorem Runs.determined {p : Program I α} {a b : α} (ran : Runs p first a)
    (again : Runs p second b) (answered : AnsweredBy surroundings past first)
    (answered' : AnsweredBy surroundings past second) : first = second ∧ a = b := by
  induction ran generalizing second past with
  | done a =>
    obtain ⟨rfl, rfl⟩ := runs_done_iff.mp again
    exact ⟨rfl, rfl⟩
  | call _ ih =>
    obtain ⟨answer, rest, rfl, continued⟩ := runs_call_iff.mp again
    obtain ⟨rfl, later⟩ := answered_cons_iff.mp answered
    obtain ⟨rfl, later'⟩ := answered_cons_iff.mp answered'
    obtain ⟨rfl, rfl⟩ := ih continued later later'
    exact ⟨rfl, rfl⟩

end

end VaultKeeper.Program
