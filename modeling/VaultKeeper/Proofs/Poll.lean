import VaultKeeper.Poll
import VaultKeeper.Proofs.Program.Expansion

/-! # Polling until something shows

The run of `pollUntil`, one round at a time. A round that finds something is the last one, and so is
the last round that is allowed; any other is followed by a wait.
-/

namespace VaultKeeper

open Program

variable {I : Interface} {α : Type}

theorem runs_pollUntil_succ_iff {wait : Program I Unit} {check : Program I (Option α)}
    {rounds : Nat} {trace : List (Exchange I)} {found : Option α} :
    Runs (pollUntil wait check (rounds + 1)) trace found ↔
      (Runs check trace found ∧ (found = none → rounds = 0)) ∨
      ∃ left look pause rest, rounds = left + 1 ∧ trace = look ++ (pause ++ rest) ∧
        Runs check look none ∧ Runs wait pause () ∧
        Runs (pollUntil wait check (left + 1)) rest found := by
  cases rounds with
  | zero => simp [pollUntil]
  | succ left =>
    simp only [pollUntil, runs_bind_iff]
    constructor
    · rintro ⟨look, seen, rest, rfl, looked, continued⟩
      cases seen with
      | some value =>
        obtain ⟨rfl, rfl⟩ := runs_done_iff.mp continued
        exact .inl ⟨by simpa using looked, by simp⟩
      | none =>
        obtain ⟨pause, _, rest, rfl, waited, polled⟩ := runs_bind_iff.mp continued
        exact .inr ⟨left, look, pause, rest, rfl, rfl, looked, waited, polled⟩
    · rintro (⟨looked, last⟩ | ⟨_, look, pause, rest, same, rfl, looked, waited, polled⟩)
      · cases found with
        | none => simp at last
        | some value => exact ⟨trace, some value, [], by simp, looked, .done _⟩
      · obtain rfl : left = _ := by simpa using same
        exact ⟨look, none, pause ++ rest, rfl, looked,
          runs_bind_iff.mpr ⟨pause, (), rest, rfl, waited, polled⟩⟩

end VaultKeeper
