import Mathlib.Algebra.Ring.Nat
import VaultKeeper.Proofs.Delivery.Rounds

/-! # The time that a wait reports

Looking for a receipt in vain takes one wait less than it takes looks. When a courier stops waiting
it says how long that took. The wait that its polling policy limits says so exactly; the wait
without escalation says one interval more, as if it had waited after its last look too.
-/

namespace VaultKeeper.Delivery

open Program Courier

/-- The milliseconds that an exchange waits. -/
def slept? : Exchange Delivery → Option Nat
  | ⟨.sleep milliseconds, _⟩ => some milliseconds
  | _ => none

/-- The milliseconds that were waited in all. -/
def slept (trace : Trace) : Nat :=
  (trace.filterMap slept?).sum

variable {courier : Courier} {pending : Pending} {first second trace : Trace}
  {interval rounds : Nat} {found : Option Receipt} {result : Except Failure Receipt}

@[simp] theorem slept_append : slept (first ++ second) = slept first + slept second := by
  simp [slept, List.filterMap_append]

theorem Look.slept {hashes : List Hash} (look : Look hashes trace found) : slept trace = 0 := by
  rw [Delivery.slept, look.filterMap_eq_nil fun _ _ => rfl]
  rfl

/-- What looking for a receipt again and again finds is the receipt that came back. In vain it takes
all the looks that are allowed, with a wait between any two of them. -/
theorem looks_of_polls
    (run : Runs (pollUntil (sleep interval) (pollOnce pending) rounds) trace found) :
    receipts trace = found.toList ∧
      (found = none → Looks (List.replicate rounds pending.hashes) trace ∧
        slept trace = interval * (rounds - 1)) := by
  induction rounds generalizing trace with
  | zero =>
    obtain ⟨rfl, rfl⟩ := runs_done_iff.mp run
    exact ⟨rfl, fun _ => ⟨.none rfl, rfl⟩⟩
  | succ rounds ih =>
    rcases runs_pollUntil_succ_iff.mp run with
      ⟨looked, last⟩ | ⟨left, look, pause, rest, rfl, rfl, looked, waited, continued⟩
    · have seen : Look pending.hashes trace found := look_of_runs looked
      refine ⟨seen.receipts, fun nothing => ?_⟩
      obtain rfl := last nothing
      have looks : Looks [pending.hashes] (trace ++ []) := .look seen (.none rfl)
      rw [List.append_nil] at looks
      exact ⟨looks, by simp [seen.slept]⟩
    · obtain rfl := runs_ask_iff.mp waited
      have seen : Look pending.hashes look none := look_of_runs looked
      obtain ⟨brought, vain⟩ := ih continued
      constructor
      · rw [receipts_append, receipts_append, seen.receipts, brought]
        rfl
      · intro nothing
        obtain ⟨looks, waits⟩ := vain nothing
        refine ⟨.look seen (.aside rfl looks), ?_⟩
        rw [slept_append, slept_append, seen.slept, waits]
        change 0 + (interval + _) = _
        rw [Nat.zero_add, Nat.add_sub_cancel, Nat.add_sub_cancel, Nat.mul_succ, Nat.add_comm]

/-- If no receipt came back at all, the looks were in vain. -/
theorem vain_of_polls {rest : Trace}
    (run : Runs (pollUntil (sleep interval) (pollOnce pending) rounds) trace found)
    (nothing : receipts (trace ++ rest) = []) :
    found = none ∧ Looks (List.replicate rounds pending.hashes) trace ∧
      slept trace = interval * (rounds - 1) := by
  obtain ⟨brought, vain⟩ := looks_of_polls run
  have missed : found = none := by
    rw [receipts_append, brought] at nothing
    simpa using (List.append_eq_nil_iff.mp nothing).1
  exact ⟨missed, vain missed⟩

/-- A wait for a receipt that ends without one has looked for it as often as it may, and waited once
less. Where the polling policy limits it, the time that it reports is the time that it waited.
Without escalation it is one interval more, so for the same looks the two reports differ. -/
theorem timeouts_report (courier : Courier) (pending : Pending) :
    (∀ limit trace result, courier.polling.maxAttempts = some limit →
      Runs (awaitReceipt courier pending) trace result → receipts trace = [] →
      Looks (List.replicate limit.toNat pending.hashes) trace ∧
        slept trace = courier.polling.interval * (limit.toNat - 1) ∧
        result = .error (.timeout "await_receipt" (slept trace))) ∧
    ∀ trace result, courier.policy.enabled = false →
      Runs (confirm courier pending) trace result → receipts trace = [] →
      Looks (List.replicate (max 1 courier.policy.maxWait.toNat) pending.hashes) trace ∧
        slept trace = courier.policy.pollInterval * (max 1 courier.policy.maxWait.toNat - 1) ∧
        result = .error (.timeout "confirm" (slept trace + courier.policy.pollInterval)) := by
  constructor
  · intro limit trace result limited run nothing
    have allowed : pollRounds courier.polling = limit.toNat := by rw [pollRounds, limited]
    obtain ⟨looks, found, rest, rfl, polled, continued⟩ := runs_bind_iff.mp run
    obtain ⟨rfl, looked, waited⟩ := vain_of_polls polled nothing
    obtain ⟨rfl, rfl⟩ := runs_done_iff.mp continued
    rw [allowed] at looked waited
    rw [List.append_nil, allowed, waited]
    exact ⟨looked, rfl, rfl⟩
  · intro trace result disabled run nothing
    rw [confirm, if_neg (by simp [disabled])] at run
    obtain ⟨looks, found, rest, rfl, polled, continued⟩ := runs_bind_iff.mp run
    obtain ⟨rfl, looked, waited⟩ := vain_of_polls polled nothing
    obtain ⟨rfl, rfl⟩ := runs_done_iff.mp continued
    have more : courier.policy.pollInterval * (max 1 courier.policy.maxWait.toNat - 1) +
        courier.policy.pollInterval =
          courier.policy.pollInterval * max 1 courier.policy.maxWait.toNat := by
      rw [← Nat.mul_succ]
      congr 1
      omega
    rw [List.append_nil, waited, more]
    exact ⟨looked, rfl, rfl⟩

/-- Looks for a receipt twice, in either way of waiting for one. -/
def brief : Courier where
  account := 7
  policy := { EscalationPolicy.default with enabled := false, maxWait := 2 }
  polling := ⟨1000, some 2⟩

/-- Two looks for `stuckParcel` in vain. -/
def briefLooks : Trace :=
  [⟨.receipt 11, .ok none⟩, ⟨.sleep 1000, ()⟩, ⟨.receipt 11, .ok none⟩]

theorem timeouts_report_brief :
    (brief.polling.maxAttempts = some 2 ∧ brief.policy.enabled = false ∧
      receipts briefLooks = [] ∧ slept briefLooks = 1000) ∧
    Runs (awaitReceipt brief stuckParcel) briefLooks
      (.error (.timeout "await_receipt" (slept briefLooks))) ∧
    Runs (confirm brief stuckParcel) briefLooks
      (.error (.timeout "confirm" (slept briefLooks + 1000))) := by
  have unseen : receipts briefLooks = [] := rfl
  have awaited : Runs (awaitReceipt brief stuckParcel) briefLooks
      (.error (.timeout "await_receipt" 1000)) := .call (.call (.call (.done _)))
  have confirmed : Runs (confirm brief stuckParcel) briefLooks
      (.error (.timeout "confirm" 2000)) := .call (.call (.call (.done _)))
  obtain ⟨limited, unescalated⟩ := timeouts_report brief stuckParcel
  obtain ⟨-, -, told⟩ := limited 2 _ _ rfl awaited unseen
  obtain ⟨-, -, late⟩ := unescalated _ _ rfl confirmed unseen
  exact ⟨⟨rfl, rfl, unseen, rfl⟩, told ▸ awaited, late ▸ confirmed⟩

end VaultKeeper.Delivery
