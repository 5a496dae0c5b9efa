import VaultKeeper.Proofs.Delivery.Course

/-! # How a payload is submitted

A submission settles the fee, takes a nonce and broadcasts, and can fail at the first of these and
at the last. Only the last failure comes after a nonce was taken, and then the account's nonce is
read again.
-/

namespace VaultKeeper.Delivery

open Program Courier

/-- How the fee of a submission is settled: the caller's, or the one offered. -/
inductive Pricing : Option Fee → Trace → Except Failure Fee → Prop
  | given (fee : Fee) : Pricing (some fee) [] (.ok fee)
  | offered (answer : Except Failure Fee) : Pricing none [⟨.offeredFee, answer⟩] answer

/-- What a submission asks for, and what it ends with. -/
inductive Submission (payload : Payload) (fee : Option Fee) :
    Trace → Except Failure Pending → Prop
  | unpriced {pricing : Trace} {failure : Failure} (priced : Pricing fee pricing (.error failure)) :
      Submission payload fee pricing (.error failure)
  | refused {pricing : Trace} {price : Fee} (priced : Pricing fee pricing (.ok price))
      (nonce : UInt64) (failure : Failure) (answer : Except Failure UInt64) :
      Submission payload fee
        (pricing ++ [⟨.reserveNonce, nonce⟩,
          ⟨.broadcast (payload.transaction nonce price), .error failure⟩, ⟨.syncNonce, answer⟩])
        (.error failure)
  | accepted {pricing : Trace} {price : Fee} (priced : Pricing fee pricing (.ok price))
      (nonce : UInt64) (hash : Hash) (time : UInt64) :
      Submission payload fee
        (pricing ++ [⟨.reserveNonce, nonce⟩,
          ⟨.broadcast (payload.transaction nonce price), .ok hash⟩, ⟨.now, time⟩])
        (.ok ⟨hash, nonce, payload.receiver, payload.data, price, time, 0, []⟩)

variable {payload : Payload} {trace : Trace}

theorem submission_of_runs {fee : Option Fee} {answer : Except Failure Pending}
    (run : Runs (submit payload.receiver payload.data fee) trace answer) :
    Submission payload fee trace answer := by
  obtain ⟨pricing, offered, rest, rfl, settled, continued⟩ := runs_bind_iff.mp run
  have priced : Pricing fee pricing offered := by
    cases fee with
    | some fee =>
      obtain ⟨rfl, rfl⟩ := runs_done_iff.mp settled
      exact .given fee
    | none =>
      obtain rfl := runs_ask_iff.mp settled
      exact .offered offered
  cases offered with
  | error failure =>
    obtain ⟨rfl, rfl⟩ := runs_done_iff.mp continued
    rw [List.append_nil]
    exact .unpriced priced
  | ok price =>
    obtain ⟨nonce, _, rfl, taken⟩ := runs_ask_bind_iff.mp continued
    obtain ⟨accepted, _, rfl, tried⟩ := runs_ask_bind_iff.mp taken
    cases accepted with
    | error failure =>
      obtain ⟨answer, _, rfl, ended⟩ := runs_ask_bind_iff.mp tried
      obtain ⟨rfl, rfl⟩ := runs_done_iff.mp ended
      exact .refused priced nonce failure answer
    | ok hash =>
      obtain ⟨time, _, rfl, ended⟩ := runs_ask_bind_iff.mp tried
      obtain ⟨rfl, rfl⟩ := runs_done_iff.mp ended
      exact .accepted priced nonce hash time

end VaultKeeper.Delivery
