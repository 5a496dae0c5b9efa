import VaultKeeper.Proofs.Delivery.Outcome

/-! # What a delivery broadcasts

A delivery takes one nonce at most, and everything that it tries to broadcast has that nonce: the
payload first, at one fee after another, then transfers that clear the nonce, and nothing more once
a receipt has come back. The stages of a course tell the parts apart: nothing leads back from giving
the payload up to waiting for it.
-/

namespace VaultKeeper.Delivery

open Program Courier

variable {courier : Courier} {payload : Payload} {nonce : UInt64} {past rest trace acts : Trace}
  {stage next : Stage} {result : Except Failure Receipt}

/-- What may still be tried from a stage on: payloads only while a delivery waits for one, and
transfers only until the nonce was cleared or not. -/
def Stage.Permits (bids transfers : List Fee) : Stage → Prop
  | .watching _ _ => True
  | .leaving _ => bids = []
  | .leftover _ _ => bids = [] ∧ transfers = []

/-- The payload at some fees and then empty transfers at others, all with one nonce of an
account. -/
def tries (account : Address) (payload : Payload) (nonce : UInt64) (bids transfers : List Fee) :
    List Transaction :=
  bids.map (payload.transaction nonce) ++ transfers.map (emptyTransfer account nonce)

/-- Clearing a nonce tries transfers and nothing else. -/
theorem attempts_of_clears (clears : ∀ exchange ∈ trace, Clears courier nonce exchange.call) :
    ∃ fees : List Fee, attempts trace = fees.map (emptyTransfer courier.account nonce) := by
  induction trace with
  | nil => exact ⟨[], rfl⟩
  | cons exchange trace ih =>
    obtain ⟨fees, same⟩ := ih fun other member => clears other (List.mem_cons_of_mem _ member)
    obtain ⟨call, answer⟩ := exchange
    cases clears _ List.mem_cons_self with
    | transfer fee => exact ⟨fee :: fees, by rw [List.map_cons, ← same]; rfl⟩
    | networkPrice | nonceCounts | sleep => exact ⟨fees, same⟩

/-- Between two transfers a nonce is only asked for and waited for. -/
theorem attempts_of_checks {interval rounds : Nat} {found : Option Unit}
    (run : Runs (pollUntil (sleep interval) (checkCleared nonce) rounds) trace found) :
    attempts trace = [] :=
  attempts_of_reads (calls_checks interval nonce rounds trace found run)

/-- What is tried between two looks fits what the stage before them permits. -/
theorem Between.attempts (between : Between courier payload nonce past stage acts next)
    {bids transfers : List Fee} (permitted : next.Permits bids transfers) :
    ∃ bids' transfers', stage.Permits bids' transfers' ∧
      attempts acts ++ tries courier.account payload nonce bids transfers =
        tries courier.account payload nonce bids' transfers' := by
  cases between with
  | wait | exhausted => exact ⟨bids, transfers, by simp_all [Stage.Permits], rfl⟩
  | faster _ _ network => exact ⟨_ :: bids, transfers, trivial, rfl⟩
  | refused _ _ network => exact ⟨_ :: bids, transfers, trivial, rfl⟩
  | @drop _ _ _ clearing cleared dropped answer =>
    obtain ⟨rfl, rfl⟩ := permitted
    obtain ⟨fees, same⟩ := attempts_of_clears (calls_clearNonce _ _ clearing cleared dropped)
    refine ⟨[], fees, rfl, ?_⟩
    rw [attempts_append, same]
    simp [tries, Delivery.attempts, attempted?]

theorem Settlement.attempts {receipt : Receipt} (settled : Settlement receipt trace) :
    attempts trace = [] := by
  cases settled <;> rfl

/-- Along a course the payload is tried first and transfers afterwards, as its stage permits. -/
theorem Course.attempts (course : Course courier payload nonce stage past rest result) :
    ∃ bids transfers, stage.Permits bids transfers ∧
      attempts rest = tries courier.account payload nonce bids transfers := by
  induction course with
  | @found stage _ _ _ _ seen settled =>
    refine ⟨[], [], by cases stage <;> simp [Stage.Permits], ?_⟩
    rw [attempts_append, seen.attempts, settled.attempts]
    rfl
  | missed seen acted _ ih =>
    obtain ⟨bids, transfers, permitted, same⟩ := ih
    obtain ⟨bids', transfers', permitted', same'⟩ := acted.attempts permitted
    refine ⟨bids', transfers', permitted', ?_⟩
    rw [attempts_append, attempts_append, seen.attempts, same, List.nil_append, same']
  | @failed stage _ _ _ seen _ =>
    refine ⟨[], [], by cases stage <;> simp [Stage.Permits], ?_⟩
    rw [seen.attempts]
    rfl

/-- The calls that only a submission makes. -/
def Call.submits : Call → Bool
  | .reserveNonce | .offeredFee | .now => true
  | _ => false

theorem Between.submits (between : Between courier payload nonce past stage acts next) :
    ∀ exchange ∈ acts, exchange.call.submits = false := by
  cases between with
  | wait | faster | refused | exhausted => simp [Call.submits]
  | @drop _ _ _ clearing cleared dropped answer =>
    intro exchange member
    rcases List.mem_append.mp member with member | member
    · obtain ⟨call, answer⟩ := exchange
      cases calls_clearNonce _ _ clearing cleared dropped _ member <;> rfl
    · obtain rfl := List.mem_singleton.mp member
      rfl

/-- Nothing is submitted along a course. -/
theorem Course.submits (course : Course courier payload nonce stage past rest result) :
    ∀ exchange ∈ rest, exchange.call.submits = false := by
  have asks {hashes : List Hash} {look : Trace} {found : Option Receipt}
      (seen : Look hashes look found) : ∀ exchange ∈ look, exchange.call.submits = false := by
    intro exchange member
    obtain ⟨hash, same⟩ := seen.asks exchange member
    rw [same]
    rfl
  induction course with
  | found seen settled =>
    intro exchange member
    rcases List.mem_append.mp member with member | member
    · exact asks seen exchange member
    · cases settled with
      | success => cases member
      | revert _ answer =>
        obtain rfl := List.mem_singleton.mp member
        rfl
  | missed seen acted _ ih =>
    intro exchange member
    rcases List.mem_append.mp member with member | member
    · exact asks seen exchange member
    · rcases List.mem_append.mp member with member | member
      · exact acted.submits exchange member
      · exact ih exchange member
  | failed seen _ => exact asks seen

theorem Course.reservations (course : Course courier payload nonce stage past rest result) :
    reservations rest = [] := by
  apply List.filterMap_eq_nil_iff.mpr
  rintro ⟨call, answer⟩ member
  have quiet := course.submits _ member
  cases call with
  | reserveNonce => cases quiet
  | _ => rfl

theorem Course.offers (course : Course courier payload nonce stage past rest result) :
    offers rest = [] := by
  apply List.filterMap_eq_nil_iff.mpr
  rintro ⟨call, answer⟩ member
  have quiet := course.submits _ member
  cases call with
  | offeredFee => cases quiet
  | _ => rfl

/-- Of any two exchanges, the later one tries nothing if the earlier one brings a receipt. -/
def StopsAtReceipt (trace : Trace) : Prop :=
  trace.Pairwise fun earlier later =>
    ∀ receipt, found? earlier = some receipt → attempted? later = none

theorem stopsAtReceipt_of_attempts (quiet : attempts trace = []) : StopsAtReceipt trace := by
  apply List.pairwise_of_forall_mem_list
  intro earlier _ later member _ _
  exact List.filterMap_eq_nil_iff.mp quiet later member

/-- What comes before any receipt does not matter. -/
theorem stopsAtReceipt_append (before : receipts past = []) (stops : StopsAtReceipt rest) :
    StopsAtReceipt (past ++ rest) := by
  have nothing : ∀ earlier ∈ past, found? earlier = none := List.filterMap_eq_nil_iff.mp before
  refine List.pairwise_append.mpr ⟨?_, stops, ?_⟩
  · apply List.pairwise_of_forall_mem_list
    intro earlier member later _ receipt found
    simp [nothing earlier member] at found
  · intro earlier member later _ receipt found
    simp [nothing earlier member] at found

theorem Course.stopsAtReceipt (course : Course courier payload nonce stage past rest result) :
    StopsAtReceipt rest := by
  induction course with
  | found seen settled =>
    apply stopsAtReceipt_of_attempts
    rw [attempts_append, seen.attempts, settled.attempts]
    rfl
  | missed seen acted _ ih =>
    exact stopsAtReceipt_append seen.receipts (stopsAtReceipt_append acted.receipts ih)
  | failed seen _ => exact stopsAtReceipt_of_attempts seen.attempts

/-- A delivery takes one nonce at most, and none without a fee. All that it tries to broadcast has
that nonce: the payload at first, then transfers that clear the nonce, and nothing after a
receipt. -/
theorem deliver_attempts
    (run : Runs (courier.deliver payload.receiver payload.data) trace result) :
    ((reservations trace = [] ∧ attempts trace = []) ∨
      ∃ nonce bids transfers, reservations trace = [nonce] ∧
        attempts trace = tries courier.account payload nonce bids transfers) ∧
    (∀ failure, .error failure ∈ offers trace → reservations trace = []) ∧
    StopsAtReceipt trace := by
  rcases runs_deliver run with ⟨_, rfl, failed⟩ | ⟨fee, nonce, hash, time, rest, rfl, course⟩
  · cases failed with
    | unpriced priced =>
      cases priced
      exact ⟨.inl ⟨rfl, rfl⟩, fun _ _ => rfl, stopsAtReceipt_of_attempts rfl⟩
    | @refused _ price priced nonce failure answer =>
      cases priced
      refine ⟨.inr ⟨nonce, [price], [], rfl, rfl⟩, fun failure refused => ?_, ?_⟩
      · cases List.mem_singleton.mp refused
      · rw [← List.append_nil (_ ++ _)]
        exact stopsAtReceipt_append rfl .nil
  · obtain ⟨bids, transfers, _, same⟩ := course.attempts
    refine ⟨.inr ⟨nonce, fee :: bids, transfers, ?_, ?_⟩, fun failure refused => ?_, ?_⟩
    · rw [reservations_append, course.reservations]
      rfl
    · rw [attempts_append, same]
      rfl
    · rw [offers_append, course.offers] at refused
      cases List.mem_singleton.mp refused
    · exact stopsAtReceipt_append rfl course.stopsAtReceipt

theorem deliver_attempts_late :
    Runs (hasty.deliver parcel.receiver parcel.data) lateDelivery (.ok lateReceipt) ∧
      ((reservations lateDelivery = [] ∧ attempts lateDelivery = []) ∨
        ∃ nonce bids transfers, reservations lateDelivery = [nonce] ∧
          attempts lateDelivery = tries hasty.account parcel nonce bids transfers) ∧
      (∀ failure, .error failure ∈ offers lateDelivery → reservations lateDelivery = []) ∧
      StopsAtReceipt lateDelivery :=
  ⟨runs_lateDelivery, deliver_attempts runs_lateDelivery⟩

example : attempts lateDelivery =
    tries hasty.account parcel 4 [firstBid, nextBid firstBid] [nextBid (nextBid firstBid)] := rfl

end VaultKeeper.Delivery
