import VaultKeeper.Proofs.Delivery.Submission

/-! # How a delivery ends

A delivery whose payload was accepted once is a course, so each of its looks asks for every hash
under which the payload was accepted until then. It brings at most one receipt, which ends it and
decides its result; it fails otherwise only if every look was in vain, the last one included.
-/

namespace VaultKeeper.Delivery

open Program Courier

variable {courier : Courier} {payload : Payload} {nonce : UInt64} {past rest trace : Trace}
  {result : Except Failure Receipt}

/-- The exchanges of a submission at the offered fee that was accepted. -/
def opening (payload : Payload) (fee : Fee) (nonce : UInt64) (hash : Hash) (time : UInt64) :
    Trace :=
  [⟨.offeredFee, .ok fee⟩, ⟨.reserveNonce, nonce⟩,
    ⟨.broadcast (payload.transaction nonce fee), .ok hash⟩, ⟨.now, time⟩]

theorem tracks_opening (fee : Fee) (hash : Hash) (time : UInt64) :
    Tracks payload nonce (opening payload fee nonce hash time)
      ⟨hash, nonce, payload.receiver, payload.data, fee, time, 0, []⟩ := by
  have accepted : acceptances payload (opening payload fee nonce hash time) = [(hash, fee)] := by
    simp [acceptances, opening, accepted?, List.filterMap_cons]
  refine ⟨rfl, rfl, rfl, ?_, ?_⟩
  · simp [acceptedHashes, accepted, Pending.hashes]
  · simp [latestFee, accepted]

/-- A delivery is a submission that fails, or one that is accepted and then a course. -/
theorem runs_deliver (run : Runs (courier.deliver payload.receiver payload.data) trace result) :
    (∃ failure, result = .error failure ∧ Submission payload none trace (.error failure)) ∨
      ∃ fee nonce hash time rest, trace = opening payload fee nonce hash time ++ rest ∧
        Course courier payload nonce (Stage.start courier.policy 0)
          (opening payload fee nonce hash time) rest result := by
  obtain ⟨submitted, answer, rest, rfl, sent, continued⟩ := runs_bind_iff.mp run
  cases submission_of_runs sent with
  | unpriced priced =>
    obtain ⟨rfl, rfl⟩ := runs_done_iff.mp continued
    rw [List.append_nil]
    exact .inl ⟨_, rfl, .unpriced priced⟩
  | refused priced nonce failure answer =>
    obtain ⟨rfl, rfl⟩ := runs_done_iff.mp continued
    rw [List.append_nil]
    exact .inl ⟨_, rfl, .refused priced nonce failure answer⟩
  | @accepted _ fee priced nonce hash time =>
    cases priced
    have course := course_of_runs (tracks_opening fee hash time) continued
    exact .inr ⟨fee, nonce, hash, time, rest, rfl, course⟩

/-- Where a submission is accepted, the delivery goes on from it. -/
theorem runs_of_opening {fee : Fee} {hash : Hash} {time : UInt64}
    (confirmed : Runs
      (confirm courier ⟨hash, nonce, payload.receiver, payload.data, fee, time, 0, []⟩) rest
      result) :
    Runs (courier.deliver payload.receiver payload.data)
      (opening payload fee nonce hash time ++ rest) result :=
  runs_bind_iff.mpr ⟨_, _, rest, rfl, .call (.call (.call (.call (.done _)))), confirmed⟩

/-- A submission that fails gets nothing accepted. -/
theorem Submission.acceptances {fee : Option Fee} {failure : Failure}
    (submission : Submission payload fee trace (.error failure)) :
    acceptances payload trace = [] := by
  cases submission with
  | unpriced priced => cases priced; rfl
  | refused priced nonce failure answer => cases priced <;> rfl

/-- Clearing a nonce asks for no receipts. -/
theorem queries_of_clears (clears : ∀ exchange ∈ trace, Clears courier nonce exchange.call) :
    queries trace = [] := by
  apply List.filterMap_eq_nil_iff.mpr
  rintro ⟨call, answer⟩ member
  cases clears _ member <;> rfl

/-- Receipts are asked for in looks only. -/
theorem Between.queries {stage next : Stage} {acts : Trace}
    (between : Between courier payload nonce past stage acts next) : queries acts = [] := by
  cases between with
  | wait | faster | refused | exhausted => rfl
  | @drop _ _ _ transfers cleared dropped answer =>
    rw [queries_append, queries_of_clears (calls_clearNonce _ _ transfers cleared dropped)]
    rfl

theorem Between.receipts {stage next : Stage} {acts : Trace}
    (between : Between courier payload nonce past stage acts next) : receipts acts = [] :=
  receipts_of_queries between.queries

theorem Settlement.queries {receipt : Receipt} (settled : Settlement receipt trace) :
    queries trace = [] := by
  cases settled <;> rfl

/-- Every hash that is asked for along a course is one under which the payload was accepted. -/
theorem Course.queries_subset {stage : Stage}
    (course : Course courier payload nonce stage past rest result) :
    queries rest ⊆ acceptedHashes payload (past ++ rest) := by
  have earlier {past rest : Trace} :
      acceptedHashes payload past ⊆ acceptedHashes payload (past ++ rest) := by
    rw [acceptedHashes, acceptedHashes, acceptances_append, List.map_append]
    exact List.subset_append_right _ _
  induction course with
  | found seen settled =>
    rw [queries_append, settled.queries, List.append_nil]
    exact List.Subset.trans seen.queries_prefix.subset earlier
  | missed seen acted _ ih =>
    rw [queries_append, queries_append, acted.queries, List.nil_append]
    refine List.append_subset.mpr ⟨List.Subset.trans seen.queries_prefix.subset earlier, ?_⟩
    simpa only [List.append_assoc] using ih
  | failed seen _ => exact List.Subset.trans seen.queries_prefix.subset earlier

/-- The two ways in which a delivery can end: in the outcome of the one receipt that it brought, or
in a failure without any. -/
inductive Conclusion (nonce : UInt64) : List Receipt → Except Failure Receipt → Prop
  | mined (receipt : Receipt) : Conclusion nonce [receipt] receipt.outcome
  | timeout (waited : Nat) : Conclusion nonce [] (.error (.timeout "confirm" waited))
  | abandoned (reason : String) (cleared : Bool) :
      Conclusion nonce [] (.error (.abandoned nonce reason cleared))

theorem Course.conclusion {stage : Stage}
    (course : Course courier payload nonce stage past rest result) :
    Conclusion nonce (receipts rest) result := by
  induction course with
  | found seen settled =>
    rw [receipts_append, seen.receipts, receipts_of_queries settled.queries]
    exact .mined _
  | missed seen acted _ ih =>
    rw [receipts_append, receipts_append, seen.receipts, acted.receipts]
    exact ih
  | failed seen ends =>
    rw [seen.receipts]
    cases ends with
    | timeout => exact .timeout _
    | abandoned reason cleared => exact .abandoned reason cleared

/-- Once its first broadcast is accepted, a delivery is a course from there on. It asks for no other
hashes than those under which its payload was accepted, and the receipts that it gets decide how it
ends. -/
theorem deliver_outcome (run : Runs (courier.deliver payload.receiver payload.data) trace result)
    (accepted : acceptances payload trace ≠ []) :
    ∃ fee nonce hash time rest, trace = opening payload fee nonce hash time ++ rest ∧
      Course courier payload nonce (Stage.start courier.policy 0)
        (opening payload fee nonce hash time) rest result ∧
      queries trace ⊆ acceptedHashes payload trace ∧
      Conclusion nonce (receipts trace) result := by
  rcases runs_deliver run with ⟨_, _, failed⟩ | ⟨fee, nonce, hash, time, rest, rfl, course⟩
  · exact absurd failed.acceptances accepted
  · exact ⟨fee, nonce, hash, time, rest, rfl, course, course.queries_subset, course.conclusion⟩

/-- Raises the fee once and tries a single transfer, without waiting much for either. -/
def hasty : Courier where
  account := 7
  policy := { EscalationPolicy.default with
    threshold := 0, maxEscalations := 1, dropAttempts := 1, dropWait := 1 }
  polling := defaultPolling

/-- A payload for `hasty`. -/
def parcel : Payload := ⟨1, [2]⟩

/-- The fee that `parcel` is first sent with. -/
def firstBid : Fee := .legacy 3

/-- The fee after a node refused to tell its price. -/
def nextBid (fee : Fee) : Fee := raisedFee hasty.policy fee (.error (.transient .unreachable))

/-- The receipt of the first broadcast of `parcel`. -/
def lateReceipt : Receipt := ⟨11, some 5, 0, true, []⟩

/-- `parcel` is given up after a speed-up, and then turns out to be mined under its first hash. -/
def lateDelivery : Trace :=
  opening parcel firstBid 4 11 100 ++
    [⟨.receipt 11, .error (.transient .unreachable)⟩,
      ⟨.networkPrice, .error (.transient .unreachable)⟩,
      ⟨.broadcast (parcel.transaction 4 (nextBid firstBid)), .ok 12⟩, ⟨.sleep 1000, ()⟩,
      ⟨.receipt 12, .ok none⟩, ⟨.receipt 11, .ok none⟩,
      ⟨.receipt 12, .ok none⟩, ⟨.receipt 11, .ok none⟩,
      ⟨.networkPrice, .error (.transient .unreachable)⟩,
      ⟨.broadcast (emptyTransfer hasty.account 4 (nextBid (nextBid firstBid))),
        .error (.fatal (.told "nonce too low"))⟩,
      ⟨.nonceCounts, .ok ⟨5, 5⟩⟩, ⟨.syncNonce, .ok 5⟩,
      ⟨.receipt 12, .ok none⟩, ⟨.receipt 11, .ok (some lateReceipt)⟩]

theorem runs_lateDelivery :
    Runs (hasty.deliver parcel.receiver parcel.data) lateDelivery (.ok lateReceipt) := by
  refine runs_of_opening ?_
  change Runs (hasty.escalate 1 1 _) _ _
  unfold escalate
  refine .call (.call (.call (.call ?_)))
  change Runs (hasty.escalate 0 1 _) _ _
  unfold escalate
  exact .call (.call (.call (.call (.call (.call (.call (.call (.call (.call (.done _))))))))))

theorem deliver_outcome_late :
    Runs (hasty.deliver parcel.receiver parcel.data) lateDelivery (.ok lateReceipt) ∧
      acceptances parcel lateDelivery ≠ [] ∧
      ∃ fee nonce hash time rest, lateDelivery = opening parcel fee nonce hash time ++ rest ∧
        Course hasty parcel nonce (Stage.start hasty.policy 0)
          (opening parcel fee nonce hash time) rest (.ok lateReceipt) ∧
        queries lateDelivery ⊆ acceptedHashes parcel lateDelivery ∧
        Conclusion nonce (receipts lateDelivery) (.ok lateReceipt) := by
  have accepted : acceptances parcel lateDelivery ≠ [] := by
    change [(12, nextBid firstBid), (11, firstBid)] ≠ []
    simp
  exact ⟨runs_lateDelivery, accepted, deliver_outcome runs_lateDelivery accepted⟩

end VaultKeeper.Delivery
