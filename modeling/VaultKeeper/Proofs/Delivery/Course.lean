import VaultKeeper.Proofs.Delivery.Trace

/-! # The course of a delivery

After its first broadcast a delivery is a sequence of looks for a receipt. `Course` says what each
of them asks for, what may come between two of them, and how the last one ends the delivery, all in
terms of the exchanges made so far. `course_of_runs` shows that every run of a courier has this
form; what holds of deliveries is then an induction over their course.
-/

namespace VaultKeeper

/-- The outcome that a receipt stands for. -/
def Receipt.outcome (receipt : Receipt) : Except Failure Receipt :=
  if receipt.success then .ok receipt else .error (.reverted receipt.hash receipt.block)

namespace Delivery

open Program Courier

/-- Where a delivery stands before a look. -/
inductive Stage where
  /-- Waiting, with `rounds` looks to come before the fee is raised. It is raised as often as
  `raises` says, and never while escalation is disabled. -/
  | watching (raises : Option Nat) (rounds : Nat)
  /-- About to give the payload up. -/
  | leaving (reason : String)
  /-- Given up, and its nonce cleared or not. -/
  | leftover (reason : String) (cleared : Bool)
deriving DecidableEq, Repr

/-- Where a delivery stands with a transaction that has waited for some cycles. -/
def Stage.start (policy : EscalationPolicy) (waited : UInt32) : Stage :=
  if policy.enabled then
    .watching (some policy.maxEscalations.toNat) (patience policy.threshold waited)
  else .watching none (max 1 policy.maxWait.toNat)

/-- What follows a look that found a receipt: the nonce is read again if the transaction failed. -/
inductive Settlement (receipt : Receipt) : Trace → Prop
  | success (succeeded : receipt.success = true) : Settlement receipt []
  | revert (failed : receipt.success = false) (answer : Except Failure UInt64) :
      Settlement receipt [⟨.syncNonce, answer⟩]

section

variable (courier : Courier) (payload : Payload) (nonce : UInt64)

/-- What comes between two looks, with the stages before and after it. -/
inductive Between (past : Trace) : Stage → Trace → Stage → Prop
  | wait (raises : Option Nat) (left : Nat) :
      Between past (.watching raises (left + 2)) [⟨.sleep courier.policy.pollInterval, ()⟩]
        (.watching raises (left + 1))
  | faster (left : Nat) {fee : Fee} (latest : latestFee payload past = some fee)
      (network : Except Failure Wei) (hash : Hash) :
      Between past (.watching (some (left + 1)) 1)
        [⟨.networkPrice, network⟩,
          ⟨.broadcast (payload.transaction nonce (raisedFee courier.policy fee network)), .ok hash⟩,
          ⟨.sleep courier.policy.pollInterval, ()⟩]
        (.watching (some left) (patience courier.policy.threshold 0))
  | refused (left : Nat) {fee : Fee} (latest : latestFee payload past = some fee)
      (network : Except Failure Wei) (failure : Failure) :
      Between past (.watching (some (left + 1)) 1)
        [⟨.networkPrice, network⟩,
          ⟨.broadcast (payload.transaction nonce (raisedFee courier.policy fee network)),
            .error failure⟩]
        (.leaving failure.message)
  | exhausted :
      Between past (.watching (some 0) 1) []
        (.leaving s!"not mined after {courier.policy.maxEscalations} speed-ups")
  | drop (reason : String) {fee : Fee} (latest : latestFee payload past = some fee)
      {transfers : Trace} {cleared : Bool}
      (dropped : Runs (clearNonce courier nonce courier.policy.dropAttempts.toNat fee)
        transfers cleared) (answer : Except Failure UInt64) :
      Between past (.leaving reason) (transfers ++ [⟨.syncNonce, answer⟩])
        (.leftover reason cleared)

/-- The failure in which a look in vain ends a delivery. -/
inductive Ends : Stage → Failure → Prop
  | timeout :
      Ends (.watching none 1)
        (.timeout "confirm" (courier.policy.pollInterval * max 1 courier.policy.maxWait.toNat))
  | abandoned (reason : String) (cleared : Bool) :
      Ends (.leftover reason cleared) (.abandoned nonce reason cleared)

/-- With the exchanges of `past` behind it, a delivery goes on from a stage with those of `rest` and
ends with a result. Each look asks for every hash under which the payload was accepted in the past,
the newest first. A receipt ends the delivery. -/
inductive Course : Stage → (past rest : Trace) → Except Failure Receipt → Prop
  | found {stage : Stage} {past look settlement : Trace} {receipt : Receipt}
      (seen : Look (acceptedHashes payload past) look (some receipt))
      (settled : Settlement receipt settlement) :
      Course stage past (look ++ settlement) receipt.outcome
  | missed {stage next : Stage} {past look acts rest : Trace} {result : Except Failure Receipt}
      (seen : Look (acceptedHashes payload past) look none)
      (acted : Between courier payload nonce (past ++ look) stage acts next)
      (later : Course next (past ++ (look ++ acts)) rest result) :
      Course stage past (look ++ (acts ++ rest)) result
  | failed {stage : Stage} {past look : Trace} {failure : Failure}
      (seen : Look (acceptedHashes payload past) look none)
      (ends : Ends courier nonce stage failure) :
      Course stage past look (.error failure)

end

section

variable {courier : Courier} {payload : Payload} {nonce : UInt64} {past more trace rest : Trace}
  {pending : Pending} {result : Except Failure Receipt}

/-- The courier's record of a pending transaction agrees with the exchanges made so far. -/
structure Tracks (payload : Payload) (nonce : UInt64) (past : Trace) (pending : Pending) :
    Prop where
  receiver : pending.receiver = payload.receiver
  data : pending.data = payload.data
  nonce : pending.nonce = nonce
  hashes : acceptedHashes payload past = pending.hashes
  fee : latestFee payload past = some pending.fee

namespace Tracks

theorem replacement (tracks : Tracks payload nonce past pending) (fee : Fee) :
    pending.replacement fee = payload.transaction nonce fee := by
  simp only [Pending.replacement, Payload.transaction, tracks.receiver, tracks.data, tracks.nonce]

theorem append (tracks : Tracks payload nonce past pending)
    (quiet : acceptances payload more = []) :
    Tracks payload nonce (past ++ more) pending where
  receiver := tracks.receiver
  data := tracks.data
  nonce := tracks.nonce
  hashes := by simpa [acceptedHashes, quiet] using tracks.hashes
  fee := by simpa [latestFee, quiet] using tracks.fee

theorem superseding (tracks : Tracks payload nonce past pending) {hash : Hash} {fee : Fee}
    (accepted : acceptances payload more = [(hash, fee)]) :
    Tracks payload nonce (past ++ more) (pending.superseding hash fee) where
  receiver := tracks.receiver
  data := tracks.data
  nonce := tracks.nonce
  hashes := by
    have hashes := tracks.hashes
    simp only [acceptedHashes, acceptances_append, accepted, Pending.hashes, Pending.superseding,
      List.map_append, List.reverse_append] at hashes ⊢
    simp [hashes]
  fee := by simp [latestFee, accepted, Pending.superseding]

end Tracks

/-- The calls that clear a nonce. -/
inductive Clears (courier : Courier) (nonce : UInt64) : Call → Prop
  | networkPrice : Clears courier nonce .networkPrice
  | transfer (fee : Fee) :
      Clears courier nonce (.broadcast (emptyTransfer courier.account nonce fee))
  | nonceCounts : Clears courier nonce .nonceCounts
  | sleep : Clears courier nonce (.sleep courier.policy.pollInterval)

theorem calls_clearNonce (attempts : Nat) (fee : Fee) :
    Calls (Clears courier nonce) (clearNonce courier nonce attempts fee) := by
  induction attempts generalizing fee with
  | zero => exact .done false
  | succ attempts ih =>
    have raises : Calls (Clears courier nonce) (raise courier.policy fee) :=
      .bind (.ask .networkPrice) fun _ => .done _
    have checks : Calls (Clears courier nonce) (checkCleared nonce) := by
      refine .bind (.ask .nonceCounts) fun counts => ?_
      cases counts <;> exact .done _
    have transfers (raised : Fee) :
        Calls (Clears courier nonce) (broadcast (courier.selfTransfer nonce raised)) := by
      rw [selfTransfer_eq]
      exact .ask (.transfer raised)
    refine .bind raises fun raised => .bind (transfers raised) fun _ => ?_
    refine .bind (.pollUntil (.ask .sleep) checks _) fun cleared => ?_
    cases cleared with
    | some => exact .done true
    | none => exact ih raised

/-- Exchanges that only clear a nonce get no payload accepted. -/
theorem acceptances_of_clears (clears : ∀ exchange ∈ trace, Clears courier nonce exchange.call) :
    acceptances payload trace = [] := by
  refine List.reverse_eq_nil_iff.mpr (List.filterMap_eq_nil_iff.mpr ?_)
  rintro ⟨call, answer⟩ member
  cases clears _ member with
  | transfer fee => cases answer <;> simp [accepted?]
  | networkPrice => rfl
  | nonceCounts => rfl
  | sleep => rfl

/-- A course through the looks that wait for a receipt, continued from the last of them. -/
private theorem course_of_polls {raises : Option Nat} {rounds : Nat} {found : Option Receipt}
    (tracks : Tracks payload nonce past pending)
    (polled : Runs (pollUntil (sleep courier.policy.pollInterval) (pollOnce pending) (rounds + 1))
      trace found)
    (last : ∀ {past look : Trace} {left : Nat}, Tracks payload nonce past pending →
      Look (acceptedHashes payload past) look found → (found = none → left = 0) →
      Course courier payload nonce (.watching raises (left + 1)) past (look ++ rest) result) :
    Course courier payload nonce (.watching raises (rounds + 1)) past (trace ++ rest) result := by
  induction rounds generalizing past trace with
  | zero =>
    exact last tracks (tracks.hashes ▸ look_of_runs polled) fun _ => rfl
  | succ rounds ih =>
    rcases runs_pollUntil_succ_iff.mp polled with
      ⟨looked, final⟩ | ⟨left, look, pause, later, same, rfl, looked, waited, continued⟩
    · exact last tracks (tracks.hashes ▸ look_of_runs looked) final
    · obtain rfl : rounds = left := by simpa using same
      obtain rfl := runs_ask_iff.mp waited
      have seen : Look (acceptedHashes payload past) look none :=
        tracks.hashes ▸ look_of_runs looked
      have quiet :
          acceptances payload (look ++ [⟨.sleep courier.policy.pollInterval, ()⟩]) = [] := by
        rw [acceptances_append, seen.acceptances]
        rfl
      simp only [List.append_assoc]
      exact .missed seen (.wait raises rounds) (ih (tracks.append quiet) continued)

theorem settlement_of_runs {receipt : Receipt} (run : Runs (settle receipt) trace result) :
    Settlement receipt trace ∧ result = receipt.outcome := by
  unfold settle at run
  split at run
  · next succeeded =>
    obtain ⟨rfl, rfl⟩ := runs_done_iff.mp run
    exact ⟨.success succeeded, by simp [Receipt.outcome, succeeded]⟩
  · next failed =>
    obtain ⟨answer, _, rfl, ended⟩ := runs_ask_bind_iff.mp run
    obtain ⟨rfl, rfl⟩ := runs_done_iff.mp ended
    exact ⟨.revert (by simpa using failed) answer, by simp [Receipt.outcome, failed]⟩

/-- A look that finds a receipt is followed by nothing but the settlement. -/
private theorem course_of_settle {stage : Stage} {look : Trace} {receipt : Receipt}
    (seen : Look (acceptedHashes payload past) look (some receipt))
    (run : Runs (settle receipt) rest result) :
    Course courier payload nonce stage past (look ++ rest) result := by
  obtain ⟨settled, rfl⟩ := settlement_of_runs run
  exact .found seen settled

private theorem course_of_abandon {reason : String} (tracks : Tracks payload nonce past pending)
    (run : Runs (abandon courier pending reason) trace result) :
    Course courier payload nonce (.leaving reason) past trace result := by
  obtain ⟨look, found, later, rfl, looked, continued⟩ := runs_bind_iff.mp run
  have seen : Look (acceptedHashes payload past) look found := tracks.hashes ▸ look_of_runs looked
  cases found with
  | some receipt => exact course_of_settle seen continued
  | none =>
    obtain ⟨transfers, cleared, later, rfl, dropped, resumed⟩ := runs_bind_iff.mp continued
    obtain ⟨answer, later, rfl, finished⟩ := runs_ask_bind_iff.mp resumed
    obtain ⟨last, found, ending, rfl, again, ended⟩ := runs_bind_iff.mp finished
    have dropped : Runs (clearNonce courier nonce courier.policy.dropAttempts.toNat pending.fee)
        transfers cleared := tracks.nonce ▸ dropped
    have quiet : acceptances payload (look ++ (transfers ++ [⟨.syncNonce, answer⟩])) = [] := by
      have cleared : acceptances payload transfers = [] :=
        acceptances_of_clears (calls_clearNonce _ _ transfers cleared dropped)
      simp only [acceptances_append, seen.acceptances, cleared, List.append_nil]
      rfl
    have latest := (tracks.append (seen.acceptances payload)).fee
    have seen' : Look (acceptedHashes payload _) last found :=
      (tracks.append quiet).hashes ▸ look_of_runs again
    rw [List.append_cons transfers]
    refine .missed seen (.drop reason latest dropped answer) ?_
    cases found with
    | some receipt => exact course_of_settle seen' ended
    | none =>
      obtain ⟨rfl, rfl⟩ := runs_done_iff.mp ended
      rw [List.append_nil, tracks.nonce]
      exact .failed seen' (.abandoned reason cleared)

theorem patience_pos (threshold waited : UInt32) : 0 < patience threshold waited := by
  unfold patience
  split
  · decide
  · split <;> omega

/-- What `speedUp` can do: raise the fee of the pending transaction and try it, once. -/
theorem runs_speedUp {policy : EscalationPolicy} {answer : Except Failure Pending}
    (run : Runs (speedUp policy pending) trace answer) :
    ∃ network, let fee := raisedFee policy pending.fee network
      (∃ hash, answer = .ok (pending.superseding hash fee) ∧ trace = [⟨.networkPrice, network⟩,
        ⟨.broadcast (pending.replacement fee), .ok hash⟩]) ∨
      (∃ failure, answer = .error failure ∧ trace = [⟨.networkPrice, network⟩,
        ⟨.broadcast (pending.replacement fee), .error failure⟩]) := by
  obtain ⟨_, fee, _, rfl, raised, continued⟩ := runs_bind_iff.mp run
  obtain ⟨network, asked, rfl⟩ := runs_bind_done_iff.mp raised
  obtain rfl := runs_ask_iff.mp asked
  obtain ⟨accepted, _, rfl, ended⟩ := runs_ask_bind_iff.mp continued
  refine ⟨network, ?_⟩
  cases accepted with
  | ok hash =>
    obtain ⟨rfl, rfl⟩ := runs_done_iff.mp ended
    exact .inl ⟨hash, rfl, rfl⟩
  | error failure =>
    obtain ⟨rfl, rfl⟩ := runs_done_iff.mp ended
    exact .inr ⟨failure, rfl, rfl⟩

/-- One speed-up: the course up to the next one, which `next` continues. -/
private theorem course_of_speedUp {left rounds : Nat} (tracks : Tracks payload nonce past pending)
    (waits : 0 < rounds) (run : Runs (escalate courier left rounds pending) trace result)
    (next : ∀ {fewer : Nat} {past trace : Trace} {pending : Pending}, left = fewer + 1 →
      Tracks payload nonce past pending →
      Runs (escalate courier fewer (patience courier.policy.threshold 0) pending) trace result →
      Course courier payload nonce (.watching (some fewer) (patience courier.policy.threshold 0))
        past trace result) :
    Course courier payload nonce (.watching (some left) rounds) past trace result := by
  obtain ⟨rounds, rfl⟩ := Nat.exists_eq_add_one.mpr waits
  unfold escalate at run
  obtain ⟨looks, found, rest, rfl, polled, continued⟩ := runs_bind_iff.mp run
  refine course_of_polls tracks polled fun {past look remaining} tracks seen last => ?_
  cases found with
  | some receipt => exact course_of_settle seen continued
  | none =>
    obtain rfl := last rfl
    have watched := tracks.append (seen.acceptances payload)
    cases left with
    | zero =>
      have course := course_of_abandon watched continued
      rw [← List.nil_append rest]
      exact .missed seen .exhausted (by simpa using course)
    | succ left =>
      obtain ⟨_, answer, later, rfl, raised, resumed⟩ := runs_bind_iff.mp continued
      obtain ⟨network, ⟨hash, rfl, rfl⟩ | ⟨failure, rfl, rfl⟩⟩ := runs_speedUp raised <;>
        rw [tracks.replacement]
      · obtain ⟨_, final, rfl, escalated⟩ := runs_ask_bind_iff.mp resumed
        rw [List.append_cons [_, _]]
        refine .missed seen (.faster left watched.fee network hash) ?_
        -- the accepted speed-up is the one addition to the hashes that the next look asks for
        refine next rfl (tracks.superseding ?_) escalated
        rw [acceptances_append, seen.acceptances]
        simp [acceptances, List.filterMap_cons, accepted?]
      · refine .missed seen (.refused left watched.fee network failure) ?_
        refine course_of_abandon (tracks.append ?_) resumed
        rw [acceptances_append, seen.acceptances]
        rfl

private theorem course_of_escalate {left rounds : Nat} (tracks : Tracks payload nonce past pending)
    (waits : 0 < rounds) (run : Runs (escalate courier left rounds pending) trace result) :
    Course courier payload nonce (.watching (some left) rounds) past trace result := by
  induction left generalizing past trace rounds pending with
  | zero => exact course_of_speedUp tracks waits run fun fewer => by omega
  | succ left ih =>
    refine course_of_speedUp tracks waits run fun fewer later continued => ?_
    obtain rfl : left = _ := by simpa using fewer
    exact ih later (patience_pos _ _) continued

private theorem course_of_waitOut (tracks : Tracks payload nonce past pending)
    (run : Runs (waitOut courier pending) trace result) :
    Course courier payload nonce (.watching none (max 1 courier.policy.maxWait.toNat)) past trace
      result := by
  obtain ⟨rounds, same⟩ : ∃ rounds, max 1 courier.policy.maxWait.toNat = rounds + 1 :=
    Nat.exists_eq_add_one.mpr (by omega)
  obtain ⟨looks, found, rest, rfl, polled, continued⟩ := runs_bind_iff.mp run
  rw [same] at polled ⊢
  refine course_of_polls tracks polled fun {past look remaining} tracks seen last => ?_
  cases found with
  | some receipt => exact course_of_settle seen continued
  | none =>
    obtain rfl := last rfl
    obtain ⟨rfl, rfl⟩ := runs_done_iff.mp continued
    rw [List.append_nil]
    exact .failed seen .timeout

/-- Every run of a courier that stays with a transaction is a course. -/
theorem course_of_runs (tracks : Tracks payload nonce past pending)
    (run : Runs (confirm courier pending) trace result) :
    Course courier payload nonce (Stage.start courier.policy pending.cyclesWaited) past trace
      result := by
  unfold confirm at run
  unfold Stage.start
  split at run
  · next enabled =>
    rw [if_pos enabled]
    exact course_of_escalate tracks (patience_pos _ _) run
  · next disabled =>
    rw [if_neg disabled]
    exact course_of_waitOut tracks run

end

end Delivery

end VaultKeeper
