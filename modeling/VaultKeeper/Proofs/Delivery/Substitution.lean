import VaultKeeper.Proofs.Delivery.Fees
import VaultKeeper.Proofs.Program.Indifference
import VaultKeeper.Proofs.Service.Nonce

/-! # Failures that carry no information

A delivery goes on where it cannot read a receipt, the network's price, the counts of its nonce or
the next nonce of its account. `Neutral` says which answers would have told it as little: no
receipt, the price that it offers already, counts that leave its nonce where it is, and the nonce
that the account would take anyway. A delivery that gets any of them in place of a failure makes the
same calls and ends alike.
-/

namespace VaultKeeper

namespace Delivery

open Program Courier

/-- The spans waited for, oldest first. -/
def pauses (trace : Trace) : List Nat :=
  trace.filterMap fun
    | ⟨.sleep span, _⟩ => some span
    | _ => none

/-- The fee that is raised next: that of the transfer tried last, or else that of the payload
accepted last. -/
def standingFee (payload : Payload) (past : Trace) : Option Fee :=
  (latestTransferFee payload past).or (latestFee payload past)

/-- The answers that tell a delivery no more than a failure does, after some exchanges that started
with an account at a certain nonce. -/
inductive Neutral (payload : Payload) (account : NonceCounter) : Substitution Delivery
  | receipt (past : Trace) (hash : Hash) (failure : Failure) :
      Neutral payload account past (.receipt hash) (.error failure) (.ok none)
  | networkPrice {past : Trace} {fee : Fee} (standing : standingFee payload past = some fee)
      (failure : Failure) :
      Neutral payload account past .networkPrice (.error failure) (.ok fee.effective)
  | nonceCounts {past : Trace} {nonce : UInt64} {counts : NonceCounts}
      (taken : nonce ∈ reservations past) (unmined : counts.confirmed ≤ nonce)
      (waiting : counts.pending ≠ counts.confirmed) (failure : Failure) :
      Neutral payload account past .nonceCounts (.error failure) (.ok counts)
  | syncNonce {past : Trace} {counter : NonceCounter}
      (counted : NonceCounter.Path account past counter) (failure : Failure) :
      Neutral payload account past .syncNonce (.error failure) (.ok counter.next)

variable {courier : Courier} {payload : Payload} {account : NonceCounter} {nonce : UInt64}
  {past trace : Trace} {pending : Pending} {fee : Fee}

/-- A delivery has taken one nonce, and the fee that it raises next is known. -/
structure Bidding (payload : Payload) (nonce : UInt64) (past : Trace) (fee : Fee) : Prop where
  fee : standingFee payload past = some fee
  taken : reservations past = [nonce]

theorem Bidding.reads (bidding : Bidding payload nonce past fee)
    (reads : ∀ exchange ∈ trace, exchange.call.Reads) :
    Bidding payload nonce (past ++ trace) fee where
  fee := by
    have quiet := attempts_of_reads reads
    rw [standingFee, latestTransferFee_append (transfers_of_attempts quiet),
      latestFee_append (acceptances_of_attempts quiet)]
    exact bidding.fee
  taken := by rw [reservations_append, reservations_of_reads reads, bidding.taken]; rfl

/-- A delivery that waits for its payload has tried nothing else. -/
structure Watching (payload : Payload) (nonce : UInt64) (past : Trace) (pending : Pending) :
    Prop where
  tracks : Tracks payload nonce past pending
  untransferred : transfers payload past = []
  taken : reservations past = [nonce]

namespace Watching

theorem bidding (watching : Watching payload nonce past pending) :
    Bidding payload nonce past pending.fee where
  fee := by
    rw [standingFee, latestTransferFee, watching.untransferred, watching.tracks.fee]
    rfl
  taken := watching.taken

theorem reads (watching : Watching payload nonce past pending)
    (reads : ∀ exchange ∈ trace, exchange.call.Reads) :
    Watching payload nonce (past ++ trace) pending where
  tracks := watching.tracks.append (acceptances_of_attempts (attempts_of_reads reads))
  untransferred := by
    rw [transfers_append, watching.untransferred, transfers_of_attempts (attempts_of_reads reads)]
    rfl
  taken := by rw [reservations_append, reservations_of_reads reads, watching.taken]; rfl

/-- A speed-up that is refused leaves the payload where it is. -/
theorem refused (watching : Watching payload nonce past pending) (network : Except Failure Wei)
    (bid : Fee) (failure : Failure) :
    Watching payload nonce (past ++ [⟨.networkPrice, network⟩,
      ⟨.broadcast (pending.replacement bid), .error failure⟩]) pending := by
  rw [watching.tracks.replacement]
  refine ⟨watching.tracks.append rfl, ?_, ?_⟩
  · rw [transfers_append, watching.untransferred]
    simp [transfers, attempts, attempted?, List.filterMap_cons]
  · rw [reservations_append, watching.taken]
    rfl

/-- A speed-up that is accepted supersedes the payload. -/
theorem superseding (watching : Watching payload nonce past pending)
    (network : Except Failure Wei) (bid : Fee) (hash : Hash) :
    Watching payload nonce (past ++ [⟨.networkPrice, network⟩,
      ⟨.broadcast (pending.replacement bid), .ok hash⟩]) (pending.superseding hash bid) := by
  rw [watching.tracks.replacement]
  refine ⟨watching.tracks.superseding ?_, ?_, ?_⟩
  · simp [acceptances, accepted?, List.filterMap_cons]
  · rw [transfers_append, watching.untransferred]
    simp [transfers, attempts, attempted?, List.filterMap_cons]
  · rw [reservations_append, watching.taken]
    rfl

theorem opening (payload : Payload) (fee : Fee) (nonce : UInt64) (hash : Hash) (time : UInt64) :
    Watching payload nonce (opening payload fee nonce hash time)
      ⟨hash, nonce, payload.receiver, payload.data, fee, time, 0, []⟩ where
  tracks := tracks_opening fee hash time
  untransferred := by simp [transfers, attempts, Delivery.opening, attempted?, List.filterMap_cons]
  taken := rfl

end Watching

section

variable (payload account)

theorem indifferent_sleep (past : Trace) (span : Nat) :
    Indifferent (Neutral payload account) past (sleep span) :=
  .call (fun _ _ neutral => by cases neutral) fun _ => .done _ _

theorem indifferent_findReceipt (past : Trace) (hashes : List Hash) :
    Indifferent (Neutral payload account) past (findReceipt hashes) := by
  induction hashes generalizing past with
  | nil => exact .done past none
  | cons hash rest ih =>
    refine .ask (fun answer substitute neutral => ?_) fun answer => ?_
    · cases neutral with
      | receipt => rfl
    · match answer with
      | .ok (some receipt) => exact .done _ (some receipt)
      | .ok none | .error _ => exact ih _

theorem indifferent_polls (past : Trace) (span : Nat) (hashes : List Hash) (rounds : Nat) :
    Indifferent (Neutral payload account) past
      (pollUntil (sleep span) (findReceipt hashes) rounds) := by
  refine .pollUntil (fun _ => True) (fun past _ => ⟨?_, fun _ _ => trivial⟩)
    (fun past _ => ⟨?_, fun _ _ _ => trivial⟩) trivial rounds
  · exact indifferent_sleep payload account past span
  · exact indifferent_findReceipt payload account past hashes

/-- What the chain says about the next nonce is for the account only. -/
theorem indifferent_settle (past : Trace) (receipt : Receipt) :
    Indifferent (Neutral payload account) past (settle receipt) := by
  unfold settle
  split
  · exact .done past _
  · exact .ask (fun _ _ _ => rfl) fun _ => .done _ _

end

/-- Counts that leave the nonce where it is do not clear it. -/
theorem indifferent_checkCleared (taken : reservations past = [nonce]) :
    Indifferent (Neutral payload account) past (checkCleared nonce) := by
  refine .ask (fun answer substitute neutral => ?_) fun answer => ?_
  · cases neutral with
    | @nonceCounts _ other counts took unmined waiting failure =>
      obtain rfl : other = nonce := by simpa [taken] using took
      have uncleared : NonceCounts.cleared other counts = false := by
        simp [NonceCounts.cleared, waiting, unmined]
      simp [uncleared]
  · cases answer <;> exact .done _ _

/-- The price that stands in for the network's is the one that the standing fee offers. -/
theorem indifferent_raise (policy : EscalationPolicy)
    (bidding : Bidding payload nonce past fee) :
    Indifferent (Neutral payload account) past (raise policy fee) := by
  refine .ask (fun answer substitute neutral => ?_) fun _ => .done _ _
  cases neutral with
  | @networkPrice _ other found failure =>
    obtain rfl : other = fee := Option.some.inj (found.symm.trans bidding.fee)
    rfl

theorem indifferent_clearNonce (attempts : Nat) (bidding : Bidding payload nonce past fee) :
    Indifferent (Neutral payload account) past (clearNonce courier nonce attempts fee) := by
  induction attempts generalizing past fee with
  | zero => exact .done past false
  | succ attempts ih =>
    refine (indifferent_raise courier.policy bidding).bind fun asking raised ran => ?_
    obtain ⟨network, asked, rfl⟩ := runs_bind_done_iff.mp ran
    obtain rfl := runs_ask_iff.mp asked
    generalize raisedFee courier.policy fee network = raised
    refine .ask (fun _ _ neutral => by cases neutral) fun answer => ?_
    have tried : Bidding payload nonce (past ++ [⟨.networkPrice, network⟩] ++
        [⟨.broadcast (emptyTransfer courier.account nonce raised), answer⟩]) raised := by
      constructor
      · have last : transfers payload
            [⟨.broadcast (emptyTransfer courier.account nonce raised), answer⟩] =
            [emptyTransfer courier.account nonce raised] := by
          simp [transfers, Delivery.attempts, attempted?]
        rw [standingFee, latestTransferFee_of_transfers last]
        rfl
      · rw [reservations_append, reservations_append, bidding.taken]
        rfl
    have checks := calls_checks courier.policy.pollInterval nonce (clearRounds courier.policy)
    refine Indifferent.bind ?_ fun looks found looked => ?_
    · refine .pollUntil (fun past => Bidding payload nonce past raised)
        (fun past bidding => ⟨indifferent_sleep payload account past _, ?_⟩)
        (fun past bidding => ⟨indifferent_checkCleared bidding.taken, ?_⟩) tried _
      · intro pause waited
        exact bidding.reads (calls_sleep _ pause () waited)
      · intro look found looked
        exact bidding.reads (calls_checkCleared nonce look found looked)
    · cases found with
      | some => exact .done _ true
      | none => exact ih (tried.reads (checks looks none looked))

theorem indifferent_speedUp (policy : EscalationPolicy)
    (bidding : Bidding payload nonce past pending.fee) :
    Indifferent (Neutral payload account) past (speedUp policy pending) := by
  refine (indifferent_raise policy bidding).bind fun _ raised _ => ?_
  refine .ask (fun _ _ neutral => by cases neutral) fun answer => ?_
  cases answer <;> exact .done _ _

theorem indifferent_abandon (watching : Watching payload nonce past pending) (reason : String) :
    Indifferent (Neutral payload account) past (abandon courier pending reason) := by
  refine (indifferent_findReceipt payload account past _).bind fun look found looked => ?_
  cases found with
  | some receipt => exact indifferent_settle payload account _ receipt
  | none =>
    have left := watching.reads (calls_findReceipt _ look none looked)
    have clears : Indifferent (Neutral payload account) (past ++ look)
        (dropPending courier pending) :=
      indifferent_clearNonce _ (left.tracks.nonce ▸ left.bidding)
    refine clears.bind fun transfers cleared _ => .ask (fun _ _ _ => rfl) fun answer => ?_
    refine (indifferent_findReceipt payload account _ _).bind fun last found _ => ?_
    cases found with
    | some receipt => exact indifferent_settle payload account _ receipt
    | none => exact .done _ _

/-- One round of looks: a receipt ends the delivery, and `next` says what happens without any. -/
theorem indifferent_watch (watching : Watching payload nonce past pending) (span rounds : Nat)
    {next : Program Delivery (Except Failure Receipt)}
    (missed : ∀ looks, Watching payload nonce (past ++ looks) pending →
      Indifferent (Neutral payload account) (past ++ looks) next) :
    Indifferent (Neutral payload account) past
      (pollUntil (sleep span) (pollOnce pending) rounds >>= fun
        | some found => settle found
        | none => next) := by
  refine (indifferent_polls payload account past span _ rounds).bind fun looks found looked => ?_
  cases found with
  | some receipt => exact indifferent_settle payload account _ receipt
  | none =>
    exact missed looks (watching.reads (calls_polls span pending rounds looks none looked))

theorem indifferent_escalate (left rounds : Nat)
    (watching : Watching payload nonce past pending) :
    Indifferent (Neutral payload account) past (escalate courier left rounds pending) := by
  induction left generalizing past rounds pending with
  | zero =>
    unfold escalate
    refine indifferent_watch watching _ rounds fun looks watching => ?_
    exact indifferent_abandon watching _
  | succ left ih =>
    unfold escalate
    refine indifferent_watch watching _ rounds fun looks watching => ?_
    refine (indifferent_speedUp _ watching.bidding).bind fun acts answer ran => ?_
    obtain ⟨network, ⟨hash, rfl, rfl⟩ | ⟨failure, rfl, rfl⟩⟩ := runs_speedUp ran
    · have faster :=
        watching.superseding network (raisedFee courier.policy pending.fee network) hash
      refine .ask (fun _ _ neutral => by cases neutral) fun answer => ?_
      exact ih _ (faster.reads (by simp [Call.Reads]))
    · exact indifferent_abandon (watching.refused network _ failure) _

theorem indifferent_confirm (watching : Watching payload nonce past pending) :
    Indifferent (Neutral payload account) past (confirm courier pending) := by
  unfold confirm
  split
  · exact indifferent_escalate _ _ watching
  · exact indifferent_watch watching _ _ fun _ _ => .done _ _

/-- A submission that is refused fails, whatever the chain then says about the next nonce. -/
theorem indifferent_submit (past : Trace) (receiver : Address) (data : Bytes) :
    Indifferent (Neutral payload account) past (submit receiver data none) := by
  refine .ask (fun _ _ neutral => by cases neutral) fun offer => ?_
  cases offer with
  | error failure => exact .done _ _
  | ok fee =>
    refine .ask (fun _ _ neutral => by cases neutral) fun nonce => ?_
    refine .ask (fun _ _ neutral => by cases neutral) fun answer => ?_
    cases answer with
    | error failure => exact .ask (fun _ _ _ => rfl) fun _ => .done _ _
    | ok hash => exact .ask (fun _ _ neutral => by cases neutral) fun _ => .done _ _

/-- A delivery is indifferent to answers that tell it no more than a failure does. -/
theorem indifferent_deliver (courier : Courier) (payload : Payload) (account : NonceCounter) :
    Indifferent (Neutral payload account) [] (courier.deliver payload.receiver payload.data) := by
  refine (indifferent_submit [] _ _).bind fun submitted answer sent => ?_
  cases submission_of_runs sent with
  | unpriced | refused => exact .done _ _
  | @accepted _ fee priced nonce hash time =>
    cases priced
    exact indifferent_confirm (.opening payload fee nonce hash time)

end Delivery

namespace NonceCounter

open Program Delivery

variable {counter counter' account source target : NonceCounter}
  {past trace trace' : Delivery.Trace} {payload : Payload}

/-- An account whose next nonce is the same goes on with the same one after the same answer, and
after one that tells it no more. -/
theorem Step.substitute {call : Delivery.Call} {answer answer' : Interface.Answer Delivery call}
    (step : Step counter ⟨call, answer⟩ target) (same : counter'.next = counter.next)
    (counted : Path account past counter)
    (stands : answer' = answer ∨ Neutral payload account past call answer answer') :
    ∃ target', Step counter' ⟨call, answer'⟩ target' ∧ target'.next = target.next := by
  rcases stands with rfl | neutral
  · cases step with
    | reserve =>
      have next : counter'.reserve.2.next = counter.reserve.2.next := congrArg (· + 1) same
      exact ⟨_, same ▸ .reserve counter', next⟩
    | reset nonce => exact ⟨_, .reset counter' nonce, rfl⟩
    | unread failure => exact ⟨_, .unread counter' failure, same⟩
    | other _ reserves syncs => exact ⟨_, .other counter' _ reserves syncs, same⟩
  · cases neutral with
    | receipt | networkPrice | nonceCounts =>
      cases step with
      | other _ reserves syncs => exact ⟨_, .other counter' _ reserves syncs, same⟩
    | syncNonce found failure =>
      obtain rfl := counted.unique found
      cases step with
      | unread => exact ⟨_, .reset counter' _, rfl⟩
      | other _ _ syncs => exact absurd rfl syncs

theorem Path.substitute (path : Path source trace target)
    (substituted : Substituted (Neutral payload account) past trace trace')
    (counted : Path account past source) (same : counter'.next = source.next) :
    ∃ target', Path counter' trace' target' ∧ target'.next = target.next := by
  induction substituted generalizing source counter' with
  | nil =>
    cases path
    exact ⟨counter', .nil counter', same⟩
  | cons stands _ ih =>
    cases path with
    | cons step later =>
      obtain ⟨middle', step', same'⟩ := step.substitute same counted stands
      have counted' := path_append_iff.mpr ⟨source, counted, .cons step (.nil _)⟩
      obtain ⟨target', path', reached⟩ := ih later counted' same'
      exact ⟨target', .cons step' path', reached⟩

end NonceCounter

namespace Delivery

open Program Courier

/-- A delivery stays one, with the same result, when some of its failures are replaced by answers
that tell it no more. And whatever another delivery of the payload does that is answered like the
first, but for such replacements: it makes the same calls. So it tries the same transactions at the
same fees, waits for the same spans and ends with the same result, and the account goes on with the
same nonce. -/
theorem deliver_neutral {courier : Courier} {payload : Payload} {trace : Trace}
    {result : Except Failure Receipt}
    (run : Runs (courier.deliver payload.receiver payload.data) trace result)
    (account : NonceCounter) :
    (∀ trace', Substituted (Neutral payload account) [] trace trace' →
      Runs (courier.deliver payload.receiver payload.data) trace' result) ∧
    ∀ trace' result', Runs (courier.deliver payload.receiver payload.data) trace' result' →
      AnsweredAlike (Neutral payload account) [] trace trace' →
      trace'.map Exchange.call = trace.map Exchange.call ∧ attempts trace' = attempts trace ∧
        pauses trace' = pauses trace ∧ result' = result ∧
        ∀ after, NonceCounter.Path account trace after →
          ∃ after', NonceCounter.Path account trace' after' ∧ after'.next = after.next := by
  have indifferent := indifferent_deliver courier payload account
  refine ⟨fun trace' substituted => indifferent.substitute run substituted, ?_⟩
  intro trace' result' again alike
  obtain ⟨substituted, same⟩ := indifferent.agree run again alike
  refine ⟨substituted.calls, substituted.filterMap ?_, substituted.filterMap ?_, same, ?_⟩
  · rintro (_ | _ | _) answer answer' <;> rfl
  · rintro (_ | _ | _) answer answer' <;> rfl
  · intro after counted
    exact counted.substitute substituted (.nil account) rfl

/-- `parcel` is given up after a speed-up and a transfer. The answers on the way are failures, or
others that tell as little. -/
def dimDelivery (found : Except Failure (Option Receipt)) (price price' : Except Failure Wei)
    (counts : Except Failure NonceCounts) (next : Except Failure UInt64) : Trace :=
  opening parcel firstBid 4 11 100 ++
    [⟨.receipt 11, found⟩, ⟨.networkPrice, price⟩,
      ⟨.broadcast (parcel.transaction 4 (nextBid firstBid)), .ok 12⟩, ⟨.sleep 1000, ()⟩,
      ⟨.receipt 12, .ok none⟩, ⟨.receipt 11, found⟩, ⟨.receipt 12, found⟩, ⟨.receipt 11, .ok none⟩,
      ⟨.networkPrice, price'⟩,
      ⟨.broadcast (emptyTransfer hasty.account 4 (nextBid (nextBid firstBid))), .ok 13⟩,
      ⟨.nonceCounts, counts⟩, ⟨.syncNonce, next⟩, ⟨.receipt 12, .ok none⟩, ⟨.receipt 11, found⟩]

/-- Whatever can be asked for cannot be read. -/
def blindDelivery : Trace :=
  let failure : Failure := .transient .unreachable
  dimDelivery (.error failure) (.error failure) (.error failure) (.error failure) (.error failure)

/-- There is no receipt yet, the network asks for what is offered, the nonce is not mined, and the
account would go on with its own count. -/
def dullDelivery : Trace :=
  dimDelivery (.ok none) (.ok firstBid.effective) (.ok (nextBid firstBid).effective)
    (.ok ⟨4, 6⟩) (.ok 5)

/-- What both of them end with. -/
def dimOutcome : Except Failure Receipt :=
  .error (.abandoned 4 "not mined after 1 speed-ups" false)

theorem runs_blindDelivery :
    Runs (hasty.deliver parcel.receiver parcel.data) blindDelivery dimOutcome := by
  refine runs_of_opening ?_
  change Runs (hasty.escalate 1 1 _) _ _
  unfold escalate
  refine .call (.call (.call (.call ?_)))
  change Runs (hasty.escalate 0 1 _) _ _
  unfold escalate
  exact .call (.call (.call (.call (.call (.call (.call (.call (.call (.call (.done _))))))))))

theorem substituted_dullDelivery :
    Substituted (Neutral parcel (.start 4)) [] blindDelivery dullDelivery := by
  have same {past rest rest' : Trace} {exchange : Exchange Delivery}
      (later : Substituted (Neutral parcel (.start 4)) (past ++ [exchange]) rest rest') :
      Substituted (Neutral parcel (.start 4)) past (exchange :: rest) (exchange :: rest') :=
    .cons (.inl rfl) later
  refine same (same (same (same ?_)))
  refine .cons (.inr (.receipt ..)) (.cons (.inr (.networkPrice rfl _)) (same (same (same ?_))))
  refine .cons (.inr (.receipt ..)) (.cons (.inr (.receipt ..)) (same ?_))
  refine .cons (.inr (.networkPrice rfl _)) (same ?_)
  have taken : 4 ∈ [(4 : UInt64)] := List.mem_singleton_self 4
  refine .cons (.inr (.nonceCounts taken (by decide) (by decide) _)) ?_
  refine .cons (.inr (@Neutral.syncNonce _ _ _ ⟨5, 4⟩ ?_ _)) ?_
  · -- the one nonce is taken right after the fee was offered
    refine .cons (.other _ _ nofun nofun) (.cons (.reserve _) (NonceCounter.path_self rfl ?_))
    exact fun _ => List.not_mem_nil
  · exact same (.cons (.inr (.receipt ..)) (.nil _))

theorem path_blindDelivery : NonceCounter.Path (.start 4) blindDelivery ⟨5, 4⟩ := by
  refine .cons (.other _ _ nofun nofun) (.cons (.reserve _) (NonceCounter.path_self rfl ?_))
  intro nonce member
  cases List.mem_singleton.mp member

/-- Whether everything fails that may, or nothing is told, `parcel` is given up after the same
attempts, and the nonce after it is the next one. -/
theorem deliver_neutral_dull :
    Runs (hasty.deliver parcel.receiver parcel.data) blindDelivery dimOutcome ∧
      Runs (hasty.deliver parcel.receiver parcel.data) dullDelivery dimOutcome ∧
      AnsweredAlike (Neutral parcel (.start 4)) [] blindDelivery dullDelivery ∧
      attempts dullDelivery = attempts blindDelivery ∧
      ∃ after, NonceCounter.Path (.start 4) dullDelivery after ∧ after.next = 5 := by
  obtain ⟨stays, agrees⟩ := deliver_neutral runs_blindDelivery (.start 4)
  have again : Runs (hasty.deliver parcel.receiver parcel.data) dullDelivery dimOutcome :=
    stays dullDelivery substituted_dullDelivery
  have alike := substituted_dullDelivery.answeredAlike
  obtain ⟨-, tried, -, -, counted⟩ := agrees dullDelivery dimOutcome again alike
  exact ⟨runs_blindDelivery, again, alike, tried, counted _ path_blindDelivery⟩

end Delivery

end VaultKeeper
