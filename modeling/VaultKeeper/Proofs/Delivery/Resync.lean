import VaultKeeper.Proofs.Delivery.Broadcasts
import VaultKeeper.Proofs.Program.Agreement

/-! # When the nonce is read from the chain

A delivery reads the nonce of its account from the chain at three points: when its first broadcast
was refused, when a receipt says that its transaction failed, and when it has tried to clear its
nonce. `ResyncsAfter` says which exchanges lead to one of them. It is read at each of these points,
and nowhere else.
-/

namespace VaultKeeper.Delivery

open Program Courier

/-- The next exchange reads the nonce from the chain. -/
def Resynced (after : Trace) : Prop :=
  ∃ answer rest, after = ⟨.syncNonce, answer⟩ :: rest

/-- Where a delivery stands after some exchanges, the next of which are a look. -/
inductive Reaches (courier : Courier) (payload : Payload) (nonce : UInt64) : Trace → Stage → Prop
  | start (fee : Fee) (hash : Hash) (time : UInt64) :
      Reaches courier payload nonce (opening payload fee nonce hash time)
        (Stage.start courier.policy 0)
  | onward {past look acts : Trace} {stage next : Stage}
      (reached : Reaches courier payload nonce past stage)
      (seen : Look (acceptedHashes payload past) look none)
      (acted : Between courier payload nonce (past ++ look) stage acts next) :
      Reaches courier payload nonce (past ++ (look ++ acts)) next

/-- The exchanges after which a delivery reads the nonce from the chain. -/
inductive ResyncsAfter (courier : Courier) (payload : Payload) : Trace → Prop
  /-- A broadcast before which there was none is refused. -/
  | refused {past : Trace} {transaction : Transaction} {failure : Failure}
      (first : attempts past = []) :
      ResyncsAfter courier payload (past ++ [⟨.broadcast transaction, .error failure⟩])
  /-- A receipt says that the transaction failed. -/
  | reverted {past : Trace} {hash : Hash} {receipt : Receipt} (failed : receipt.success = false) :
      ResyncsAfter courier payload (past ++ [⟨.receipt hash, .ok (some receipt)⟩])
  /-- A payload that is given up was looked for in vain, and clearing its nonce is over. -/
  | dropped {past look transfers : Trace} {nonce : UInt64} {reason : String} {fee : Fee}
      {cleared : Bool} (reached : Reaches courier payload nonce past (.leaving reason))
      (seen : Look (acceptedHashes payload past) look none)
      (latest : latestFee payload (past ++ look) = some fee)
      (ran : Runs (clearNonce courier nonce courier.policy.dropAttempts.toNat fee) transfers
        cleared) :
      ResyncsAfter courier payload (past ++ (look ++ transfers))

namespace Look

variable {hashes : List Hash} {first second early late : Trace} {found found' : Option Receipt}

/-- A look is a run of its search. -/
theorem runs (look : Look hashes first found) : Runs (findReceipt hashes) first found := by
  induction look with
  | nil => exact .done none
  | hit => exact .call (.done _)
  | @miss _ _ answer _ _ nothing _ ih =>
    match answer, nothing with
    | .ok (some _), nothing => cases nothing
    | .ok none, _ | .error _, _ => exact .call ih

theorem unique (look : Look hashes first found) (again : Look hashes second found')
    (same : first ++ early = second ++ late) : first = second ∧ found = found' :=
  look.runs.unique again.runs same

/-- A receipt ends the look that brings it. -/
theorem stops {hash : Hash} {receipt : Receipt} (look : Look hashes first found)
    (same : first = early ++ ⟨.receipt hash, .ok (some receipt)⟩ :: late) :
    late = [] ∧ found = some receipt := by
  induction look generalizing early with
  | nil => simp at same
  | hit hash' _ receipt' =>
    obtain ⟨rfl, head⟩ | ⟨_, _, absent⟩ := List.cons_eq_append_iff.mp same
    · cases head
      exact ⟨rfl, rfl⟩
    · simp at absent
  | miss nothing _ ih =>
    obtain ⟨rfl, head⟩ | ⟨_, rfl, tail⟩ := List.cons_eq_append_iff.mp same
    · cases head
      cases nothing
    · exact ih tail

/-- A look that finds a receipt ends with it. -/
theorem brings {receipt : Receipt} (look : Look hashes first found)
    (same : found = some receipt) :
    ∃ past hash, first = past ++ [⟨.receipt hash, .ok (some receipt)⟩] := by
  induction look with
  | nil => cases same
  | hit hash =>
    cases same
    exact ⟨[], hash, rfl⟩
  | miss _ _ ih =>
    obtain ⟨past, hash, rfl⟩ := ih same
    exact ⟨_ :: past, hash, rfl⟩

theorem not_mem_sync (look : Look hashes first found) (answer : Except Failure UInt64) :
    ⟨.syncNonce, answer⟩ ∉ first := by
  intro member
  obtain ⟨_, same⟩ := look.asks _ member
  cases same

end Look

section

variable {courier : Courier} {payload : Payload} {nonce : UInt64} {fee : Fee} {hash : Hash}
  {time : UInt64} {past trace before after rest acts : Trace} {stage next : Stage}
  {result : Except Failure Receipt}

theorem not_mem_sync_of_clears
    (clears : ∀ exchange ∈ trace, Clears courier nonce exchange.call)
    (answer : Except Failure UInt64) : ⟨.syncNonce, answer⟩ ∉ trace := by
  intro member
  cases clears _ member

/-- What comes between two looks is settled by the exchanges themselves. -/
theorem Between.unique {acts' early late : Trace} {next' : Stage}
    (acted : Between courier payload nonce past stage acts next)
    (again : Between courier payload nonce past stage acts' next')
    (same : acts ++ early = acts' ++ late) : acts = acts' ∧ next = next' := by
  cases acted with
  | wait =>
    cases again
    exact ⟨rfl, rfl⟩
  | exhausted =>
    cases again
    exact ⟨rfl, rfl⟩
  | faster left latest network hash =>
    -- the same broadcast is either accepted or refused
    cases again with
    | faster _ latest' network' hash' =>
      cases latest.symm.trans latest'
      cases same
      exact ⟨rfl, rfl⟩
    | refused _ latest' network' failure =>
      cases latest.symm.trans latest'
      cases same
  | refused left latest network failure =>
    cases again with
    | faster _ latest' network' hash =>
      cases latest.symm.trans latest'
      cases same
    | refused _ latest' network' failure' =>
      cases latest.symm.trans latest'
      cases same
      exact ⟨rfl, rfl⟩
  | drop reason latest dropped answer =>
    cases again with
    | drop _ latest' dropped' answer' =>
      cases latest.symm.trans latest'
      rw [List.append_assoc, List.append_assoc] at same
      obtain ⟨rfl, rfl⟩ := dropped.unique dropped' same
      cases List.append_cancel_left same
      exact ⟨rfl, rfl⟩

/-- A delivery that has got through some exchanges to a stage goes on from there. -/
theorem Course.onward {nonce' : UInt64}
    (course : Course courier payload nonce (Stage.start courier.policy 0)
      (opening payload fee nonce hash time) rest result)
    (reached : Reaches courier payload nonce' past stage)
    (same : opening payload fee nonce hash time ++ rest = past ++ after) :
    nonce' = nonce ∧ Course courier payload nonce stage past after result := by
  induction reached generalizing after with
  | start =>
    cases same
    exact ⟨rfl, course⟩
  | @onward past look acts stage next _ seen acted ih =>
    rw [List.append_assoc, List.append_assoc] at same
    obtain ⟨rfl, course⟩ := ih same
    refine ⟨rfl, ?_⟩
    generalize split : look ++ (acts ++ after) = later at course
    cases course with
    | found seen' =>
      obtain ⟨-, missed⟩ := seen.unique seen' split
      cases missed
    | missed seen' acted' later =>
      obtain ⟨rfl, -⟩ := seen.unique seen' split
      have split := List.append_cancel_left split
      obtain ⟨rfl, rfl⟩ := acted.unique acted' split
      cases List.append_cancel_left split
      exact later
    | failed seen' ends => cases ends <;> cases acted

/-- Wherever a course reads the nonce from the chain, there was a reason to. -/
theorem Course.resyncsAfter {answer : Except Failure UInt64}
    (course : Course courier payload nonce stage past rest result)
    (reached : Reaches courier payload nonce past stage)
    (same : rest = before ++ ⟨.syncNonce, answer⟩ :: after) :
    ResyncsAfter courier payload (past ++ before) := by
  induction course generalizing before with
  | @found _ past look settlement receipt seen settled =>
    -- looks do not read the nonce, so it is the settlement that does
    obtain ⟨more, rfl, split⟩ := split_of_notMem (seen.not_mem_sync answer) same
    cases settled with
    | success => simp at split
    | revert failed =>
      obtain ⟨rfl, -⟩ | ⟨_, _, absent⟩ := List.cons_eq_append_iff.mp split
      · obtain ⟨earlier, hash, rfl⟩ := seen.brings rfl
        rw [List.append_nil, ← List.append_assoc]
        exact .reverted failed
      · simp at absent
  | @missed _ _ past look acts rest _ seen acted _ ih =>
    have later {more : Trace} (split : rest = more ++ ⟨.syncNonce, answer⟩ :: after) :
        ResyncsAfter courier payload (past ++ (look ++ (acts ++ more))) := by
      rw [← List.append_assoc look, ← List.append_assoc past]
      exact ih (.onward reached seen acted) split
    obtain ⟨unlooked, rfl, split⟩ := split_of_notMem (seen.not_mem_sync answer) same
    cases acted with
    | wait | faster | refused | exhausted =>
      obtain ⟨_, rfl, behind⟩ := split_of_notMem (by simp) split
      exact later behind
    | @drop reason fee latest transfers cleared dropped answer' =>
      have clears := calls_clearNonce _ _ transfers cleared dropped
      have absent := not_mem_sync_of_clears clears answer
      rw [List.append_assoc] at split
      obtain ⟨_, rfl, behind⟩ := split_of_notMem absent split
      obtain ⟨rfl, -⟩ | ⟨more, rfl, others⟩ := List.cons_eq_append_iff.mp behind
      · rw [List.append_nil]
        exact .dropped reached seen latest dropped
      · rw [List.append_cons transfers]
        exact later others
  | failed seen => exact absurd (same ▸ by simp) (seen.not_mem_sync answer)

/-- A receipt of a failed transaction makes a course read the nonce from the chain. -/
theorem Course.resynced_of_reverted {receipt : Receipt} (failed : receipt.success = false)
    (course : Course courier payload nonce stage past rest result)
    (same : rest = before ++ ⟨.receipt hash, .ok (some receipt)⟩ :: after) : Resynced after := by
  have brought {trace : Trace} (none : Delivery.receipts trace = []) :
      ⟨.receipt hash, .ok (some receipt)⟩ ∉ trace := by
    intro member
    have found := List.filterMap_eq_nil_iff.mp none _ member
    cases found
  induction course generalizing before with
  | found seen settled =>
    rcases List.append_eq_append_iff.mp same with ⟨more, rfl, split⟩ | ⟨more, rfl, split⟩
    · cases settled <;> simp [List.cons_eq_append_iff] at split
    · obtain ⟨rfl, rfl⟩ | ⟨more, rfl, rfl⟩ := List.cons_eq_append_iff.mp split
      · cases settled
      · obtain ⟨rfl, ⟨⟩⟩ := seen.stops rfl
        cases settled with
        | success succeeded => simp [succeeded] at failed
        | revert _ answer => exact ⟨answer, [], rfl⟩
  | missed seen acted _ ih =>
    obtain ⟨_, rfl, split⟩ := split_of_notMem (brought seen.receipts) same
    obtain ⟨_, rfl, behind⟩ := split_of_notMem (brought acted.receipts) split
    exact ih behind
  | failed seen => exact absurd (same ▸ by simp) (brought seen.receipts)

/-- Every delivery that stands somewhere has got its payload accepted. -/
theorem Reaches.opened (reached : Reaches courier payload nonce past stage) :
    ∃ fee hash, ⟨.broadcast (payload.transaction nonce fee), .ok hash⟩ ∈ past := by
  induction reached with
  | start fee hash time => exact ⟨fee, hash, by simp [opening]⟩
  | onward _ _ _ ih =>
    obtain ⟨fee, hash, member⟩ := ih
    exact ⟨fee, hash, List.mem_append_left _ member⟩

/-- A broadcast that is refused behind the opening of a delivery is not its first. -/
theorem attempts_ne_of_opening {transaction : Transaction} {failure : Failure}
    (same : opening payload fee nonce hash time ++ rest =
      before ++ ⟨.broadcast transaction, .error failure⟩ :: after) : attempts before ≠ [] := by
  obtain ⟨_, rfl, _⟩ := split_of_notMem (by simp [opening]) same
  rw [attempts_append]
  simp [opening, attempts, attempted?, List.filterMap_cons]

/-- Behind the opening of a delivery, whatever leads to reading the nonce does so. -/
theorem Course.resynced
    (course : Course courier payload nonce (Stage.start courier.policy 0)
      (opening payload fee nonce hash time) rest result)
    (same : opening payload fee nonce hash time ++ rest = before ++ after)
    (resyncs : ResyncsAfter courier payload before) : Resynced after := by
  cases resyncs with
  | refused first =>
    rw [List.append_assoc] at same
    exact absurd first (attempts_ne_of_opening same)
  | reverted failed =>
    rw [List.append_assoc] at same
    obtain ⟨_, rfl, behind⟩ := split_of_notMem (by simp [opening]) same
    exact course.resynced_of_reverted failed behind
  | @dropped past look transfers _ reason _ cleared reached seen latest ran =>
    rw [List.append_assoc, List.append_assoc] at same
    obtain ⟨rfl, leaving⟩ := course.onward reached same
    generalize split : look ++ (transfers ++ after) = later at leaving
    cases leaving with
    | found seen' =>
      obtain ⟨-, missed⟩ := seen.unique seen' split
      cases missed
    | missed seen' acted =>
      obtain ⟨rfl, -⟩ := seen.unique seen' split
      have split := List.append_cancel_left split
      cases acted with
      | drop _ latest' dropped answer =>
        cases latest.symm.trans latest'
        rw [List.append_assoc] at split
        obtain ⟨rfl, -⟩ := ran.unique dropped split
        exact ⟨answer, _, List.append_cancel_left split⟩
    | failed _ ends => cases ends

/-- Once the nonce was cleared, one look is left, and what it finds ends the delivery. -/
theorem Course.closing {reason : String} {cleared : Bool}
    (course : Course courier payload nonce (.leftover reason cleared) past rest result) :
    (∃ look receipt settlement, rest = look ++ settlement ∧
      Look (acceptedHashes payload past) look (some receipt) ∧ Settlement receipt settlement ∧
      result = receipt.outcome) ∨
    Look (acceptedHashes payload past) rest none ∧
      result = .error (.abandoned nonce reason cleared) := by
  cases course with
  | found seen settled => exact .inl ⟨_, _, _, rfl, seen, settled, rfl⟩
  | missed _ acted => cases acted
  | failed seen ends =>
    cases ends
    exact .inr ⟨seen, rfl⟩

/-- Without escalation and without a receipt a delivery times out, and leaves its nonce alone. -/
theorem Course.waitsOut {rounds : Nat}
    (course : Course courier payload nonce (.watching none rounds) past rest result)
    (nothing : receipts rest = []) :
    syncs rest = [] ∧ ∃ waited, result = .error (.timeout "confirm" waited) := by
  generalize waiting : Stage.watching none rounds = stage at course
  induction course generalizing rounds with
  | found seen =>
    rw [receipts_append, seen.receipts] at nothing
    cases nothing
  | missed seen acted _ ih =>
    subst waiting
    rw [receipts_append, receipts_append] at nothing
    obtain ⟨-, later⟩ := List.append_eq_nil_iff.mp nothing
    cases acted
    obtain ⟨unread, timeout⟩ := ih (List.append_eq_nil_iff.mp later).2 rfl
    rw [syncs_append, syncs_append, unread, syncs, seen.filterMap_eq_nil fun _ _ => rfl]
    exact ⟨rfl, timeout⟩
  | failed seen ends =>
    subst waiting
    cases ends
    exact ⟨seen.filterMap_eq_nil fun _ _ => rfl, _, rfl⟩

/-- Wherever a delivery stands, its next look asks for something. -/
theorem Reaches.look_ne {look : Trace} {found : Option Receipt}
    (reached : Reaches courier payload nonce past stage)
    (seen : Look (acceptedHashes payload past) look found) : look ≠ [] := by
  rintro rfl
  obtain ⟨fee, hash, member⟩ := reached.opened
  have accepted : accepted? payload ⟨.broadcast (payload.transaction nonce fee), .ok hash⟩ =
      some (hash, fee) := by simp [accepted?]
  have listed : hash ∈ acceptedHashes payload past := by
    simp only [acceptedHashes, acceptances, List.mem_map, List.mem_reverse, List.mem_filterMap]
    exact ⟨(hash, fee), ⟨_, member, accepted⟩, rfl⟩
  generalize acceptedHashes payload past = hashes at seen listed
  cases seen
  cases listed

/-- The nonce is not read twice in a row. -/
theorem not_resyncsAfter_sync {answer : Except Failure UInt64} :
    ¬ ResyncsAfter courier payload (past ++ [⟨.syncNonce, answer⟩]) := by
  intro resyncs
  generalize same : past ++ [⟨.syncNonce, answer⟩] = trace at resyncs
  cases resyncs with
  | refused => simp at same
  | reverted => simp at same
  | @dropped past look transfers nonce _ fee cleared reached seen _ ran =>
    have clears := calls_clearNonce _ _ transfers cleared ran
    have absent : ⟨.syncNonce, answer⟩ ∉ look ++ transfers := by
      intro member
      rcases List.mem_append.mp member with member | member
      · exact seen.not_mem_sync answer member
      · exact not_mem_sync_of_clears clears answer member
    -- the look is not empty, so the last exchange is one of the look or of the clearing
    have some := List.append_ne_nil_of_left_ne_nil (reached.look_ne seen) transfers
    rw [← List.dropLast_concat_getLast some, ← List.append_assoc] at same
    have last := List.append_inj_right' same rfl
    injection last with last
    exact absurd (last ▸ List.getLast_mem some) absent

/-- When a delivery reads its nonce from the chain, and when not. -/
structure Resyncs (courier : Courier) (payload : Payload) (trace : Trace)
    (result : Except Failure Receipt) : Prop where
  /-- It does so at the points that `ResyncsAfter` names, and nowhere else. -/
  exactly : ∀ before after, trace = before ++ after →
    (Resynced after ↔ ResyncsAfter courier payload before)
  once : ∀ before answer after, trace = before ++ ⟨.syncNonce, answer⟩ :: after → ¬ Resynced after
  /-- After its nonce was cleared only the last look is left, and what it leads to. -/
  closing : ∀ past nonce reason cleared after,
    Reaches courier payload nonce past (.leftover reason cleared) → trace = past ++ after →
      (∃ look receipt settlement, after = look ++ settlement ∧
        Look (acceptedHashes payload past) look (some receipt) ∧ Settlement receipt settlement ∧
        result = receipt.outcome) ∨
      Look (acceptedHashes payload past) after none ∧
        result = .error (.abandoned nonce reason cleared)
  /-- A delivery that gets no fee takes no nonce. -/
  unpriced : ∀ failure, .error failure ∈ offers trace → syncs trace = [] ∧ reservations trace = []
  /-- A delivery that waits in vain without escalation does not read its nonce. -/
  waitsOut : courier.policy.enabled = false → acceptances payload trace ≠ [] →
    receipts trace = [] → syncs trace = [] ∧ ∃ waited, result = .error (.timeout "confirm" waited)
  /-- Nor does one that succeeds before its nonce is cleared. -/
  succeeds : ∀ receipt, result = .ok receipt →
    (∀ past nonce reason cleared after,
      Reaches courier payload nonce past (.leftover reason cleared) → trace ≠ past ++ after) →
    syncs trace = []
  /-- Where the nonce is not read, none was taken, or it went out with the payload. -/
  keeps : syncs trace = [] → reservations trace = [] ∨
    ∃ fee nonce hash time rest, trace = opening payload fee nonce hash time ++ rest

/-- A submission that fails reads the nonce from the chain if its broadcast was refused. -/
theorem Submission.resyncsAfter_iff {failure : Failure}
    (failed : Submission payload none trace (.error failure)) (same : trace = before ++ after) :
    Resynced after ↔ ResyncsAfter courier payload before := by
  have early {exchange : Exchange Delivery} (member : exchange ∈ before) : exchange ∈ trace :=
    same ▸ List.mem_append_left _ member
  cases failed with
  | unpriced priced =>
    cases priced
    -- nothing was broadcast, so neither side can hold
    constructor
    · rintro ⟨answer, rest, rfl⟩
      have member : ⟨.syncNonce, answer⟩ ∈ before ++ ⟨.syncNonce, answer⟩ :: rest := by simp
      rw [← same] at member
      simp at member
    · rintro (_ | _ | reached)
      · have member := early (List.mem_append_right _ (List.mem_singleton_self _))
        simp at member
      · have member := early (List.mem_append_right _ (List.mem_singleton_self _))
        simp at member
      · obtain ⟨fee, hash, opened⟩ := reached.opened
        have member := early (List.mem_append_left _ opened)
        simp at member
  | @refused _ price priced nonce _ answer =>
    cases priced
    let taking : Trace := [⟨.offeredFee, .ok price⟩, ⟨.reserveNonce, nonce⟩]
    let trying : Exchange Delivery :=
      ⟨.broadcast (payload.transaction nonce price), .error failure⟩
    constructor
    · rintro ⟨answer', rest, rfl⟩
      change (taking ++ [trying]) ++ [⟨.syncNonce, answer⟩] = _ at same
      obtain ⟨more, rfl, last⟩ := split_of_notMem (by simp [taking, trying]) same
      obtain ⟨rfl, -⟩ | ⟨_, _, absent⟩ := List.cons_eq_append_iff.mp last
      · rw [List.append_nil]
        exact .refused rfl
      · simp at absent
    · rintro (first | _ | reached)
      · rw [List.append_assoc] at same
        change taking ++ [trying, ⟨.syncNonce, answer⟩] = _ at same
        obtain ⟨more, rfl, last⟩ := split_of_notMem (by simp [taking]) same
        obtain ⟨rfl, head⟩ | ⟨_, rfl, _⟩ := List.cons_eq_append_iff.mp last
        · exact ⟨answer, [], (List.cons.inj head).2⟩
        · cases first
      · have member := early (List.mem_append_right _ (List.mem_singleton_self _))
        simp at member
      · obtain ⟨fee, hash, opened⟩ := reached.opened
        have member := early (List.mem_append_left _ opened)
        simp at member

/-- Every delivery reads its nonce from the chain where it has to, and nowhere else. -/
theorem resyncsAfter_iff (run : Runs (courier.deliver payload.receiver payload.data) trace result)
    (same : trace = before ++ after) : Resynced after ↔ ResyncsAfter courier payload before := by
  rcases runs_deliver run with ⟨_, _, failed⟩ | ⟨fee, nonce, hash, time, rest, rfl, course⟩
  · exact failed.resyncsAfter_iff same
  · refine ⟨?_, course.resynced same⟩
    rintro ⟨answer, later, rfl⟩
    obtain ⟨more, rfl, behind⟩ := split_of_notMem (by simp [opening]) same
    exact course.resyncsAfter (.start fee hash time) behind

/-- In a course that succeeds, every receipt is one of success. -/
theorem Course.success_of_ok {receipt found : Receipt}
    (course : Course courier payload nonce stage past rest (.ok receipt))
    (same : rest = before ++ ⟨.receipt hash, .ok (some found)⟩ :: after) :
    found.success ≠ false := by
  have listed : found ∈ receipts rest := by
    rw [same, receipts_append]
    exact List.mem_append_right _ List.mem_cons_self
  have conclusion := course.conclusion
  generalize receipts rest = all at conclusion listed
  generalize ok : Except.ok receipt = outcome at conclusion
  cases conclusion with
  | mined receipt' =>
    obtain rfl := List.mem_singleton.mp listed
    intro failed
    rw [Receipt.outcome, failed] at ok
    cases ok
  | timeout | abandoned => cases ok

/-- A delivery that succeeds before its nonce is cleared never reads it. -/
theorem syncs_of_succeeds {receipt : Receipt}
    (run : Runs (courier.deliver payload.receiver payload.data) trace (.ok receipt))
    (undropped : ∀ past nonce reason cleared after,
      Reaches courier payload nonce past (.leftover reason cleared) → trace ≠ past ++ after) :
    syncs trace = [] := by
  rcases runs_deliver run with ⟨_, ⟨⟩, _⟩ | ⟨fee, nonce, hash, time, rest, rfl, course⟩
  apply List.filterMap_eq_nil_iff.mpr
  rintro ⟨call, answer⟩ member
  cases call with
  | syncNonce =>
    obtain ⟨before, after, same⟩ := List.append_of_mem member
    rw [same] at undropped
    cases (resyncsAfter_iff run same).mp ⟨answer, after, rfl⟩ with
    | refused first =>
      rw [List.append_assoc] at same
      exact absurd first (attempts_ne_of_opening same)
    | reverted failed =>
      rw [List.append_assoc] at same
      obtain ⟨more, rfl, behind⟩ := split_of_notMem (by simp [opening]) same
      exact absurd failed (course.success_of_ok behind)
    | dropped reached seen latest ran =>
      have dropped := reached.onward seen (.drop _ latest ran answer)
      refine absurd ?_ (undropped _ _ _ _ after dropped)
      simp
  | _ => rfl

theorem resyncs_of_runs (run : Runs (courier.deliver payload.receiver payload.data) trace result) :
    Resyncs courier payload trace result where
  exactly _ _ same := resyncsAfter_iff run same
  once before answer after same again := by
    rw [List.append_cons] at same
    exact not_resyncsAfter_sync ((resyncsAfter_iff run same).mp again)
  closing past nonce reason cleared after reached same := by
    rcases runs_deliver run with ⟨_, _, failed⟩ | ⟨fee, nonce', hash, time, rest, rfl, course⟩
    · obtain ⟨fee, hash, opened⟩ := reached.opened
      have member : _ ∈ trace := same ▸ List.mem_append_left _ opened
      cases failed with
      | unpriced priced => cases priced; simp at member
      | refused priced => cases priced; simp at member
    · obtain ⟨rfl, leftover⟩ := course.onward reached same
      exact leftover.closing
  unpriced failure refused := by
    refine ⟨?_, (deliver_attempts run).2.1 failure refused⟩
    rcases runs_deliver run with ⟨_, _, failed⟩ | ⟨fee, nonce, hash, time, rest, rfl, course⟩
    · cases failed with
      | unpriced priced => cases priced; rfl
      | refused priced => cases priced; simp [offers, offered?, List.filterMap_cons] at refused
    · rw [offers_append, course.offers] at refused
      simp [opening, offers, offered?, List.filterMap_cons] at refused
  waitsOut disabled accepted nothing := by
    rcases runs_deliver run with ⟨_, _, failed⟩ | ⟨fee, nonce, hash, time, rest, rfl, course⟩
    · exact absurd failed.acceptances accepted
    · rw [Stage.start, if_neg (by simp [disabled])] at course
      exact course.waitsOut nothing
  succeeds receipt ok undropped := by
    subst ok
    exact syncs_of_succeeds run undropped
  keeps unread := by
    rcases runs_deliver run with ⟨_, _, failed⟩ | ⟨fee, nonce, hash, time, rest, rfl, course⟩
    · cases failed with
      | unpriced priced => cases priced; exact .inl rfl
      | refused priced => cases priced; cases unread
    · exact .inr ⟨fee, nonce, hash, time, rest, rfl⟩

end

end VaultKeeper.Delivery
