import VaultKeeper.Proofs.Delivery.Broadcasts
import VaultKeeper.Proofs.Fee

/-! # How fees grow during a delivery

Every attempt but the first is raised from an earlier one: a payload and the first transfer from the
payload that was accepted last, any other transfer from the transfer before it, accepted or not. The
new fee outbids that one, so a node has no reason to prefer what it already holds. The refused
speed-up before a payload is given up leaves no mark on the fees after it.
-/

namespace VaultKeeper.Delivery

open Program Courier

variable {courier : Courier} {payload : Payload} {nonce : UInt64} {past first second trace : Trace}
  {floor top fee : Fee}

/-- The attempts at anything but a payload, accepted or not, oldest first. -/
def transfers (payload : Payload) (trace : Trace) : List Transaction :=
  (attempts trace).filter fun transaction => ¬ payload.IsIn transaction

/-- The fee of the transfer that was tried last. -/
def latestTransferFee (payload : Payload) (trace : Trace) : Option Fee :=
  (transfers payload trace).getLast?.map Transaction.fee

/-- The fee that an attempt is raised from, given the exchanges before it. -/
def raisedFrom (payload : Payload) (past : Trace) (transaction : Transaction) : Option Fee :=
  if payload.IsIn transaction then latestFee payload past
  else (latestTransferFee payload past).or (latestFee payload past)

/-- The fee with which an exchange gets anything accepted. -/
def acceptedFee? : Exchange Delivery → Option Fee
  | ⟨.broadcast transaction, .ok _⟩ => some transaction.fee
  | _ => none

/-- The fees of all that was accepted, oldest first. -/
def acceptedFees (trace : Trace) : List Fee :=
  trace.filterMap acceptedFee?

@[simp] theorem transfers_append :
    transfers payload (first ++ second) = transfers payload first ++ transfers payload second := by
  simp [transfers]

@[simp] theorem acceptedFees_append :
    acceptedFees (first ++ second) = acceptedFees first ++ acceptedFees second :=
  List.filterMap_append

theorem transfers_of_attempts (quiet : attempts trace = []) : transfers payload trace = [] := by
  rw [transfers, quiet]
  rfl

theorem acceptedFees_of_attempts (quiet : attempts trace = []) : acceptedFees trace = [] := by
  refine filterMap_of_attempts ?_ quiet
  rintro ⟨call, answer⟩ untried
  cases call with
  | broadcast => cases untried
  | _ => rfl

theorem latestFee_append (quiet : acceptances payload second = []) :
    latestFee payload (first ++ second) = latestFee payload first := by
  rw [latestFee, acceptances_append, quiet, List.nil_append, latestFee]

theorem latestTransferFee_append (quiet : transfers payload second = []) :
    latestTransferFee payload (first ++ second) = latestTransferFee payload first := by
  rw [latestTransferFee, transfers_append, quiet, List.append_nil, latestTransferFee]

theorem raisedFrom_payload (nonce : UInt64) (bid : Fee)
    (latest : latestFee payload past = some fee) :
    raisedFrom payload past (payload.transaction nonce bid) = some fee := by
  rw [raisedFrom, if_pos (payload.isIn_transaction nonce bid), latest]

theorem raisedFrom_emptyTransfer (account : Address) (nonce : UInt64) (bid : Fee)
    (latest : (latestTransferFee payload past).or (latestFee payload past) = some fee) :
    raisedFrom payload past (emptyTransfer account nonce bid) = some fee := by
  rw [raisedFrom, if_neg (payload.not_isIn_emptyTransfer account nonce bid), latest]

theorem latestFee_of_acceptances (past : Trace) {hash : Hash}
    (accepted : acceptances payload second = [(hash, fee)]) :
    latestFee payload (past ++ second) = some fee := by
  rw [latestFee, acceptances_append, accepted]
  rfl

theorem latestTransferFee_of_transfers {transaction : Transaction}
    (tried : transfers payload second = [transaction]) :
    latestTransferFee payload (first ++ second) = some transaction.fee := by
  rw [latestTransferFee, transfers_append, tried, List.getLast?_concat, Option.map_some]

/-- With the exchanges of `past` behind them, the attempts of a trace each outbid the fee that they
are raised from. What is accepted offers at least `floor`, and at least as much as all that was
accepted before it. -/
structure Climbs (payload : Payload) (past : Trace) (floor : Fee) (trace : Trace) : Prop where
  outbid : ∀ before transaction answer after,
    trace = before ++ ⟨.broadcast transaction, answer⟩ :: after →
    ∃ last, raisedFrom payload (past ++ before) transaction = some last ∧
      transaction.fee.Outbids last
  rising : (acceptedFees trace).Pairwise fun earlier later => later.AtLeast earlier
  floor : ∀ fee ∈ acceptedFees trace, fee.AtLeast floor

namespace Climbs

theorem of_attempts (quiet : attempts trace = []) : Climbs payload past floor trace where
  outbid := by
    rintro before transaction answer after rfl
    simp [attempts, List.filterMap_append, attempted?] at quiet
  rising := by
    rw [acceptedFees_of_attempts quiet]
    exact .nil
  floor := by simp [acceptedFees_of_attempts quiet]

theorem of_attempt {transaction : Transaction} {answer : Except Failure Hash} {last : Fee}
    (raised : raisedFrom payload past transaction = some last)
    (outbids : transaction.fee.Outbids last) (above : transaction.fee.AtLeast floor) :
    Climbs payload past floor [⟨.broadcast transaction, answer⟩] where
  outbid := by
    intro before other reply after same
    cases before with
    | nil =>
      cases same
      exact ⟨last, by simpa using raised, outbids⟩
    | cons exchange before => simp at same
  rising := by cases answer <;> simp [acceptedFees, acceptedFee?, List.filterMap_cons]
  floor := by cases answer <;> simp [acceptedFees, acceptedFee?, List.filterMap_cons, above]

/-- One climb after another, where nothing accepted later lies below what was accepted before. -/
theorem join (lower : Climbs payload past floor first)
    (upper : Climbs payload (past ++ first) top second)
    (above : ∀ later ∈ acceptedFees second, later.AtLeast floor)
    (ordered : ∀ earlier ∈ acceptedFees first, ∀ later ∈ acceptedFees second,
      later.AtLeast earlier) :
    Climbs payload past floor (first ++ second) where
  outbid := by
    intro before transaction answer after same
    rcases List.append_eq_append_iff.mp same with ⟨middle, rfl, later⟩ | ⟨middle, rfl, later⟩
    · obtain ⟨last, raised, outbids⟩ := upper.outbid middle transaction answer after later
      exact ⟨last, by rwa [← List.append_assoc], outbids⟩
    · cases middle with
      | nil =>
        obtain ⟨last, raised, outbids⟩ := upper.outbid [] transaction answer after later.symm
        exact ⟨last, by simpa using raised, outbids⟩
      | cons exchange middle =>
        obtain ⟨rfl, rfl⟩ := List.cons.inj later
        exact lower.outbid before transaction answer middle rfl
  rising := by
    rw [acceptedFees_append]
    exact List.pairwise_append.mpr ⟨lower.rising, upper.rising, ordered⟩
  floor := by
    intro fee member
    rcases List.mem_append.mp (acceptedFees_append ▸ member) with member | member
    · exact lower.floor fee member
    · exact above fee member

/-- The second climb starts from a fee that nothing accepted in the first lies above. -/
theorem append (lower : Climbs payload past floor first)
    (upper : Climbs payload (past ++ first) top second) (above : top.AtLeast floor)
    (reached : ∀ fee ∈ acceptedFees first, top.AtLeast fee) :
    Climbs payload past floor (first ++ second) := by
  refine lower.join upper (fun later member => (upper.floor later member).trans above) ?_
  intro earlier before later after
  exact (upper.floor later after).trans (reached earlier before)

theorem before (climbs : Climbs payload past floor first) (quiet : attempts second = []) :
    Climbs payload past floor (first ++ second) := by
  have nothing := acceptedFees_of_attempts quiet
  have rest : Climbs payload (past ++ first) floor second := of_attempts quiet
  exact climbs.join rest (by simp [nothing]) (by simp [nothing])

theorem behind (quiet : attempts first = [])
    (climbs : Climbs payload (past ++ first) floor second) :
    Climbs payload past floor (first ++ second) :=
  (of_attempts quiet).append climbs (.refl floor) (by simp [acceptedFees_of_attempts quiet])

end Climbs

theorem raisedFee_outbids (policy : EscalationPolicy) (fits : fee.TipFits)
    (network : Except Failure Wei) : (raisedFee policy fee network).Outbids fee := by
  cases network with
  | ok price => exact Fee.escalate_outbids fits price policy.multiplier
  | error failure => exact Fee.escalate_outbids fits fee.effective policy.multiplier

/-- One raise and the attempt made with it. -/
theorem climbs_of_raise {transaction : Transaction} (network : Except Failure Wei)
    (answer : Except Failure Hash) (raised : raisedFrom payload past transaction = some fee)
    (outbids : transaction.fee.Outbids fee) :
    Climbs payload past fee [⟨.networkPrice, network⟩, ⟨.broadcast transaction, answer⟩] ∧
      ∀ accepted ∈ acceptedFees [⟨.networkPrice, network⟩, ⟨.broadcast transaction, answer⟩],
        transaction.fee.AtLeast accepted := by
  have asked : raisedFrom payload (past ++ [⟨.networkPrice, network⟩]) transaction = some fee := by
    rw [raisedFrom, latestTransferFee_append rfl, latestFee_append rfl]
    exact raised
  have attempt : Climbs payload past fee
      ([⟨.networkPrice, network⟩] ++ [⟨.broadcast transaction, answer⟩]) :=
    .behind rfl (.of_attempt asked outbids outbids.atLeast)
  refine ⟨attempt, ?_⟩
  cases answer <;> simp [acceptedFees, List.filterMap_cons, acceptedFee?, Fee.AtLeast.refl]

/-- The transfers that clear a nonce climb from the fee that the first of them is raised from. -/
theorem climbs_of_clearNonce {attempts : Nat} {cleared : Bool}
    (run : Runs (clearNonce courier nonce attempts fee) trace cleared) (fits : fee.TipFits)
    (latest : (latestTransferFee payload past).or (latestFee payload past) = some fee) :
    Climbs payload past fee trace := by
  induction attempts generalizing past trace fee with
  | zero =>
    obtain ⟨rfl, rfl⟩ := runs_done_iff.mp run
    exact .of_attempts rfl
  | succ attempts ih =>
    obtain ⟨_, raised, _, rfl, asking, continued⟩ := runs_bind_iff.mp run
    obtain ⟨network, asked, rfl⟩ := runs_bind_done_iff.mp asking
    obtain rfl := runs_ask_iff.mp asked
    obtain ⟨answer, _, rfl, tried⟩ := runs_ask_bind_iff.mp continued
    obtain ⟨checks, found, rest, rfl, checked, resumed⟩ := runs_bind_iff.mp tried
    have outbids := raisedFee_outbids courier.policy fits network
    generalize raisedFee courier.policy fee network = raised at outbids tried resumed ⊢
    obtain ⟨attempt, reached⟩ := climbs_of_raise network answer
      (raisedFrom_emptyTransfer courier.account nonce raised latest) outbids
    have quiet := attempts_of_checks checked
    refine attempt.append (.behind quiet ?_) outbids.atLeast reached
    cases found with
    | some =>
      obtain ⟨rfl, rfl⟩ := runs_done_iff.mp resumed
      exact .of_attempts rfl
    | none =>
      refine ih resumed outbids.tipFits ?_
      -- the transfer just tried is the latest, whether it was accepted or not
      have tried : transfers payload [⟨.networkPrice, network⟩,
          ⟨.broadcast (emptyTransfer courier.account nonce raised), answer⟩] =
          [emptyTransfer courier.account nonce raised] := by
        simp [transfers, Delivery.attempts, List.filterMap_cons, attempted?]
      rw [latestTransferFee_append (transfers_of_attempts quiet),
        latestTransferFee_of_transfers tried]
      rfl

/-- What is done between two looks takes the fee of the payload from `fee` to `top`, in attempts at
the payload only. -/
structure Lifts (payload : Payload) (past : Trace) (fee : Fee) (acts : Trace) (top : Fee) :
    Prop where
  climbs : Climbs payload past fee acts
  above : top.AtLeast fee
  reached : ∀ accepted ∈ acceptedFees acts, top.AtLeast accepted
  latest : latestFee payload (past ++ acts) = some top
  fits : top.TipFits
  payloads : transfers payload acts = []

theorem Lifts.of_attempts {acts : Trace} (latest : latestFee payload past = some fee)
    (fits : fee.TipFits) (quiet : attempts acts = []) : Lifts payload past fee acts fee where
  climbs := .of_attempts quiet
  above := .refl fee
  reached := by simp [acceptedFees_of_attempts quiet]
  latest := (latestFee_append (acceptances_of_attempts quiet)).trans latest
  fits := fits
  payloads := transfers_of_attempts quiet

/-- Until a payload is given up its fee is only lifted; giving it up climbs once more. -/
theorem Between.climbs {stage next : Stage} {acts : Trace}
    (acted : Between courier payload nonce past stage acts next)
    (latest : latestFee payload past = some fee) (fits : fee.TipFits)
    (early : transfers payload past = []) :
    (∃ top, Lifts payload past fee acts top) ∨
      Climbs payload past fee acts ∧ ∃ reason cleared, next = .leftover reason cleared := by
  cases acted with
  | wait | exhausted => exact .inl ⟨fee, .of_attempts latest fits rfl⟩
  | @faster left bid same network hash =>
    obtain rfl : bid = fee := Option.some.inj (same.symm.trans latest)
    have outbids := raisedFee_outbids courier.policy fits network
    generalize raisedFee courier.policy bid network = raised at outbids ⊢
    obtain ⟨attempt, reached⟩ := climbs_of_raise network (.ok hash)
      (raisedFrom_payload nonce raised latest) outbids
    have pause : Delivery.attempts [⟨.sleep courier.policy.pollInterval, ()⟩] = [] := rfl
    refine .inl ⟨raised, attempt.before pause, outbids.atLeast, reached, ?_, outbids.tipFits, ?_⟩
    · apply latestFee_of_acceptances
      simp [acceptances, List.filterMap_cons, accepted?]
      rfl
    · simp [transfers, Delivery.attempts, List.filterMap_cons, attempted?]
  | @refused left bid same network failure =>
    obtain rfl : bid = fee := Option.some.inj (same.symm.trans latest)
    have outbids := raisedFee_outbids courier.policy fits network
    generalize raisedFee courier.policy bid network = raised at outbids ⊢
    obtain ⟨attempt, -⟩ := climbs_of_raise network (.error failure)
      (raisedFrom_payload nonce raised latest) outbids
    refine .inl ⟨bid, attempt, .refl bid, ?_, ?_, fits, ?_⟩
    · intro _ accepted
      cases accepted
    · exact (latestFee_append rfl).trans latest
    · simp [transfers, Delivery.attempts, List.filterMap_cons, attempted?]
  | @drop reason bid same clearing cleared dropped answer =>
    obtain rfl : bid = fee := Option.some.inj (same.symm.trans latest)
    have base : (latestTransferFee payload past).or (latestFee payload past) = some bid := by
      rw [latestTransferFee, early, latest]
      rfl
    exact .inr ⟨(climbs_of_clearNonce dropped fits base).before rfl, reason, cleared, rfl⟩

/-- Along a course without transfers so far, the attempts climb from the fee of the payload. -/
theorem Course.climbs {stage : Stage} {result : Except Failure Receipt} {rest : Trace}
    (course : Course courier payload nonce stage past rest result)
    (latest : latestFee payload past = some fee) (fits : fee.TipFits)
    (early : transfers payload past = []) : Climbs payload past fee rest := by
  induction course generalizing fee with
  | found seen settled =>
    apply Climbs.of_attempts
    rw [attempts_append, seen.attempts, settled.attempts]
    rfl
  | failed seen _ => exact .of_attempts seen.attempts
  | @missed stage next past look acts rest result seen acted later ih =>
    have looked : latestFee payload (past ++ look) = some fee :=
      (latestFee_append (seen.acceptances payload)).trans latest
    have early : transfers payload (past ++ look) = [] := by
      rw [transfers_append, early, transfers_of_attempts seen.attempts]
      rfl
    rw [← List.append_assoc] at ih
    refine .behind seen.attempts ?_
    rcases acted.climbs looked fits early with ⟨top, lifts⟩ | ⟨climbs, reason, cleared, rfl⟩
    · have onward : Climbs payload (past ++ look ++ acts) top rest := by
        refine ih lifts.latest lifts.fits ?_
        rw [transfers_append, early, lifts.payloads]
        rfl
      exact lifts.climbs.append onward lifts.above lifts.reached
    · -- once the nonce is cleared or not, nothing more is tried
      obtain ⟨_, _, ⟨rfl, rfl⟩, quiet⟩ := later.attempts
      exact climbs.before quiet

theorem attempts_of_split {transaction : Transaction} {before after : Trace}
    {answer : Except Failure Hash}
    (same : trace = before ++ ⟨.broadcast transaction, answer⟩ :: after) :
    attempts trace = attempts before ++ transaction :: attempts after := by
  rw [same, attempts_append]
  rfl

/-- Where a single attempt is made, no other one comes before it. -/
theorem attempts_before {transaction other : Transaction} {before after : Trace}
    {answer : Except Failure Hash} (single : attempts trace = [transaction])
    (same : trace = before ++ ⟨.broadcast other, answer⟩ :: after) :
    attempts before = [] ∧ other = transaction := by
  have split := (attempts_of_split same).symm.trans single
  cases tried : attempts before with
  | nil =>
    rw [tried] at split
    exact ⟨rfl, (List.cons.inj split).1⟩
  | cons head tail =>
    rw [tried] at split
    simp at split

/-- The fee that `parcel` is first sent with where there are base fees. -/
def dynamicBid : Fee := .dynamic 3 2 1

/-- `parcel` is given up when its speed-up is refused. The transfer that clears its nonce is raised
from the first bid, the only one that was accepted. -/
def refusedDelivery : Trace :=
  opening parcel dynamicBid 4 11 100 ++
    [⟨.receipt 11, .ok none⟩, ⟨.networkPrice, .error (.transient .unreachable)⟩,
      ⟨.broadcast (parcel.transaction 4 (nextBid dynamicBid)), .error (.transient .unreachable)⟩,
      ⟨.receipt 11, .ok none⟩, ⟨.networkPrice, .error (.transient .unreachable)⟩,
      ⟨.broadcast (emptyTransfer hasty.account 4 (nextBid dynamicBid)), .ok 12⟩,
      ⟨.nonceCounts, .ok ⟨5, 5⟩⟩, ⟨.syncNonce, .ok 5⟩, ⟨.receipt 11, .ok none⟩]

theorem runs_refusedDelivery :
    Runs (hasty.deliver parcel.receiver parcel.data) refusedDelivery
      (.error (.abandoned 4 "transient RPC failure: connection failed" true)) := by
  refine runs_of_opening ?_
  change Runs (hasty.escalate 1 1 _) _ _
  unfold escalate
  exact .call (.call (.call (.call (.call (.call (.call (.call (.call (.done _)))))))))

end VaultKeeper.Delivery
