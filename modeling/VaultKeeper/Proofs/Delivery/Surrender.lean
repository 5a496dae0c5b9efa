import VaultKeeper.Proofs.Delivery.Rounds

/-! # Giving a payload up

A payload is given up when all replacements are used up or when one of them is refused. Whether its
nonce could be cleared then is told with the reason.
-/

namespace VaultKeeper.Delivery

open Program Courier

variable {courier : Courier} {pending : Pending} {nonce : UInt64} {fee : Fee}
  {first second trace : Trace}

/-- A pending transaction after the replacements of it that were accepted along a trace. -/
def overtaken (pending : Pending) (trace : Trace) : Pending :=
  (acceptances ⟨pending.receiver, pending.data⟩ trace).foldr
    (fun accepted pending => pending.superseding accepted.1 accepted.2) pending

/-- Nothing is refused where nothing is tried. -/
theorem not_refuses_of_attempts (untried : attempts trace = []) :
    ∀ exchange ∈ trace, ¬ Refuses exchange := by
  rintro ⟨call, answer⟩ member refused
  have quiet := List.filterMap_eq_nil_iff.mp untried _ member
  cases call with
  | broadcast => cases quiet
  | _ => exact refused

/-- Why a payload is given up. Nothing but replacements of it was tried: as many as `raises` says,
all of them accepted, or fewer and then one that was refused. -/
inductive GivesUp (courier : Courier) (pending : Pending) (raises : Nat) : Trace → String → Prop
  | exhausted {watch : Trace} {fees : List Fee}
      (tried : attempts watch = fees.map pending.replacement) (count : fees.length = raises)
      (accepted : ∀ exchange ∈ watch, ¬ Refuses exchange) :
      GivesUp courier pending raises watch
        s!"not mined after {courier.policy.maxEscalations} speed-ups"
  | refused {watch : Trace} {fees : List Fee} {fee : Fee} {failure : Failure}
      (tried : attempts watch = fees.map pending.replacement) (few : fees.length < raises)
      (accepted : ∀ exchange ∈ watch, ¬ Refuses exchange) :
      GivesUp courier pending raises
        (watch ++ [⟨.broadcast (pending.replacement fee), .error failure⟩]) failure.message

/-- What is done with a payload that is given up: its nonce is cleared between two looks for a
receipt, both in vain. -/
inductive Abandons (courier : Courier) (given : Pending) : Trace → Bool → Prop
  | intro {look drop last : Trace} {cleared : Bool} (early : Look given.hashes look none)
      (dropped : Runs (dropPending courier given) drop cleared) (answer : Except Failure UInt64)
      (late : Look given.hashes last none) :
      Abandons courier given (look ++ (drop ++ ⟨.syncNonce, answer⟩ :: last)) cleared

section

variable {reason : String} {cleared : Bool} {raises left rounds : Nat} {watch : Trace}

theorem outcome_ne_abandoned (receipt : Receipt) :
    receipt.outcome ≠ .error (.abandoned nonce reason cleared) := by
  unfold Receipt.outcome
  split <;> simp

theorem not_runs_settle {found : Receipt} :
    ¬ Runs (settle found) trace (.error (.abandoned nonce reason cleared)) := by
  intro run
  obtain ⟨-, same⟩ := settlement_of_runs run
  exact outcome_ne_abandoned found same.symm

theorem abandons_of_runs {told : String}
    (run : Runs (abandon courier pending told) trace (.error (.abandoned nonce reason cleared))) :
    nonce = pending.nonce ∧ reason = told ∧ Abandons courier pending trace cleared := by
  obtain ⟨look, found, _, rfl, looked, continued⟩ := runs_bind_iff.mp run
  cases found with
  | some => exact absurd continued not_runs_settle
  | none =>
    obtain ⟨drop, freed, _, rfl, dropped, resumed⟩ := runs_bind_iff.mp continued
    obtain ⟨answer, _, rfl, finished⟩ := runs_ask_bind_iff.mp resumed
    obtain ⟨last, found, _, rfl, again, ended⟩ := runs_bind_iff.mp finished
    cases found with
    | some => exact absurd ended not_runs_settle
    | none =>
      obtain ⟨rfl, same⟩ := runs_done_iff.mp ended
      cases same
      rw [List.append_nil]
      exact ⟨rfl, rfl, .intro (look_of_runs looked) dropped answer (look_of_runs again)⟩

/-- How a payload that was watched for a while ends in being given up. -/
def GivenUp (courier : Courier) (pending : Pending) (raises : Nat) (trace : Trace)
    (reason : String) (cleared : Bool) : Prop :=
  ∃ watch rest, trace = watch ++ rest ∧ GivesUp courier pending raises watch reason ∧
    Abandons courier (overtaken pending watch) rest cleared

/-- Replacements change neither what is delivered nor its nonce. -/
theorem overtaken_kept : (overtaken pending trace).receiver = pending.receiver ∧
    (overtaken pending trace).data = pending.data ∧
    (overtaken pending trace).nonce = pending.nonce := by
  unfold overtaken
  generalize acceptances _ trace = accepted
  induction accepted with
  | nil => exact ⟨rfl, rfl, rfl⟩
  | cons _ _ ih => exact ih

theorem overtaken_append :
    overtaken pending (first ++ second) = overtaken (overtaken pending first) second := by
  obtain ⟨receiver, data, -⟩ := @overtaken_kept pending first
  change _ = (acceptances ⟨(overtaken pending first).receiver, (overtaken pending first).data⟩
    second).foldr _ (overtaken pending first)
  rw [receiver, data, overtaken, acceptances_append, List.foldr_append]
  rfl

theorem overtaken_of_attempts (quiet : attempts trace = []) :
    overtaken pending trace = pending := by
  rw [overtaken, acceptances_of_attempts quiet]
  rfl

theorem replacement_overtaken :
    (overtaken pending trace).replacement = pending.replacement := by
  obtain ⟨receiver, data, nonce⟩ := @overtaken_kept pending trace
  funext fee
  simp only [Pending.replacement, receiver, data, nonce]

/-- A payload is still given up after more replacements that were accepted. -/
theorem GivesUp.after {fees : List Fee} (earlier : attempts first = fees.map pending.replacement)
    (accepted : ∀ exchange ∈ first, ¬ Refuses exchange)
    (gives : GivesUp courier (overtaken pending first) raises watch reason) :
    GivesUp courier pending (raises + fees.length) (first ++ watch) reason := by
  have kept {watch : Trace} (later : ∀ exchange ∈ watch, ¬ Refuses exchange) :
      ∀ exchange ∈ first ++ watch, ¬ Refuses exchange :=
    List.forall_mem_append.mpr ⟨accepted, later⟩
  have tries {watch : Trace} {later : List Fee}
      (tried : attempts watch = later.map (overtaken pending first).replacement) :
      attempts (first ++ watch) = (fees ++ later).map pending.replacement := by
    rw [attempts_append, earlier, tried, replacement_overtaken, List.map_append]
  cases gives with
  | exhausted tried count later =>
    refine .exhausted (tries tried) ?_ (kept later)
    rw [List.length_append, count, Nat.add_comm]
  | refused tried few later =>
    rw [replacement_overtaken, ← List.append_assoc]
    refine .refused (tries tried) ?_ (kept later)
    rw [List.length_append, Nat.add_comm]
    exact Nat.add_lt_add_right few fees.length

theorem GivenUp.after {fees : List Fee} (earlier : attempts first = fees.map pending.replacement)
    (accepted : ∀ exchange ∈ first, ¬ Refuses exchange)
    (given : GivenUp courier (overtaken pending first) raises trace reason cleared) :
    GivenUp courier pending (raises + fees.length) (first ++ trace) reason cleared := by
  obtain ⟨watch, rest, rfl, gives, abandons⟩ := given
  rw [← overtaken_append] at abandons
  exact ⟨first ++ watch, rest, (List.append_assoc ..).symm, gives.after earlier accepted, abandons⟩

/-- A payload is still given up after exchanges without a broadcast. -/
theorem GivenUp.after_reads (quiet : attempts first = [])
    (given : GivenUp courier pending raises trace reason cleared) :
    GivenUp courier pending raises (first ++ trace) reason cleared := by
  have none : attempts first = [].map pending.replacement := quiet
  refine .after none (not_refuses_of_attempts quiet) ?_
  rw [overtaken_of_attempts quiet]
  exact given

theorem attempts_of_polls {interval : Nat} {found : Option Receipt}
    (run : Runs (pollUntil (sleep interval) (pollOnce pending) rounds) trace found) :
    attempts trace = [] :=
  attempts_of_reads (calls_polls interval pending rounds trace found run)

theorem givenUp_of_escalate
    (run : Runs (escalate courier left rounds pending) trace
      (.error (.abandoned nonce reason cleared))) :
    nonce = pending.nonce ∧ GivenUp courier pending left trace reason cleared := by
  induction left generalizing trace rounds pending with
  | zero =>
    unfold escalate at run
    obtain ⟨polls, found, rest, rfl, polled, continued⟩ := runs_bind_iff.mp run
    have quiet := attempts_of_polls polled
    cases found with
    | some => exact absurd continued not_runs_settle
    | none =>
      obtain ⟨rfl, rfl, abandons⟩ := abandons_of_runs continued
      have untried : attempts [] = [].map pending.replacement := rfl
      have gives : GivesUp courier pending 0 [] _ :=
        .exhausted untried rfl (not_refuses_of_attempts untried)
      exact ⟨rfl, .after_reads quiet ⟨[], rest, rfl, gives, abandons⟩⟩
  | succ left ih =>
    unfold escalate at run
    obtain ⟨polls, found, rest, rfl, polled, continued⟩ := runs_bind_iff.mp run
    have quiet := attempts_of_polls polled
    cases found with
    | some => exact absurd continued not_runs_settle
    | none =>
      obtain ⟨_, answer, later, rfl, raised, resumed⟩ := runs_bind_iff.mp continued
      obtain ⟨network, ⟨hash, rfl, rfl⟩ | ⟨failure, rfl, rfl⟩⟩ := runs_speedUp raised
      · obtain ⟨_, final, rfl, escalated⟩ := runs_ask_bind_iff.mp resumed
        obtain ⟨same, given⟩ := ih escalated
        let fee := raisedFee courier.policy pending.fee network
        let speeding : Trace := [⟨.networkPrice, network⟩,
          ⟨.broadcast (pending.replacement fee), .ok hash⟩,
          ⟨.sleep courier.policy.pollInterval, ()⟩]
        have faster : overtaken pending speeding = pending.superseding hash fee := by
          simp [overtaken, acceptances, List.filterMap_cons, accepted?, Payload.IsIn,
            Pending.replacement, speeding]
        have tried : attempts speeding = [fee].map pending.replacement := rfl
        have accepted : ∀ exchange ∈ speeding, ¬ Refuses exchange := by simp [Refuses, speeding]
        exact ⟨same, .after_reads quiet (.after tried accepted (faster ▸ given))⟩
      · obtain ⟨rfl, rfl, abandons⟩ := abandons_of_runs resumed
        let asked : Trace := [⟨.networkPrice, network⟩]
        let fee := raisedFee courier.policy pending.fee network
        let tried : Exchange Delivery := ⟨.broadcast (pending.replacement fee), .error failure⟩
        have untried : attempts asked = [].map pending.replacement := rfl
        have gives : GivesUp courier pending (left + 1) (asked ++ [tried]) failure.message :=
          .refused untried (Nat.succ_pos left) (not_refuses_of_attempts untried)
        exact ⟨rfl, .after_reads quiet ⟨asked ++ [tried], later, rfl, gives, abandons⟩⟩

theorem givenUp_of_confirm
    (run : Runs (confirm courier pending) trace (.error (.abandoned nonce reason cleared))) :
    nonce = pending.nonce ∧
      GivenUp courier pending courier.policy.maxEscalations.toNat trace reason cleared := by
  unfold confirm at run
  split at run
  · exact givenUp_of_escalate run
  · obtain ⟨_, found, _, rfl, _, continued⟩ := runs_bind_iff.mp run
    cases found with
    | some => exact absurd continued not_runs_settle
    | none =>
      obtain ⟨-, same⟩ := runs_done_iff.mp continued
      cases same

end

/-- Clearing a nonce comes to an end in all surroundings, and every run of it is made of sweeps that
stop at the first answer that frees the nonce; it tells whether there was one. A delivery that is
given up tells the same of its nonce, and whether it had used up all replacements or was refused
one. -/
theorem dropPending_clears (courier : Courier) (pending : Pending) :
    (∀ surroundings : Surroundings Delivery, ∃ trace cleared,
      Runs (dropPending courier pending) trace cleared ∧ AnsweredBy surroundings [] trace) ∧
    (∀ trace cleared, Runs (dropPending courier pending) trace cleared →
      ∃ sweeps, Sweeps courier pending sweeps trace cleared) ∧
    ∀ trace nonce reason cleared,
      Runs (confirm courier pending) trace (.error (.abandoned nonce reason cleared)) →
      nonce = pending.nonce ∧
        GivenUp courier pending courier.policy.maxEscalations.toNat trace reason cleared :=
  ⟨fun surroundings => exists_answered_run surroundings [] _,
    fun _ _ run => sweeps_of_dropPending run, fun _ _ _ _ run => givenUp_of_confirm run⟩

/-- What a node says to a replacement that does not pay more. -/
def underpriced : Failure := .fatal (.told "replacement transaction underpriced")

/-- One sweep clears the nonce of `stuckParcel`: no transaction is waiting after it. -/
def sweptParcel : Trace :=
  [⟨.networkPrice, .error (.transient .unreachable)⟩,
    ⟨.broadcast (emptyTransfer hasty.account 4 (nextBid firstBid)), .ok 12⟩,
    ⟨.nonceCounts, .ok ⟨4, 4⟩⟩]

/-- `stuckParcel` is given up when its replacement is refused. -/
def surrenderedParcel : Trace :=
  [⟨.receipt 11, .ok none⟩, ⟨.networkPrice, .error (.transient .unreachable)⟩,
    ⟨.broadcast (parcel.transaction 4 (nextBid firstBid)), .error underpriced⟩,
    ⟨.receipt 11, .ok none⟩] ++ (sweptParcel ++ [⟨.syncNonce, .ok 4⟩, ⟨.receipt 11, .ok none⟩])

theorem dropPending_clears_refused :
    Runs (dropPending hasty stuckParcel) sweptParcel true ∧
    Runs (confirm hasty stuckParcel) surrenderedParcel
      (.error (.abandoned 4 underpriced.message true)) ∧
    (∃ sweeps, Sweeps hasty stuckParcel sweeps sweptParcel true) ∧
    GivenUp hasty stuckParcel 1 surrenderedParcel underpriced.message true := by
  have swept : Runs (dropPending hasty stuckParcel) sweptParcel true :=
    .call (.call (.call (.done true)))
  have surrendered : Runs (confirm hasty stuckParcel) surrenderedParcel
      (.error (.abandoned 4 underpriced.message true)) := by
    change Runs (escalate hasty 1 1 stuckParcel) _ _
    unfold escalate
    exact .call (.call (.call (.call (.call (.call (.call (.call (.call (.done _)))))))))
  obtain ⟨-, clears, gives⟩ := dropPending_clears hasty stuckParcel
  exact ⟨swept, surrendered, clears _ _ swept, (gives _ _ _ _ surrendered).2⟩

end VaultKeeper.Delivery
