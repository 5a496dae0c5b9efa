import VaultKeeper.Proofs.Delivery.Broadcasts
import VaultKeeper.Proofs.Delivery.Clearing
import VaultKeeper.Proofs.Delivery.Watch
import VaultKeeper.Proofs.Program.Basic

/-! # How long a delivery can take

Each turn of a vigil takes one unit from its reserve, and each replacement one raise, so both run
out. What is left to do afterwards is bounded by the policy as well: two looks at most, and between
them so many transfers with so many checks of the nonce. A vigil that finds nothing and is refused
nothing uses up all that it is allowed.
-/

namespace VaultKeeper.Delivery

open Program Courier

variable {courier : Courier} {pending : Pending} {vigil : Vigil} {nonce : UInt64}
  {past trace rest : Trace} {result : Except Failure Receipt}

theorem Settlement.nonceAnswers {receipt : Receipt} (settled : Settlement receipt trace) :
    nonceAnswers trace = [] := by
  cases settled <;> rfl

/-- A trace that looks for a receipt so many times, each time with the hashes of that round, and
that asks for no receipt otherwise. -/
inductive Looks : (rounds : List (List Hash)) → Trace → Prop
  | none {trace : Trace} (unasked : queries trace = []) : Looks [] trace
  | look {hashes : List Hash} {first rest : Trace} {found : Option Receipt}
      {rounds : List (List Hash)} (seen : Look hashes first found) (later : Looks rounds rest) :
      Looks (hashes :: rounds) (first ++ rest)
  | aside {first rest : Trace} {rounds : List (List Hash)} (unasked : queries first = [])
      (later : Looks rounds rest) : Looks rounds (first ++ rest)

theorem Looks.append {early late : List (List Hash)} {first second : Trace}
    (looks : Looks early first) (later : Looks late second) :
    Looks (early ++ late) (first ++ second) := by
  induction looks with
  | none unasked => exact .aside unasked later
  | look seen _ ih =>
    rw [List.append_assoc]
    exact .look seen ih
  | aside unasked _ ih =>
    rw [List.append_assoc]
    exact .aside unasked ih

/-! ## One turn -/

/-- All that a vigil can do in one turn. -/
inductive Turn (courier : Courier) (vigil : Vigil) : Trace → Vigil ⊕ Exit → Prop
  | found {look settlement : Trace} {receipt : Receipt}
      (seen : Look vigil.pending.hashes look (some receipt))
      (settled : Settlement receipt settlement) :
      Turn courier vigil (vigil.pause ++ (look ++ settlement)) (.inr (.outcome receipt.outcome))
  | waits {look : Trace} {left : Nat} (seen : Look vigil.pending.hashes look none)
      (slack : vigil.slack courier.policy = left + 1) :
      Turn courier vigil (vigil.pause ++ look) (.inl vigil.missed)
  | exhausted {look : Trace} (seen : Look vigil.pending.hashes look none)
      (enabled : courier.policy.enabled = true) (spent : vigil.slack courier.policy = 0)
      (limit : courier.policy.maxEscalations ≤ vigil.raised) :
      Turn courier vigil (vigil.pause ++ look)
        (.inr (.surrender vigil.missed.pending s!"not mined after {vigil.raised} speed-ups"))
  | faster {look : Trace} (seen : Look vigil.pending.hashes look none)
      (enabled : courier.policy.enabled = true) (spent : vigil.slack courier.policy = 0)
      (allowed : ¬ courier.policy.maxEscalations ≤ vigil.raised)
      (network : Except Failure Wei) (fee : Fee) (hash : Hash) :
      Turn courier vigil
        (vigil.pause ++ (look ++
          [⟨.networkPrice, network⟩, ⟨.broadcast (vigil.pending.replacement fee), .ok hash⟩]))
        (.inl (vigil.faster hash fee))
  | refused {look : Trace} (seen : Look vigil.pending.hashes look none)
      (enabled : courier.policy.enabled = true) (spent : vigil.slack courier.policy = 0)
      (allowed : ¬ courier.policy.maxEscalations ≤ vigil.raised)
      (network : Except Failure Wei) (fee : Fee) (failure : Failure) :
      Turn courier vigil
        (vigil.pause ++ (look ++ [⟨.networkPrice, network⟩,
          ⟨.broadcast (vigil.pending.replacement fee), .error failure⟩]))
        (.inr (.surrender vigil.missed.pending failure.message))
  | timeout {look : Trace} (seen : Look vigil.pending.hashes look none)
      (disabled : courier.policy.enabled = false) (spent : vigil.slack courier.policy = 0) :
      Turn courier vigil (vigil.pause ++ look)
        (.inr (.outcome (.error (.timeout "confirm"
          (courier.policy.pollInterval * max 1 courier.policy.maxWait.toNat)))))

theorem turn_of_runs {verdict : Vigil ⊕ Exit} (steady : vigil.Steady courier.policy)
    (run : Runs (turn courier vigil) trace verdict) : Turn courier vigil trace verdict := by
  have unlimited : vigil.poller.policy.maxAttempts = none := by rw [steady.polling]
  obtain ⟨_, rfl, checked⟩ := (runs_turn_iff unlimited).mp run
  obtain ⟨look, found, acts, rfl, looked, continued⟩ := runs_bind_iff.mp checked
  have seen : Look vigil.pending.hashes look found := look_of_runs looked
  cases found with
  | some receipt =>
    obtain ⟨result, settled, rfl⟩ := runs_bind_done_iff.mp continued
    obtain ⟨settlement, rfl⟩ := settlement_of_runs settled
    exact .found seen settlement
  | none =>
    have continued : Runs (persist courier (vigil.poller.attempts + 1) vigil.missed) acts verdict :=
      continued
    cases slack : vigil.slack courier.policy with
    | succ left =>
      rw [steady.persist_of_slack slack] at continued
      obtain ⟨rfl, rfl⟩ := runs_done_iff.mp continued
      rw [List.append_nil]
      exact .waits seen slack
    | zero =>
      cases enabled : courier.policy.enabled with
      | false =>
        rw [steady.persist_of_timeout enabled slack] at continued
        obtain ⟨rfl, rfl⟩ := runs_done_iff.mp continued
        rw [List.append_nil]
        exact .timeout seen enabled slack
      | true =>
        rw [steady.persist_of_spent enabled slack] at continued
        split at continued
        · next limit =>
          obtain ⟨rfl, rfl⟩ := runs_done_iff.mp continued
          rw [List.append_nil]
          exact .exhausted seen enabled slack limit
        · next allowed =>
          obtain ⟨acts, answer, _, rfl, sped, ended⟩ := runs_bind_iff.mp continued
          obtain ⟨network, ⟨hash, rfl, rfl⟩ | ⟨failure, rfl, rfl⟩⟩ := runs_speedUp sped
          · obtain ⟨rfl, rfl⟩ := runs_done_iff.mp ended
            exact .faster seen enabled slack allowed network _ hash
          · obtain ⟨rfl, rfl⟩ := runs_done_iff.mp ended
            exact .refused seen enabled slack allowed network _ failure

/-- How often a policy allows the fee to be raised. -/
def raiseLimit (policy : EscalationPolicy) : Nat :=
  if policy.enabled then policy.maxEscalations.toNat else 0

/-- The exchanges in which a broadcast is refused. -/
def Refuses : Exchange Delivery → Prop
  | ⟨.broadcast _, .error _⟩ => True
  | _ => False

theorem Vigil.filterMap_pause {β : Type} (read : Exchange Delivery → Option β)
    (ignores : ∀ span, read ⟨.sleep span, ()⟩ = none) : vigil.pause.filterMap read = [] := by
  unfold Vigil.pause
  split
  · rfl
  · exact List.filterMap_cons_none (ignores _)

@[simp] theorem Vigil.attempts_pause : attempts vigil.pause = [] :=
  Vigil.filterMap_pause _ fun _ => rfl

@[simp] theorem Vigil.nonceAnswers_pause : nonceAnswers vigil.pause = [] :=
  Vigil.filterMap_pause _ fun _ => rfl

@[simp] theorem Vigil.queries_pause : queries vigil.pause = [] :=
  Vigil.filterMap_pause _ fun _ => rfl

theorem Vigil.Steady.raised_le {policy : EscalationPolicy} (steady : vigil.Steady policy) :
    vigil.raised.toNat ≤ raiseLimit policy := by
  unfold raiseLimit
  split
  · next enabled => exact steady.raised enabled
  · next disabled =>
    rw [steady.idle (by simpa using disabled)]
    exact Nat.le_refl 0

/-- Nothing is in reserve once the slack and all raises are used up. -/
theorem Vigil.reserve_eq_zero {policy : EscalationPolicy} (spent : vigil.slack policy = 0)
    (limit : raiseLimit policy ≤ vigil.raised.toNat) : vigil.reserve policy = 0 := by
  unfold raiseLimit at limit
  rw [Vigil.reserve, spent, Vigil.credit]
  split
  · next enabled =>
    rw [if_pos enabled] at limit
    rw [Nat.sub_eq_zero_of_le limit, Nat.zero_mul]
  · rfl

namespace Turn

variable {verdict : Vigil ⊕ Exit}

/-- A turn tries one replacement at most, and that is counted as a raise. -/
theorem attempts (turned : Turn courier vigil trace verdict)
    (steady : vigil.Steady courier.policy) :
    ∃ fees : List Fee, attempts trace = fees.map vigil.pending.replacement ∧
      (∀ next, verdict = .inl next → next.raised.toNat = vigil.raised.toNat + fees.length) ∧
      vigil.raised.toNat + fees.length ≤ raiseLimit courier.policy := by
  have within := steady.raised_le
  have below (enabled : courier.policy.enabled = true)
      (allowed : ¬ courier.policy.maxEscalations ≤ vigil.raised) :
      vigil.raised.toNat + 1 ≤ raiseLimit courier.policy := by
    have allowed := UInt32.lt_iff_toNat_lt.mp (UInt32.not_le.mp allowed)
    rw [raiseLimit, if_pos enabled]
    exact allowed
  cases turned with
  | found seen settled => exact ⟨[], by simp [seen.attempts, settled.attempts], nofun, within⟩
  | exhausted seen | timeout seen => exact ⟨[], by simp [seen.attempts], nofun, within⟩
  | waits seen =>
    refine ⟨[], by simp [seen.attempts], ?_, within⟩
    rintro _ ⟨⟩
    rfl
  | faster seen enabled spent allowed network fee hash =>
    obtain ⟨-, -, raised, -⟩ := @Vigil.Steady.faster _ _ hash fee steady enabled spent allowed
    refine ⟨[fee], ?_, ?_, below enabled allowed⟩
    · rw [attempts_append, attempts_append, vigil.attempts_pause, seen.attempts]
      rfl
    · rintro _ ⟨⟩
      exact raised
  | refused seen enabled spent allowed network fee failure =>
    refine ⟨[fee], ?_, nofun, below enabled allowed⟩
    rw [attempts_append, attempts_append, vigil.attempts_pause, seen.attempts]
    rfl

/-- A turn looks for a receipt once, of every hash of its transaction. -/
theorem looks (turned : Turn courier vigil trace verdict) :
    Looks [vigil.pending.hashes] trace := by
  have once {look rest : Trace} {found : Option Receipt}
      (seen : Look vigil.pending.hashes look found) (unasked : queries rest = []) :
      Looks [vigil.pending.hashes] (vigil.pause ++ (look ++ rest)) :=
    .aside vigil.queries_pause (.look seen (.none unasked))
  cases turned with
  | found seen settled => exact once seen settled.queries
  | faster seen | refused seen => exact once seen rfl
  | waits seen | exhausted seen | timeout seen =>
    have nothing : queries [] = [] := rfl
    simpa using once seen nothing

theorem nonceAnswers (turned : Turn courier vigil trace verdict) : nonceAnswers trace = [] := by
  cases turned with
  | found seen settled => simp [seen.nonceAnswers, settled.nonceAnswers]
  | waits seen | exhausted seen | timeout seen => simp [seen.nonceAnswers]
  | faster seen | refused seen =>
    rw [nonceAnswers_append, nonceAnswers_append, vigil.nonceAnswers_pause, seen.nonceAnswers]
    rfl

/-- A turn that goes on takes one unit from the reserve. -/
theorem steady {next : Vigil} (turned : Turn courier vigil trace (.inl next))
    (steady : vigil.Steady courier.policy) :
    next.Steady courier.policy ∧
      next.reserve courier.policy + 1 = vigil.reserve courier.policy := by
  cases turned with
  | waits seen slack =>
    obtain ⟨steady, -, lower⟩ := steady.missed slack
    exact ⟨steady, lower⟩
  | faster seen enabled spent allowed network fee hash =>
    obtain ⟨steady, -, -, lower⟩ := steady.faster enabled spent allowed
    exact ⟨steady, lower⟩

/-- The transaction keeps its payload, its nonce and the hashes that it has. -/
theorem payload {next : Vigil} (turned : Turn courier vigil trace (.inl next)) :
    next.pending.replacement = vigil.pending.replacement ∧
      next.pending.nonce = vigil.pending.nonce ∧ vigil.pending.hashes ⊆ next.pending.hashes := by
  cases turned with
  | waits => exact ⟨rfl, rfl, List.Subset.refl _⟩
  | faster =>
    refine ⟨rfl, rfl, ?_⟩
    simp [Pending.hashes, Pending.superseding]

theorem surrendered {given : Pending} {reason : String}
    (turned : Turn courier vigil trace (.inr (.surrender given reason))) :
    courier.policy.enabled = true ∧ given.nonce = vigil.pending.nonce := by
  cases turned with
  | exhausted _ enabled | refused _ enabled => exact ⟨enabled, rfl⟩

/-- A vigil that finds nothing and is refused nothing ends when all is used up. -/
theorem spent {exit : Exit} (turned : Turn courier vigil trace (.inr exit))
    (unseen : receipts trace = []) (accepted : ∀ exchange ∈ trace, ¬ Refuses exchange) :
    vigil.slack courier.policy = 0 ∧ raiseLimit courier.policy ≤ vigil.raised.toNat := by
  cases turned with
  | found seen => simp [seen.receipts] at unseen
  | exhausted seen enabled spent limit =>
    rw [raiseLimit, if_pos enabled]
    exact ⟨spent, UInt32.le_iff_toNat_le.mp limit⟩
  | refused seen enabled spent allowed network fee failure =>
    exact absurd trivial
      (accepted ⟨.broadcast (vigil.pending.replacement fee), .error failure⟩ (by simp))
  | timeout seen disabled spent =>
    rw [raiseLimit, if_neg (by simp [disabled])]
    exact ⟨spent, Nat.zero_le _⟩

end Turn

/-! ## All turns -/

/-- What holds of a vigil over a transaction after some turns with the exchanges of `past`. -/
structure Standing (courier : Courier) (pending : Pending) (turns : Nat) (past : Trace)
    (vigil : Vigil) : Prop where
  steady : vigil.Steady courier.policy
  count : turns + vigil.reserve courier.policy + 1 = turnLimit courier.policy
  nonce : vigil.pending.nonce = pending.nonce
  payload : vigil.pending.replacement = pending.replacement
  original : pending.hash ∈ vigil.pending.hashes
  looks : ∃ rounds, Looks rounds past ∧ rounds.length = turns ∧
    ∀ hashes ∈ rounds, pending.hash ∈ hashes
  attempts : ∃ fees : List Fee, attempts past = fees.map pending.replacement ∧
    fees.length = vigil.raised.toNat
  nonceAnswers : nonceAnswers past = []

/-- The bounds on a vigil over a transaction that ended after some turns. -/
structure Watched (courier : Courier) (pending : Pending) (turns : Nat) (watch : Trace)
    (exit : Exit) : Prop where
  count : turns ≤ turnLimit courier.policy
  looks : ∃ rounds, Looks rounds watch ∧ rounds.length = turns ∧
    ∀ hashes ∈ rounds, pending.hash ∈ hashes
  attempts : ∃ fees : List Fee, attempts watch = fees.map pending.replacement ∧
    fees.length ≤ raiseLimit courier.policy
  nonceAnswers : nonceAnswers watch = []
  surrendered : ∀ given reason, exit = .surrender given reason →
    courier.policy.enabled = true ∧ given.nonce = pending.nonce
  full : receipts watch = [] → (∀ exchange ∈ watch, ¬ Refuses exchange) →
    turns = turnLimit courier.policy ∧ (Delivery.attempts watch).length = raiseLimit courier.policy

namespace Standing

variable {turns : Nat}

theorem start (fresh : pending.cyclesWaited = 0)
    (small : (courier.policy.threshold.toNat + 1) * (courier.policy.maxEscalations.toNat + 1) <
      UInt32.size) :
    Standing courier pending 0 [] (.start courier pending) where
  steady := Vigil.steady_start fresh small
  count := by rw [Nat.zero_add, Vigil.reserve_start courier fresh]
  nonce := rfl
  payload := rfl
  original := List.mem_cons_self
  looks := ⟨[], .none rfl, rfl, by simp⟩
  attempts := ⟨[], rfl, rfl⟩
  nonceAnswers := rfl

/-- The attempts of one more turn. -/
theorem attempts_turn {verdict : Vigil ⊕ Exit}
    (standing : Standing courier pending turns past vigil)
    (turned : Turn courier vigil trace verdict) :
    ∃ fees : List Fee, Delivery.attempts (past ++ trace) = fees.map pending.replacement ∧
      (∀ next, verdict = .inl next → fees.length = next.raised.toNat) ∧
      fees.length ≤ raiseLimit courier.policy := by
  obtain ⟨early, tried, count⟩ := standing.attempts
  obtain ⟨late, again, raised, within⟩ := turned.attempts standing.steady
  refine ⟨early ++ late, ?_, ?_, ?_⟩
  · rw [attempts_append, tried, again, standing.payload, List.map_append]
  · intro next same
    rw [List.length_append, count, raised next same]
  · rw [List.length_append, count]
    exact within

/-- The looks of one more turn. -/
theorem looks_turn {verdict : Vigil ⊕ Exit}
    (standing : Standing courier pending turns past vigil)
    (turned : Turn courier vigil trace verdict) :
    ∃ rounds, Looks rounds (past ++ trace) ∧ rounds.length = turns + 1 ∧
      ∀ hashes ∈ rounds, pending.hash ∈ hashes := by
  obtain ⟨rounds, looks, count, listed⟩ := standing.looks
  refine ⟨rounds ++ [vigil.pending.hashes], looks.append turned.looks, ?_, ?_⟩
  · rw [List.length_append, count, List.length_singleton]
  · refine List.forall_mem_append.mpr ⟨listed, ?_⟩
    simpa using standing.original

theorem step {next : Vigil} (standing : Standing courier pending turns past vigil)
    (turned : Turn courier vigil trace (.inl next)) :
    Standing courier pending (turns + 1) (past ++ trace) next := by
  obtain ⟨fees, tried, raised, -⟩ := standing.attempts_turn turned
  obtain ⟨steady, lower⟩ := turned.steady standing.steady
  obtain ⟨payload, nonce, kept⟩ := turned.payload
  have count := standing.count
  refine ⟨steady, by omega, nonce.trans standing.nonce, payload.trans standing.payload,
    kept standing.original, standing.looks_turn turned, ⟨fees, tried, raised next rfl⟩, ?_⟩
  rw [nonceAnswers_append, standing.nonceAnswers, turned.nonceAnswers]
  rfl

theorem watched {exit : Exit} (standing : Standing courier pending turns past vigil)
    (turned : Turn courier vigil trace (.inr exit)) :
    Watched courier pending (turns + 1) (past ++ trace) exit := by
  obtain ⟨fees, tried, -, within⟩ := standing.attempts_turn turned
  have count := standing.count
  refine ⟨by omega, standing.looks_turn turned, ⟨fees, tried, within⟩, ?_, ?_,
    fun unseen accepted => ?_⟩
  · rw [nonceAnswers_append, standing.nonceAnswers, turned.nonceAnswers]
    rfl
  · rintro given reason rfl
    obtain ⟨enabled, nonce⟩ := turned.surrendered
    exact ⟨enabled, nonce.trans standing.nonce⟩
  · rw [receipts_append] at unseen
    obtain ⟨spent, limit⟩ := turned.spent (List.append_eq_nil_iff.mp unseen).2
      fun exchange member => accepted exchange (List.mem_append_right past member)
    have empty := Vigil.reserve_eq_zero spent limit
    obtain ⟨early, before, raised⟩ := standing.attempts
    have most : early.length ≤ fees.length := by
      have longer := congrArg List.length tried
      rw [attempts_append, before, List.length_append, List.length_map, List.length_map] at longer
      omega
    refine ⟨by omega, ?_⟩
    rw [tried, List.length_map]
    omega

end Standing

/-- A vigil over a fresh transaction stays within its bounds. -/
theorem watched_of_iterates {turns : Nat} {exit : Exit} (fresh : pending.cyclesWaited = 0)
    (small : (courier.policy.threshold.toNat + 1) * (courier.policy.maxEscalations.toNat + 1) <
      UInt32.size)
    (loop : Iterates (turn courier) (.start courier pending) turns trace exit) :
    Watched courier pending turns trace exit := by
  obtain ⟨before, final, last, rfl, standing, ended, some⟩ :=
    loop.invariant (fun {turns past vigil next first} standing run =>
      standing.step (turn_of_runs standing.steady run)) (Standing.start fresh small)
  have watched := standing.watched (turn_of_runs standing.steady ended)
  rwa [Nat.zero_add, Nat.sub_add_cancel some] at watched

/-! ## What is left to do -/

/-- The hashes that are still looked up after a vigil. -/
def Exit.hashes : Exit → List Hash
  | .outcome _ => []
  | .surrender pending _ => pending.hashes

/-- Clearing a nonce takes so many transfers at most, each with so many checks at most. -/
theorem transfers_of_clearNonce {attempts : Nat} {fee : Fee} {cleared : Bool}
    (run : Runs (clearNonce courier nonce attempts fee) trace cleared) :
    ∃ fees : List Fee, Delivery.attempts trace = fees.map (emptyTransfer courier.account nonce) ∧
      fees.length ≤ attempts ∧
      (nonceAnswers trace).length ≤ attempts * clearRounds courier.policy := by
  obtain ⟨sweeps, rfl, goes⟩ := clearing_of_runs run
  obtain ⟨fees, tried, count⟩ := attempts_clearing courier nonce fee sweeps
  exact ⟨fees, tried, count ▸ goes.length_le, length_nonceAnswers_clearing goes⟩

/-- The bounds on what is done after a vigil over a transaction. -/
structure Concluded (courier : Courier) (hashes : List Hash) (nonce : UInt64) (leaving : Trace) :
    Prop where
  rounds : ∃ rounds ≤ 2, Looks (List.replicate rounds hashes) leaving
  transfers : ∃ fees : List Fee, attempts leaving = fees.map (emptyTransfer courier.account nonce) ∧
    fees.length ≤ courier.policy.dropAttempts.toNat
  nonceAnswers : (nonceAnswers leaving).length ≤
    courier.policy.dropAttempts.toNat * clearRounds courier.policy

theorem concluded_of_abandon {given : Pending} {reason : String}
    (run : Runs (abandon courier given reason) trace result) :
    Concluded courier given.hashes given.nonce trace := by
  obtain ⟨look, found, later, rfl, looked, continued⟩ := runs_bind_iff.mp run
  have seen : Look given.hashes look found := look_of_runs looked
  cases found with
  | some receipt =>
    obtain ⟨settled, -⟩ := settlement_of_runs continued
    refine ⟨⟨1, by decide, .look seen (.none settled.queries)⟩, ⟨[], ?_, Nat.zero_le _⟩, ?_⟩
    · simp [seen.attempts, settled.attempts]
    · simp [seen.nonceAnswers, settled.nonceAnswers]
  | none =>
    obtain ⟨clearing, cleared, later, rfl, dropped, resumed⟩ := runs_bind_iff.mp continued
    obtain ⟨answer, later, rfl, finished⟩ := runs_ask_bind_iff.mp resumed
    obtain ⟨last, found, ending, rfl, again, ended⟩ := runs_bind_iff.mp finished
    have again : Look given.hashes last found := look_of_runs again
    have unasked : queries clearing = [] :=
      queries_of_clears (calls_clearNonce _ _ clearing cleared dropped)
    obtain ⟨fees, tried, few, checks⟩ := transfers_of_clearNonce dropped
    have quiet : queries ending = [] ∧ attempts ending = [] ∧
        Delivery.nonceAnswers ending = [] := by
      cases found with
      | some receipt =>
        obtain ⟨settled, -⟩ := settlement_of_runs ended
        exact ⟨settled.queries, settled.attempts, settled.nonceAnswers⟩
      | none =>
        obtain ⟨rfl, -⟩ := runs_done_iff.mp ended
        exact ⟨rfl, rfl, rfl⟩
    rw [List.append_cons clearing]
    refine ⟨⟨2, Nat.le_refl 2, ?_⟩, ⟨fees, ?_, few⟩, ?_⟩
    · have asked : queries (clearing ++ [⟨.syncNonce, answer⟩]) = [] := by
        rw [queries_append, unasked]
        rfl
      exact .look seen (.aside asked (.look again (.none quiet.1)))
    · rw [attempts_append, attempts_append, attempts_append, attempts_append, seen.attempts, tried,
        again.attempts, quiet.2.1]
      exact (List.append_nil _).trans (List.append_nil _)
    · have sync : Delivery.nonceAnswers [⟨.syncNonce, answer⟩] = [] := rfl
      rw [nonceAnswers_append, nonceAnswers_append, nonceAnswers_append, nonceAnswers_append,
        seen.nonceAnswers, sync, again.nonceAnswers, quiet.2.2]
      simpa using checks

theorem concluded_of_runs {exit : Exit} (run : Runs (conclude courier exit) trace result)
    (same : ∀ given reason, exit = .surrender given reason → given.nonce = nonce) :
    Concluded courier exit.hashes nonce trace := by
  cases exit with
  | outcome settled =>
    obtain ⟨rfl, -⟩ := runs_done_iff.mp run
    exact ⟨⟨0, Nat.zero_le 2, .none rfl⟩, ⟨[], rfl, Nat.zero_le _⟩, Nat.zero_le _⟩
  | surrender given reason => exact same given reason rfl ▸ concluded_of_abandon run

/-- What a delivery does to stay with a transaction is bounded: the vigil over it, and what is left
to do after the vigil. -/
structure Bounded (courier : Courier) (pending : Pending) (turns : Nat) (watch : Trace)
    (exit : Exit) (leaving : Trace) : Prop where
  /-- As many checks as the policy allows. -/
  checks : turns ≤ turnLimit courier.policy
  /-- A check is one look for a receipt, of the first broadcast among others. -/
  looks : ∃ rounds, Looks rounds watch ∧ rounds.length = turns ∧
    ∀ hashes ∈ rounds, pending.hash ∈ hashes
  replacements : ∃ fees : List Fee, attempts watch = fees.map pending.replacement ∧
    fees.length ≤ raiseLimit courier.policy
  /-- Two more checks once the payload is given up. -/
  rounds : ∃ rounds ≤ 2, Looks (List.replicate rounds exit.hashes) leaving
  transfers : ∃ fees : List Fee,
    attempts leaving = fees.map (emptyTransfer courier.account pending.nonce) ∧
    fees.length ≤ courier.policy.dropAttempts.toNat
  nonceAnswers : (nonceAnswers (watch ++ leaving)).length ≤
    courier.policy.dropAttempts.toNat * clearRounds courier.policy
  /-- Where nothing is found and nothing refused, all that is allowed is used up. -/
  full : receipts watch = [] → (∀ exchange ∈ watch, ¬ Refuses exchange) →
    turns = turnLimit courier.policy ∧ (attempts watch).length = raiseLimit courier.policy
  /-- Without escalation nothing is broadcast. -/
  quiet : courier.policy.enabled = false → attempts (watch ++ leaving) = []

/-- If no count wraps around, staying with a fresh transaction comes to an end in all surroundings,
and every run of it is a bounded vigil followed by a bounded rest. -/
theorem confirm_bounded (fresh : pending.cyclesWaited = 0)
    (small : (courier.policy.threshold.toNat + 1) * (courier.policy.maxEscalations.toNat + 1) <
      UInt32.size) :
    (∀ surroundings : Surroundings Delivery, ∃ trace result,
      Runs (courier.confirm pending) trace result ∧ AnsweredBy surroundings [] trace) ∧
    ∀ trace result, Runs (courier.confirm pending) trace result →
      ∃ turns watch exit leaving, trace = watch ++ leaving ∧
        Iterates (turn courier) (.start courier pending) turns watch exit ∧
        Runs (conclude courier exit) leaving result ∧
        Bounded courier pending turns watch exit leaving := by
  refine ⟨fun surroundings => exists_answered_run surroundings [] _, fun trace result run => ?_⟩
  obtain ⟨turns, watch, exit, leaving, rfl, loop, concluded⟩ := keeps_of_confirm fresh small run
  have loop : Iterates (turn courier) (.start courier pending) turns watch exit := loop
  have watched := watched_of_iterates fresh small loop
  have left := concluded_of_runs concluded fun given reason same =>
    (watched.surrendered given reason same).2
  refine ⟨turns, watch, exit, leaving, rfl, loop, concluded, ⟨watched.count, watched.looks,
    watched.attempts, left.rounds, left.transfers, ?_, watched.full, fun disabled => ?_⟩⟩
  · rw [nonceAnswers_append, watched.nonceAnswers]
    exact left.nonceAnswers
  · obtain ⟨fees, tried, few⟩ := watched.attempts
    rw [raiseLimit, if_neg (by simp [disabled])] at few
    have none : fees = [] := List.eq_nil_of_length_eq_zero (Nat.le_zero.mp few)
    have ended : leaving = [] := by
      cases exit with
      | outcome => exact (runs_done_iff.mp concluded).1
      | surrender given reason =>
        have enabled := (watched.surrendered given reason rfl).1
        rw [disabled] at enabled
        cases enabled
    rw [ended, List.append_nil, tried, none]
    rfl

/-- `parcel` after its first broadcast. -/
def stuckParcel : Pending :=
  ⟨11, 4, parcel.receiver, parcel.data, firstBid, 100, 0, []⟩

theorem confirm_bounded_stuck :
    stuckParcel.cyclesWaited = 0 ∧
    (hasty.policy.threshold.toNat + 1) * (hasty.policy.maxEscalations.toNat + 1) < UInt32.size ∧
    (∀ surroundings : Surroundings Delivery, ∃ trace result,
      Runs (hasty.confirm stuckParcel) trace result ∧ AnsweredBy surroundings [] trace) ∧
    ∀ trace result, Runs (hasty.confirm stuckParcel) trace result →
      ∃ turns watch exit leaving, trace = watch ++ leaving ∧
        Iterates (turn hasty) (.start hasty stuckParcel) turns watch exit ∧
        Runs (conclude hasty exit) leaving result ∧
        Bounded hasty stuckParcel turns watch exit leaving := by
  have fresh : stuckParcel.cyclesWaited = 0 := rfl
  have small : (hasty.policy.threshold.toNat + 1) * (hasty.policy.maxEscalations.toNat + 1) <
      UInt32.size := by decide
  exact ⟨fresh, small, confirm_bounded fresh small⟩

end VaultKeeper.Delivery
