import VaultKeeper.Proofs.Delivery.Course
import VaultKeeper.Proofs.Program.Basic

/-! # The vigil over a pending transaction

A courier stays with a transaction in a loop that nothing bounds from outside: its poller has no
limit, and its counters have 32 bits. `Vigil` is what the loop keeps from turn to turn, and `turn`
is its body. As long as no counter wraps around, staying with a transaction is running this loop and
then, if it leads there, giving the payload up.
-/

namespace VaultKeeper.Delivery

open Program Courier

/-- What a vigil keeps from turn to turn. The transaction counts the checks since its fee was last
raised. -/
structure Vigil where
  poller : Poller
  /-- How often the fee was raised. -/
  raised : UInt32
  pending : Pending

/-- How a vigil ends: in the outcome of the delivery, or with a payload to give up. -/
inductive Exit where
  | outcome (result : Except Failure Receipt)
  | surrender (pending : Pending) (reason : String)

/-- The clock of a vigil, where nobody requests a stop. -/
def undisturbed : (call : Timer.Call) → Program Delivery (Timer.Answer call)
  | .stopRequested => pure false
  | .sleep milliseconds => do
    sleep milliseconds
    pure true

namespace Vigil

def start (courier : Courier) (pending : Pending) : Vigil where
  poller := .start ⟨courier.policy.pollInterval, none⟩
  raised := 0
  pending := pending

/-- The same vigil with other counts of checks: of all, and of those since the last raise. -/
def withCounts (vigil : Vigil) (checks waited : UInt32) : Vigil where
  poller := { vigil.poller with attempts := checks }
  raised := vigil.raised
  pending := { vigil.pending with cyclesWaited := waited }

/-- The vigil after one more check in vain. -/
abbrev missed (vigil : Vigil) : Vigil :=
  vigil.withCounts (vigil.poller.attempts + 1) (vigil.pending.cyclesWaited + 1)

/-- The vigil after a check in vain and a replacement. -/
abbrev faster (vigil : Vigil) (hash : Hash) (fee : Fee) : Vigil where
  poller := { vigil.poller with attempts := vigil.poller.attempts + 1 }
  raised := vigil.raised + 1
  pending := vigil.pending.superseding hash fee

/-- The wait that a turn begins with; the first turn of a vigil has none. -/
def pause (vigil : Vigil) : Trace :=
  if vigil.poller.attempts = 0 then [] else [⟨.sleep vigil.poller.policy.interval, ()⟩]

/-- How many more checks in vain a vigil stands before it acts. -/
def slack (policy : EscalationPolicy) (vigil : Vigil) : Nat :=
  if policy.enabled then policy.threshold.toNat - vigil.pending.cyclesWaited.toNat
  else policy.maxWait.toNat - 1 - vigil.poller.attempts.toNat

/-- The checks that further raises of the fee allow. -/
def credit (policy : EscalationPolicy) (vigil : Vigil) : Nat :=
  if policy.enabled then
    (policy.maxEscalations.toNat - vigil.raised.toNat) * (policy.threshold.toNat + 1)
  else 0

/-- How many more turns a vigil may take after the next one. -/
def reserve (policy : EscalationPolicy) (vigil : Vigil) : Nat :=
  vigil.slack policy + vigil.credit policy

/-- No count of a vigil has passed its limit, and none will wrap around. -/
structure Steady (policy : EscalationPolicy) (vigil : Vigil) : Prop where
  polling : vigil.poller.policy = ⟨policy.pollInterval, none⟩
  room : vigil.poller.attempts.toNat + vigil.reserve policy + 1 < UInt32.size
  patient : policy.threshold.toNat + 1 < UInt32.size
  waited : policy.enabled = true → vigil.pending.cyclesWaited.toNat ≤ policy.threshold.toNat
  raised : policy.enabled = true → vigil.raised.toNat ≤ policy.maxEscalations.toNat
  idle : policy.enabled = false → vigil.raised = 0
  unhurried : policy.enabled = false → vigil.poller.attempts.toNat ≤ policy.maxWait.toNat - 1

end Vigil

/-- Raise the fee, or give the payload up when that is refused. -/
def hasten (courier : Courier) (vigil : Vigil) : Program Delivery (Vigil ⊕ Exit) := do
  match ← speedUp courier.policy vigil.pending with
  | .ok faster => pure (.inl { vigil with raised := vigil.raised + 1, pending := faster })
  | .error failure => pure (.inr (.surrender vigil.pending failure.message))

/-- What follows a check in vain, the `cycle`-th of the vigil. -/
def persist (courier : Courier) (cycle : UInt32) (vigil : Vigil) :
    Program Delivery (Vigil ⊕ Exit) :=
  if courier.policy.enabled then
    if vigil.pending.cyclesWaited ≤ courier.policy.threshold then pure (.inl vigil)
    else if courier.policy.maxEscalations ≤ vigil.raised then
      pure (.inr (.surrender vigil.pending s!"not mined after {vigil.raised} speed-ups"))
    else hasten courier vigil
  else if courier.policy.maxWait ≤ cycle then
    pure (.inr (.outcome (.error
      (.timeout "confirm" (courier.policy.pollInterval * cycle.toNat)))))
  else pure (.inl vigil)

/-- The `cycle`-th check of a vigil and what follows it. -/
def attend (courier : Courier) (cycle : UInt32) (vigil : Vigil) :
    Program Delivery (Vigil ⊕ Exit) := do
  match ← pollOnce vigil.pending with
  | some found =>
    let result ← settle found
    pure (.inr (.outcome result))
  | none =>
    let waited := vigil.pending.cyclesWaited + 1
    persist courier cycle { vigil with pending := { vigil.pending with cyclesWaited := waited } }

/-- The next check of a vigil, with that check counted. -/
abbrev check (courier : Courier) (vigil : Vigil) : Program Delivery (Vigil ⊕ Exit) :=
  attend courier (vigil.poller.attempts + 1)
    (vigil.withCounts (vigil.poller.attempts + 1) vigil.pending.cyclesWaited)

/-- One turn of a vigil. -/
def turn (courier : Courier) (vigil : Vigil) : Program Delivery (Vigil ⊕ Exit) := do
  match ← vigil.poller.tick.interpret undisturbed with
  | (.attempt cycle, poller) => attend courier cycle { vigil with poller }
  | (_, poller) => pure (.inl { vigil with poller })

/-- What is left to do after a vigil. -/
def conclude (courier : Courier) : Exit → Program Delivery (Except Failure Receipt)
  | .outcome result => pure result
  | .surrender pending reason => abandon courier pending reason

variable {courier : Courier} {policy : EscalationPolicy} {pending : Pending} {vigil : Vigil}

/-- A turn is the wait before a check and the check. -/
theorem runs_turn_iff {trace : Trace} {verdict : Vigil ⊕ Exit}
    (unlimited : vigil.poller.policy.maxAttempts = none) :
    Runs (turn courier vigil) trace verdict ↔
      ∃ rest, trace = vigil.pause ++ rest ∧ Runs (check courier vigil) rest verdict := by
  obtain ⟨⟨⟨interval, limit⟩, checks⟩, raised, pending⟩ := vigil
  obtain rfl : limit = none := unlimited
  by_cases first : checks = 0
  · subst first
    constructor
    · intro run
      exact ⟨trace, rfl, run⟩
    · rintro ⟨_, rfl, checked⟩
      exact checked
  · have paused : Vigil.pause ⟨⟨⟨interval, none⟩, checks⟩, raised, pending⟩ =
        [⟨.sleep interval, ()⟩] := if_neg first
    have waits : turn courier ⟨⟨⟨interval, none⟩, checks⟩, raised, pending⟩ =
        (sleep interval >>= fun _ => attend courier (checks + 1)
          ⟨⟨⟨interval, none⟩, checks + 1⟩, raised, pending⟩) := by
      simp [turn, Poller.tick, Poller.isExhausted, Poller.count, first, ask, sleep, interpret,
        undisturbed]
    rw [waits, paused]
    constructor
    · intro run
      obtain ⟨_, rest, rfl, checked⟩ := runs_ask_bind_iff.mp run
      exact ⟨rest, rfl, checked⟩
    · rintro ⟨rest, rfl, checked⟩
      exact runs_ask_bind_iff.mpr ⟨(), rest, rfl, checked⟩

theorem toNat_succ {count : UInt32} (room : count.toNat + 1 < UInt32.size) :
    (count + 1).toNat = count.toNat + 1 := by
  rw [UInt32.toNat_add]
  exact Nat.mod_eq_of_lt room

/-- The turns that a policy allows a vigil over a fresh transaction. -/
def turnLimit (policy : EscalationPolicy) : Nat :=
  if policy.enabled then (policy.threshold.toNat + 1) * (policy.maxEscalations.toNat + 1)
  else max 1 policy.maxWait.toNat

namespace Vigil

theorem reserve_start (courier : Courier) (fresh : pending.cyclesWaited = 0) :
    (start courier pending).reserve courier.policy + 1 = turnLimit courier.policy := by
  unfold reserve slack credit turnLimit
  split
  · simp only [start, fresh, UInt32.toNat_zero, Nat.sub_zero]
    rw [Nat.mul_comm courier.policy.maxEscalations.toNat, Nat.mul_add_one]
    omega
  · simp only [start, Poller.start, UInt32.toNat_zero]
    omega

theorem steady_start (fresh : pending.cyclesWaited = 0)
    (small : (courier.policy.threshold.toNat + 1) * (courier.policy.maxEscalations.toNat + 1) <
      UInt32.size) :
    (start courier pending).Steady courier.policy where
  polling := rfl
  room := by
    have checks : (start courier pending).poller.attempts.toNat = 0 := rfl
    rw [checks, Nat.zero_add, reserve_start courier fresh, turnLimit]
    split
    · exact small
    · have bound := courier.policy.maxWait.toNat_lt_size
      change _ < 4294967296 at bound ⊢
      omega
  patient := Nat.lt_of_le_of_lt (Nat.le_mul_of_pos_right _ (Nat.succ_pos _)) small
  waited := by simp [start, fresh]
  raised := by simp [start]
  idle := fun _ => rfl
  unhurried := by simp [start, Poller.start]

namespace Steady

theorem attempts (steady : vigil.Steady policy) :
    (vigil.poller.attempts + 1).toNat = vigil.poller.attempts.toNat + 1 := by
  have room := steady.room
  exact toNat_succ (by omega)

/-- A turn that is counted is followed by one that waits. -/
theorem attempts_ne (steady : vigil.Steady policy) : vigil.poller.attempts + 1 ≠ 0 := by
  intro none
  have counted := steady.attempts
  rw [none] at counted
  cases counted

theorem waited_succ (steady : vigil.Steady policy) (enabled : policy.enabled = true) :
    (vigil.pending.cyclesWaited + 1).toNat = vigil.pending.cyclesWaited.toNat + 1 := by
  have within := steady.waited enabled
  have patient := steady.patient
  exact toNat_succ (by omega)

/-- A check in vain uses up one unit of slack. -/
theorem missed {left : Nat} (steady : vigil.Steady policy)
    (slack : vigil.slack policy = left + 1) :
    vigil.missed.Steady policy ∧ vigil.missed.slack policy = left ∧
      vigil.missed.reserve policy + 1 = vigil.reserve policy := by
  have room := steady.room
  have counted := steady.attempts
  have left : vigil.missed.slack policy = left := by
    unfold Vigil.slack at slack ⊢
    split at slack
    · next enabled =>
      have waited := steady.waited_succ enabled
      rw [if_pos enabled]
      change _ - (vigil.pending.cyclesWaited + 1).toNat = left
      omega
    · next disabled =>
      rw [if_neg disabled]
      change _ - (vigil.poller.attempts + 1).toNat = left
      omega
  have lower : vigil.missed.reserve policy + 1 = vigil.reserve policy := by
    have credit : vigil.missed.credit policy = vigil.credit policy := rfl
    rw [reserve, reserve, left, slack, credit]
    omega
  refine ⟨⟨steady.polling, ?_, steady.patient, ?_, steady.raised, steady.idle, ?_⟩, left,
    lower⟩
  · change (vigil.poller.attempts + 1).toNat + _ + 1 < _
    omega
  · intro enabled
    have waited := steady.waited_succ enabled
    rw [Vigil.slack, if_pos enabled] at slack
    change (vigil.pending.cyclesWaited + 1).toNat ≤ _
    omega
  · intro disabled
    rw [Vigil.slack, if_neg (by simp [disabled])] at slack
    change (vigil.poller.attempts + 1).toNat ≤ _
    omega

/-- A replacement gives up one unit of credit and restores the slack. -/
theorem faster {hash : Hash} {fee : Fee} (steady : vigil.Steady policy)
    (enabled : policy.enabled = true) (spent : vigil.slack policy = 0)
    (raises : ¬ policy.maxEscalations ≤ vigil.raised) :
    (vigil.faster hash fee).Steady policy ∧
      (vigil.faster hash fee).slack policy = policy.threshold.toNat ∧
      (vigil.faster hash fee).raised.toNat = vigil.raised.toNat + 1 ∧
      (vigil.faster hash fee).reserve policy + 1 = vigil.reserve policy := by
  have below : vigil.raised.toNat < policy.maxEscalations.toNat := by
    simpa [UInt32.le_iff_toNat_le] using raises
  have fits := policy.maxEscalations.toNat_lt_size
  have room := steady.room
  have counted := steady.attempts
  have raised : (vigil.faster hash fee).raised.toNat = vigil.raised.toNat + 1 :=
    toNat_succ (by omega)
  have slack : (vigil.faster hash fee).slack policy = policy.threshold.toNat := if_pos enabled
  have lower : (vigil.faster hash fee).reserve policy + 1 = vigil.reserve policy := by
    obtain ⟨left, same⟩ := Nat.exists_eq_add_of_lt below
    have before : policy.maxEscalations.toNat - vigil.raised.toNat = left + 1 := by omega
    have after : policy.maxEscalations.toNat - (vigil.faster hash fee).raised.toNat = left := by
      omega
    rw [reserve, reserve, slack, spent, credit, credit, if_pos enabled, if_pos enabled, before,
      after, Nat.add_one_mul]
    omega
  refine ⟨⟨steady.polling, ?_, steady.patient, ?_, ?_, ?_, ?_⟩, slack, raised, lower⟩
  · change (vigil.poller.attempts + 1).toNat + _ + 1 < _
    omega
  · intro _
    exact Nat.zero_le _
  · intro _
    omega
  · simp [enabled]
  · simp [enabled]

theorem persist_of_slack {left : Nat} (steady : vigil.Steady courier.policy)
    (slack : vigil.slack courier.policy = left + 1) :
    persist courier (vigil.poller.attempts + 1) vigil.missed = .done (.inl vigil.missed) := by
  unfold Vigil.slack at slack
  unfold persist
  split at slack
  · next enabled =>
    have waited := steady.waited_succ enabled
    have within : vigil.missed.pending.cyclesWaited ≤ courier.policy.threshold := by
      apply UInt32.le_iff_toNat_le.mpr
      change (vigil.pending.cyclesWaited + 1).toNat ≤ _
      omega
    rw [if_pos enabled, if_pos within]
    rfl
  · next disabled =>
    have counted := steady.attempts
    have early : ¬ courier.policy.maxWait ≤ vigil.poller.attempts + 1 := by
      intro late
      have late := UInt32.le_iff_toNat_le.mp late
      omega
    rw [if_neg disabled, if_neg early]
    rfl

theorem persist_of_spent (steady : vigil.Steady courier.policy)
    (enabled : courier.policy.enabled = true)
    (spent : vigil.slack courier.policy = 0) :
    persist courier (vigil.poller.attempts + 1) vigil.missed =
      if courier.policy.maxEscalations ≤ vigil.raised then
        .done (.inr (.surrender vigil.missed.pending s!"not mined after {vigil.raised} speed-ups"))
      else hasten courier vigil.missed := by
  have waited := steady.waited_succ enabled
  have late : ¬ vigil.missed.pending.cyclesWaited ≤ courier.policy.threshold := by
    intro early
    have early := UInt32.le_iff_toNat_le.mp early
    change (vigil.pending.cyclesWaited + 1).toNat ≤ _ at early
    rw [Vigil.slack, if_pos enabled] at spent
    omega
  rw [persist, if_pos enabled, if_neg late]
  rfl

theorem persist_of_timeout (steady : vigil.Steady courier.policy)
    (disabled : courier.policy.enabled = false) (spent : vigil.slack courier.policy = 0) :
    persist courier (vigil.poller.attempts + 1) vigil.missed =
      .done (.inr (.outcome (.error (.timeout "confirm"
        (courier.policy.pollInterval * max 1 courier.policy.maxWait.toNat))))) := by
  have early := steady.unhurried disabled
  have counted := steady.attempts
  rw [Vigil.slack, if_neg (by simp [disabled])] at spent
  have same : (vigil.poller.attempts + 1).toNat = max 1 courier.policy.maxWait.toNat := by omega
  have late : courier.policy.maxWait ≤ vigil.poller.attempts + 1 := by
    apply UInt32.le_iff_toNat_le.mpr
    omega
  rw [persist, if_neg (by simp [disabled]), if_pos late, same]
  rfl

end Steady

end Vigil

end VaultKeeper.Delivery
