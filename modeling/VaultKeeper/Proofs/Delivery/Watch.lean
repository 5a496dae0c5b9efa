import VaultKeeper.Proofs.Delivery.Vigil

/-! # Staying with a transaction is keeping a vigil

The checks that a courier makes in one go are so many turns of a vigil, and a raise of the fee is
the end of another one. So whatever a courier does to stay with a fresh transaction, it runs the
loop to its end and then does what that leaves to do.
-/

namespace VaultKeeper.Delivery

open Program Courier

variable {courier : Courier} {pending : Pending} {vigil : Vigil} {trace first rest leaving : Trace}
  {result : Except Failure Receipt}

/-- From the check on that its next turn makes, a vigil and what is left to do after it. -/
def Keeps (courier : Courier) (vigil : Vigil) (trace : Trace) (result : Except Failure Receipt) :
    Prop :=
  ∃ turns watch exit leaving, trace = watch ++ leaving ∧
    Iterates (turn courier) vigil turns (vigil.pause ++ watch) exit ∧
    Runs (conclude courier exit) leaving result

theorem runs_check_of_none {acts : Trace} {verdict : Vigil ⊕ Exit}
    (looked : Runs (pollOnce vigil.pending) first none)
    (persists : Runs (persist courier (vigil.poller.attempts + 1) vigil.missed) acts verdict) :
    Runs (check courier vigil) (first ++ acts) verdict :=
  runs_bind_iff.mpr ⟨first, none, acts, rfl, looked, persists⟩

theorem runs_check_of_done {verdict : Vigil ⊕ Exit}
    (looked : Runs (pollOnce vigil.pending) first none)
    (persists : persist courier (vigil.poller.attempts + 1) vigil.missed = .done verdict) :
    Runs (check courier vigil) first verdict := by
  have ended : Runs (persist courier (vigil.poller.attempts + 1) vigil.missed) [] verdict := by
    rw [persists]
    exact .done verdict
  simpa using runs_check_of_none looked ended

namespace Keeps

theorem of_exit {exit : Exit} (steady : vigil.Steady courier.policy)
    (checked : Runs (check courier vigil) first (.inr exit))
    (concluded : Runs (conclude courier exit) leaving result) :
    Keeps courier vigil (first ++ leaving) result := by
  have unlimited : vigil.poller.policy.maxAttempts = none := by rw [steady.polling]
  have last : Runs (turn courier vigil) (vigil.pause ++ first) (.inr exit) :=
    (runs_turn_iff unlimited).mpr ⟨first, rfl, checked⟩
  exact ⟨1, first, exit, leaving, rfl, .done last, concluded⟩

theorem of_next {next : Vigil} (steady : vigil.Steady courier.policy)
    (checked : Runs (check courier vigil) first (.inl next)) (onward : next.Steady courier.policy)
    (counted : next.poller.attempts ≠ 0) (keeps : Keeps courier next rest result) :
    Keeps courier vigil (first ++ (⟨.sleep courier.policy.pollInterval, ()⟩ :: rest)) result := by
  obtain ⟨turns, watch, exit, leaving, rfl, turned, concluded⟩ := keeps
  have unlimited : vigil.poller.policy.maxAttempts = none := by rw [steady.polling]
  have paused : next.pause = [⟨.sleep courier.policy.pollInterval, ()⟩] := by
    rw [Vigil.pause, if_neg counted, onward.polling]
  have one : Runs (turn courier vigil) (vigil.pause ++ first) (.inl next) :=
    (runs_turn_iff unlimited).mpr ⟨first, rfl, checked⟩
  refine ⟨turns + 1, first ++ (next.pause ++ watch), exit, leaving, ?_, ?_, concluded⟩
  · rw [paused]
    simp
  · rw [← List.append_assoc]
    exact .again one turned

/-- A check that finds a receipt ends the vigil in the outcome. -/
theorem of_found {receipt : Receipt} (steady : vigil.Steady courier.policy)
    (looked : Runs (pollOnce vigil.pending) first (some receipt))
    (settled : Runs (settle receipt) rest result) :
    Keeps courier vigil (first ++ rest) result := by
  have checked : Runs (check courier vigil) (first ++ rest) (.inr (.outcome result)) :=
    runs_bind_iff.mpr ⟨first, some receipt, rest, rfl, looked,
      runs_bind_done_iff.mpr ⟨result, settled, rfl⟩⟩
  have concluded : Runs (conclude courier (.outcome result)) [] result := .done result
  simpa using of_exit steady checked concluded

/-- A check in vain that the slack covers. -/
theorem of_slack {left : Nat} (steady : vigil.Steady courier.policy)
    (slack : vigil.slack courier.policy = left + 1)
    (looked : Runs (pollOnce vigil.pending) first none)
    (keeps : Keeps courier vigil.missed rest result) :
    Keeps courier vigil (first ++ (⟨.sleep courier.policy.pollInterval, ()⟩ :: rest)) result := by
  obtain ⟨onward, -, -⟩ := steady.missed slack
  have checked := runs_check_of_done looked (steady.persist_of_slack slack)
  exact of_next steady checked onward steady.attempts_ne keeps

/-- A check in vain after the last raise. -/
theorem of_exhausted (steady : vigil.Steady courier.policy)
    (enabled : courier.policy.enabled = true) (spent : vigil.slack courier.policy = 0)
    (limit : courier.policy.maxEscalations = vigil.raised)
    (looked : Runs (pollOnce vigil.pending) first none)
    (abandoned : Runs (abandon courier vigil.pending s!"not mined after {vigil.raised} speed-ups")
      rest result) :
    Keeps courier vigil (first ++ rest) result := by
  have persists := steady.persist_of_spent enabled spent
  rw [if_pos (UInt32.le_of_eq limit)] at persists
  have checked := runs_check_of_done looked persists
  have concluded : Runs (conclude courier (.surrender vigil.missed.pending
      s!"not mined after {vigil.raised} speed-ups")) rest result := abandoned
  exact of_exit steady checked concluded

/-- A check in vain and a raise that is refused. -/
theorem of_refused {failure : Failure} {acts : Trace} (steady : vigil.Steady courier.policy)
    (enabled : courier.policy.enabled = true) (spent : vigil.slack courier.policy = 0)
    (allowed : ¬ courier.policy.maxEscalations ≤ vigil.raised)
    (looked : Runs (pollOnce vigil.pending) first none)
    (sped : Runs (speedUp courier.policy vigil.pending) acts (.error failure))
    (abandoned : Runs (abandon courier vigil.pending failure.message) rest result) :
    Keeps courier vigil (first ++ (acts ++ rest)) result := by
  have persists := steady.persist_of_spent enabled spent
  rw [if_neg allowed] at persists
  have hastened : Runs (hasten courier vigil.missed) acts
      (.inr (.surrender vigil.missed.pending failure.message)) :=
    runs_bind_iff.mpr ⟨acts, .error failure, [], (List.append_nil acts).symm, sped, .done _⟩
  have checked := runs_check_of_none looked (persists ▸ hastened)
  have concluded : Runs (conclude courier (.surrender vigil.missed.pending failure.message)) rest
      result := abandoned
  rw [← List.append_assoc]
  exact of_exit steady checked concluded

/-- A check in vain and a raise that is accepted. -/
theorem of_faster {hash : Hash} {fee : Fee} {acts : Trace} (steady : vigil.Steady courier.policy)
    (enabled : courier.policy.enabled = true) (spent : vigil.slack courier.policy = 0)
    (allowed : ¬ courier.policy.maxEscalations ≤ vigil.raised)
    (looked : Runs (pollOnce vigil.pending) first none)
    (sped : Runs (speedUp courier.policy vigil.pending) acts
      (.ok (vigil.pending.superseding hash fee)))
    (keeps : Keeps courier (vigil.faster hash fee) rest result) :
    Keeps courier vigil
      (first ++ (acts ++ (⟨.sleep courier.policy.pollInterval, ()⟩ :: rest))) result := by
  obtain ⟨onward, -, -, -⟩ := steady.faster enabled spent allowed
  have persists := steady.persist_of_spent enabled spent
  rw [if_neg allowed] at persists
  have hastened : Runs (hasten courier vigil.missed) acts (.inl (vigil.faster hash fee)) :=
    runs_bind_iff.mpr ⟨acts, .ok _, [], (List.append_nil acts).symm, sped, .done _⟩
  have checked := runs_check_of_none looked (persists ▸ hastened)
  rw [← List.append_assoc]
  exact of_next steady checked onward steady.attempts_ne keeps

/-- A check in vain after which a courier without escalation stops waiting. -/
theorem of_timeout (steady : vigil.Steady courier.policy)
    (disabled : courier.policy.enabled = false) (spent : vigil.slack courier.policy = 0)
    (looked : Runs (pollOnce vigil.pending) first none) :
    Keeps courier vigil first (.error (.timeout "confirm"
      (courier.policy.pollInterval * max 1 courier.policy.maxWait.toNat))) := by
  have checked := runs_check_of_done looked (steady.persist_of_timeout disabled spent)
  simpa using of_exit steady checked (.done _)

end Keeps

/-- The checks in vain that the slack covers, continued from the last check. -/
theorem keeps_of_polls {rounds : Nat} {found : Option Receipt}
    (steady : vigil.Steady courier.policy) (slack : vigil.slack courier.policy = rounds)
    (polled : Runs (pollUntil (sleep courier.policy.pollInterval) (pollOnce vigil.pending)
      (rounds + 1)) trace found)
    (last : ∀ {checks waited : UInt32} {look : Trace},
      (vigil.withCounts checks waited).Steady courier.policy →
      Runs (pollOnce vigil.pending) look found →
      (found = none → (vigil.withCounts checks waited).slack courier.policy = 0) →
      Keeps courier (vigil.withCounts checks waited) (look ++ rest) result) :
    Keeps courier vigil (trace ++ rest) result := by
  induction rounds generalizing vigil trace with
  | zero => exact last steady polled fun _ => slack
  | succ rounds ih =>
    rcases runs_pollUntil_succ_iff.mp polled with
      ⟨looked, final⟩ | ⟨left, look, pause, later, same, rfl, looked, waited, continued⟩
    · exact last steady looked fun none => absurd (final none) (Nat.succ_ne_zero rounds)
    · obtain rfl : rounds = left := by simpa using same
      obtain rfl := runs_ask_iff.mp waited
      obtain ⟨onward, fewer, -⟩ := steady.missed slack
      simpa using Keeps.of_slack steady slack looked (ih onward fewer continued last)

theorem patience_zero {policy : EscalationPolicy}
    (patient : policy.threshold.toNat + 1 < UInt32.size) :
    patience policy.threshold 0 = policy.threshold.toNat + 1 := by
  have fresh : (0 : UInt32).toNat + 1 ≠ UInt32.size := by decide
  rw [patience, if_neg (Nat.ne_of_lt patient), if_neg fresh]
  exact Nat.max_eq_right (Nat.succ_pos _)

theorem keeps_of_escalate {left rounds : Nat} (steady : vigil.Steady courier.policy)
    (enabled : courier.policy.enabled = true) (slack : vigil.slack courier.policy + 1 = rounds)
    (raises : vigil.raised.toNat + left = courier.policy.maxEscalations.toNat)
    (run : Runs (escalate courier left rounds vigil.pending) trace result) :
    Keeps courier vigil trace result := by
  induction left generalizing vigil rounds trace with
  | zero =>
    unfold escalate at run
    obtain ⟨looks, found, rest, rfl, polled, continued⟩ := runs_bind_iff.mp run
    subst rounds
    refine keeps_of_polls steady rfl polled fun {checks waited look} steady looked spent => ?_
    cases found with
    | some receipt => exact .of_found steady looked continued
    | none =>
      have limit : courier.policy.maxEscalations = vigil.raised := UInt32.toNat_inj.mp raises.symm
      rw [limit] at continued
      exact .of_exhausted steady enabled (spent rfl) limit looked continued
  | succ left ih =>
    unfold escalate at run
    obtain ⟨looks, found, rest, rfl, polled, continued⟩ := runs_bind_iff.mp run
    subst rounds
    have patient := steady.patient
    refine keeps_of_polls steady rfl polled fun {checks waited look} steady looked spent => ?_
    cases found with
    | some receipt => exact .of_found steady looked continued
    | none =>
      have below : vigil.raised.toNat < courier.policy.maxEscalations.toNat := by omega
      have allowed : ¬ courier.policy.maxEscalations ≤ vigil.raised := by
        simpa [UInt32.le_iff_toNat_le] using below
      obtain ⟨acts, answer, rest, rfl, sped, resumed⟩ := runs_bind_iff.mp continued
      cases answer with
      | error failure => exact .of_refused steady enabled (spent rfl) allowed looked sped resumed
      | ok faster =>
        obtain ⟨network, ⟨hash, same, -⟩ | ⟨_, none, -⟩⟩ := runs_speedUp sped
        · obtain rfl := Except.ok.inj same
          obtain ⟨_, rest, rfl, later⟩ := runs_ask_bind_iff.mp resumed
          obtain ⟨onward, restored, raised, -⟩ := steady.faster enabled (spent rfl) allowed
          refine .of_faster steady enabled (spent rfl) allowed looked sped ?_
          refine ih onward ?_ ?_ later
          · rw [restored]
            exact (patience_zero patient).symm
          · rw [raised]
            exact (Nat.add_right_comm _ 1 left).trans raises
        · cases none

theorem keeps_of_waitOut (steady : vigil.Steady courier.policy)
    (disabled : courier.policy.enabled = false)
    (slack : vigil.slack courier.policy + 1 = max 1 courier.policy.maxWait.toNat)
    (run : Runs (waitOut courier vigil.pending) trace result) :
    Keeps courier vigil trace result := by
  obtain ⟨looks, found, rest, rfl, polled, continued⟩ := runs_bind_iff.mp run
  rw [← slack] at polled
  refine keeps_of_polls steady rfl polled fun {checks waited look} steady looked spent => ?_
  cases found with
  | some receipt => exact .of_found steady looked continued
  | none =>
    obtain ⟨rfl, rfl⟩ := runs_done_iff.mp continued
    rw [List.append_nil]
    exact .of_timeout steady disabled (spent rfl) looked

/-- Staying with a fresh transaction is a vigil and what is left to do after it. -/
theorem keeps_of_confirm (fresh : pending.cyclesWaited = 0)
    (small : (courier.policy.threshold.toNat + 1) * (courier.policy.maxEscalations.toNat + 1) <
      UInt32.size)
    (run : Runs (courier.confirm pending) trace result) :
    Keeps courier (.start courier pending) trace result := by
  have steady : (Vigil.start courier pending).Steady courier.policy :=
    Vigil.steady_start fresh small
  unfold confirm at run
  split at run
  · next enabled =>
    have slack : (Vigil.start courier pending).slack courier.policy =
        courier.policy.threshold.toNat := by
      rw [Vigil.slack, if_pos enabled, Vigil.start, fresh]
      rfl
    refine keeps_of_escalate steady enabled ?_ (Nat.zero_add _) run
    rw [slack, fresh, patience_zero steady.patient]
  · next disabled =>
    refine keeps_of_waitOut steady (by simpa using disabled) ?_ run
    rw [Vigil.slack, if_neg disabled]
    change _ - 1 - 0 + 1 = _
    omega

end VaultKeeper.Delivery
