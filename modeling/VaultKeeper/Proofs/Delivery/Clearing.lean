import VaultKeeper.Proofs.Delivery.Trace

/-! # Clearing a nonce

The nonce of a payload that is given up is cleared in sweeps: one transfer of nothing, and then a
few queries for the nonces of the account. `Until` is what the sweeps and the queries of a sweep
have in common: one after another, so many at most, and none after a hit. The answers to the
queries, and nothing else, decide how it ends.
-/

namespace VaultKeeper.Delivery

open Program Courier

variable {courier : Courier} {pending : Pending} {nonce : UInt64} {fee : Fee}
  {first second trace : Trace}

/-- Nothing waits at a nonce any more: a query says that it is mined, or that no transaction of the
account is waiting. A failed query says nothing. -/
def Frees (nonce : UInt64) (answer : Except Failure NonceCounts) : Prop :=
  ∃ counts, answer = .ok counts ∧
    (nonce < counts.confirmed ∨ counts.pending = counts.confirmed)

theorem frees_ok_iff {counts : NonceCounts} :
    Frees nonce (.ok counts) ↔ NonceCounts.cleared nonce counts = true := by
  simp [Frees, NonceCounts.cleared]

theorem not_frees_error {failure : Failure} : ¬ Frees nonce (.error failure) := by
  rintro ⟨_, ⟨⟩, _⟩

/-! ## Until a hit -/

/-- Of items that come one after another, `most` at most, a hit is the last. Each of them tells
whether it is one, and so does the end. -/
inductive Until {α : Type} (tells : α → Bool → Prop) : (most : Nat) → List α → Bool → Prop
  | spent : Until tells 0 [] false
  | hit {most : Nat} {item : α} (hits : tells item true) : Until tells (most + 1) [item] true
  | miss {most : Nat} {item : α} {items : List α} {found : Bool} (misses : tells item false)
      (later : Until tells most items found) : Until tells (most + 1) (item :: items) found

namespace Until

variable {α : Type} {tells : α → Bool → Prop} {most : Nat} {items : List α} {found : Bool}

theorem length_le (goes : Until tells most items found) : items.length ≤ most := by
  induction goes with
  | spent => exact Nat.le_refl 0
  | hit => exact Nat.succ_pos _
  | miss _ _ ih => exact Nat.succ_le_succ ih

/-- It takes an item to find out. -/
theorem length_pos (goes : Until tells (most + 1) items found) : 0 < items.length := by
  cases goes <;> exact Nat.succ_pos _

/-- In vain all the items that are allowed are gone through. -/
theorem vain (goes : Until tells most items false) :
    items.length = most ∧ ∀ item ∈ items, tells item false := by
  generalize nothing : false = found at goes
  induction goes with
  | spent => exact ⟨rfl, by simp⟩
  | hit => cases nothing
  | miss misses _ ih =>
    subst nothing
    obtain ⟨count, missed⟩ := ih rfl
    refine ⟨congrArg Nat.succ count, ?_⟩
    exact List.forall_mem_cons.mpr ⟨misses, missed⟩

/-- Every item before the last one is a miss. -/
theorem misses (goes : Until tells most items found) :
    ∀ item ∈ items.dropLast, tells item false := by
  induction goes with
  | spent => simp
  | hit => simp
  | @miss _ _ items _ misses _ ih =>
    cases items with
    | nil => simp
    | cons next items =>
      rw [List.dropLast_cons_cons]
      exact List.forall_mem_cons.mpr ⟨misses, ih⟩

theorem exists_tells (goes : Until tells most items found) :
    ∀ item ∈ items, ∃ hit, tells item hit := by
  induction goes with
  | spent => simp
  | hit hits =>
    intro item member
    obtain rfl := List.mem_singleton.mp member
    exact ⟨true, hits⟩
  | miss misses _ ih => exact List.forall_mem_cons.mpr ⟨⟨false, misses⟩, ih⟩

end Until

/-! ## The exchanges of a sweep -/

/-- The first answer that frees a nonce is the end of a trace, if there is one. -/
inductive Stops (nonce : UInt64) : Trace → Bool → Prop
  | vain {trace : Trace} (nothing : ∀ answer ∈ nonceAnswers trace, ¬ Frees nonce answer) :
      Stops nonce trace false
  | freed {before : Trace} {answer : Except Failure NonceCounts}
      (nothing : ∀ answer ∈ nonceAnswers before, ¬ Frees nonce answer)
      (frees : Frees nonce answer) : Stops nonce (before ++ [⟨.nonceCounts, answer⟩]) true

namespace Stops

variable {cleared : Bool}

theorem append (nothing : Stops nonce first false) (stops : Stops nonce second cleared) :
    Stops nonce (first ++ second) cleared := by
  obtain ⟨early⟩ := nothing
  cases stops with
  | vain late =>
    refine .vain ?_
    rw [nonceAnswers_append]
    exact List.forall_mem_append.mpr ⟨early, late⟩
  | freed late frees =>
    rw [← List.append_assoc]
    refine .freed ?_ frees
    rw [nonceAnswers_append]
    exact List.forall_mem_append.mpr ⟨early, late⟩

/-- A trace of anything but queries does not free a nonce. -/
theorem of_unasked (unasked : nonceAnswers trace = []) : Stops nonce trace false :=
  .vain (by simp [unasked])

theorem cleared_iff (stops : Stops nonce trace cleared) :
    cleared = true ↔ ∃ answer ∈ nonceAnswers trace, Frees nonce answer := by
  cases stops with
  | vain nothing => simpa using nothing
  | @freed before answer _ frees =>
    refine iff_of_true rfl ⟨answer, ?_, frees⟩
    rw [nonceAnswers_append]
    exact List.mem_append_right _ (List.mem_singleton_self _)

/-- Nothing follows an answer that frees the nonce. -/
theorem last {before after : Trace} {answer : Except Failure NonceCounts}
    (stops : Stops nonce trace cleared) (same : trace = before ++ ⟨.nonceCounts, answer⟩ :: after)
    (frees : Frees nonce answer) : after = [] := by
  have absent {early : Trace} (nothing : ∀ answer ∈ nonceAnswers early, ¬ Frees nonce answer) :
      ⟨.nonceCounts, answer⟩ ∉ early := by
    intro member
    exact nothing answer (List.mem_filterMap.mpr ⟨_, member, rfl⟩) frees
  cases stops with
  | vain nothing => exact absurd (same ▸ by simp) (absent nothing)
  | freed nothing =>
    obtain ⟨more, -, behind⟩ := split_of_notMem (absent nothing) same
    obtain ⟨-, rest⟩ | ⟨_, -, beyond⟩ := List.cons_eq_append_iff.mp behind
    · exact (List.cons.inj rest).2
    · simp at beyond

end Stops

/-- What an answer says of a nonce. -/
def Answers (nonce : UInt64) (answer : Except Failure NonceCounts) (hit : Bool) : Prop :=
  hit = true ↔ Frees nonce answer

/-- Queries of the nonces with these answers, and a wait between any two of them. -/
def checks (interval : Nat) (answers : List (Except Failure NonceCounts)) : Trace :=
  (answers.map fun answer => ⟨.nonceCounts, answer⟩).intersperse ⟨.sleep interval, ()⟩

theorem runs_checkCleared {found : Option Unit} (run : Runs (checkCleared nonce) trace found) :
    ∃ answer, trace = [⟨.nonceCounts, answer⟩] ∧ Answers nonce answer found.isSome := by
  obtain ⟨answer, rest, rfl, ended⟩ := runs_ask_bind_iff.mp run
  cases answer with
  | ok counts =>
    obtain ⟨rfl, rfl⟩ := runs_done_iff.mp ended
    refine ⟨.ok counts, rfl, ?_⟩
    rw [Answers, frees_ok_iff]
    split <;> simp [*]
  | error failure =>
    obtain ⟨rfl, rfl⟩ := runs_done_iff.mp ended
    exact ⟨.error failure, rfl, by simp [Answers, not_frees_error]⟩

theorem checks_of_runs {interval rounds : Nat} {found : Option Unit}
    (run : Runs (pollUntil (sleep interval) (checkCleared nonce) (rounds + 1)) trace found) :
    ∃ answers, trace = checks interval answers ∧
      Until (Answers nonce) (rounds + 1) answers found.isSome := by
  induction rounds generalizing trace with
  | zero =>
    obtain ⟨answer, rfl, tells⟩ := runs_checkCleared run
    refine ⟨[answer], rfl, ?_⟩
    cases found with
    | none => exact .miss tells .spent
    | some => exact .hit tells
  | succ rounds ih =>
    rcases runs_pollUntil_succ_iff.mp run with
      ⟨checked, last⟩ | ⟨left, look, pause, rest, same, rfl, checked, waited, continued⟩
    · obtain ⟨answer, rfl, tells⟩ := runs_checkCleared checked
      cases found with
      | none => cases last rfl
      | some => exact ⟨[answer], rfl, .hit tells⟩
    · obtain rfl : rounds = left := Nat.succ.inj same
      obtain ⟨answer, rfl, tells⟩ := runs_checkCleared checked
      obtain rfl := runs_ask_iff.mp waited
      obtain ⟨answers, rfl, goes⟩ := ih continued
      refine ⟨answer :: answers, ?_, .miss tells goes⟩
      cases answers with
      | nil => cases goes
      | cons => rfl

theorem stops_checks {interval rounds : Nat} {answers : List (Except Failure NonceCounts)}
    {cleared : Bool} (goes : Until (Answers nonce) rounds answers cleared) :
    Stops nonce (checks interval answers) cleared := by
  induction goes with
  | spent => exact .of_unasked rfl
  | @hit _ answer hits =>
    have before : ∀ answer ∈ nonceAnswers [], ¬ Frees nonce answer := by simp [nonceAnswers]
    exact .freed before (hits.mp rfl)
  | @miss _ answer answers _ misses _ ih =>
    have kept : Stops nonce [⟨.nonceCounts, answer⟩] false := by
      refine .vain fun answer' member frees => ?_
      obtain rfl := List.mem_singleton.mp member
      cases misses.mpr frees
    cases answers with
    | nil => exact kept.append ih
    | cons next answers =>
      have waited : Stops nonce [⟨.sleep interval, ()⟩] false := .of_unasked rfl
      exact kept.append (waited.append ih)

/-- What one sweep of a nonce was answered. -/
structure Sweep where
  network : Except Failure Wei
  /-- To the transfer. -/
  transfer : Except Failure Hash
  answers : List (Except Failure NonceCounts)

/-- A sweep frees a nonce if one of its queries does, of which it makes `rounds` at most. -/
def Sweep.Ends (nonce : UInt64) (rounds : Nat) (sweep : Sweep) (hit : Bool) : Prop :=
  Until (Answers nonce) rounds sweep.answers hit

/-- The exchanges of a sweep: a single transfer, whether it is accepted or refused, and then the
queries, the first of them at once. -/
def sweeping (courier : Courier) (nonce : UInt64) (fee : Fee) (sweep : Sweep) : Trace :=
  ⟨.networkPrice, sweep.network⟩ ::
    ⟨.broadcast (emptyTransfer courier.account nonce (raisedFee courier.policy fee sweep.network)),
      sweep.transfer⟩ ::
    checks courier.policy.pollInterval sweep.answers

/-- The exchanges of some sweeps, each of them with a raised fee. -/
def clearing (courier : Courier) (nonce : UInt64) : Fee → List Sweep → Trace
  | _, [] => []
  | fee, sweep :: sweeps =>
    sweeping courier nonce fee sweep ++
      clearing courier nonce (raisedFee courier.policy fee sweep.network) sweeps

theorem clearing_of_runs {attempts : Nat} {cleared : Bool}
    (run : Runs (clearNonce courier nonce attempts fee) trace cleared) :
    ∃ sweeps, trace = clearing courier nonce fee sweeps ∧
      Until (Sweep.Ends nonce (clearRounds courier.policy)) attempts sweeps cleared := by
  induction attempts generalizing trace fee with
  | zero =>
    obtain ⟨rfl, rfl⟩ := runs_done_iff.mp run
    exact ⟨[], rfl, .spent⟩
  | succ attempts ih =>
    obtain ⟨_, raised, _, rfl, asking, continued⟩ := runs_bind_iff.mp run
    obtain ⟨network, asked, rfl⟩ := runs_bind_done_iff.mp asking
    obtain rfl := runs_ask_iff.mp asked
    obtain ⟨transfer, _, rfl, tried⟩ := runs_ask_bind_iff.mp continued
    obtain ⟨_, found, rest, rfl, checked, resumed⟩ := runs_bind_iff.mp tried
    obtain ⟨rounds, same⟩ : ∃ rounds, clearRounds courier.policy = rounds + 1 :=
      Nat.exists_eq_add_one.mpr (Nat.le_max_left _ _)
    rw [same] at checked ih ⊢
    obtain ⟨answers, rfl, goes⟩ := checks_of_runs checked
    cases found with
    | some =>
      obtain ⟨rfl, rfl⟩ := runs_done_iff.mp resumed
      exact ⟨[⟨network, transfer, answers⟩], rfl, .hit goes⟩
    | none =>
      obtain ⟨sweeps, rfl, later⟩ := ih resumed
      exact ⟨⟨network, transfer, answers⟩ :: sweeps, rfl, .miss goes later⟩

theorem stops_clearing {rounds attempts : Nat} {sweeps : List Sweep} {cleared : Bool}
    (goes : Until (Sweep.Ends nonce rounds) attempts sweeps cleared) :
    Stops nonce (clearing courier nonce fee sweeps) cleared := by
  have swept {fee : Fee} {sweep : Sweep} {hit : Bool} (ends : sweep.Ends nonce rounds hit) :
      Stops nonce (sweeping courier nonce fee sweep) hit := by
    let raised := raisedFee courier.policy fee sweep.network
    have tried : Stops nonce [⟨.networkPrice, sweep.network⟩,
        ⟨.broadcast (emptyTransfer courier.account nonce raised), sweep.transfer⟩] false :=
      .of_unasked rfl
    exact tried.append (stops_checks ends)
  induction goes generalizing fee with
  | spent => exact .of_unasked rfl
  | hit hits =>
    rw [clearing, clearing, List.append_nil]
    exact swept hits
  | miss misses _ ih => exact (swept misses).append ih

theorem nonceAnswers_checks (interval : Nat) (answers : List (Except Failure NonceCounts)) :
    nonceAnswers (checks interval answers) = answers := by
  induction answers with
  | nil => rfl
  | cons answer answers ih =>
    cases answers with
    | nil => rfl
    | cons => exact congrArg (List.cons answer) ih

theorem attempts_checks (interval : Nat) (answers : List (Except Failure NonceCounts)) :
    attempts (checks interval answers) = [] := by
  induction answers with
  | nil => rfl
  | cons answer answers ih =>
    cases answers with
    | nil => rfl
    | cons => exact ih

/-- Each sweep tries one transfer. -/
theorem attempts_clearing (courier : Courier) (nonce : UInt64) (fee : Fee) (sweeps : List Sweep) :
    ∃ fees : List Fee, attempts (clearing courier nonce fee sweeps) =
      fees.map (emptyTransfer courier.account nonce) ∧ fees.length = sweeps.length := by
  induction sweeps generalizing fee with
  | nil => exact ⟨[], rfl, rfl⟩
  | cons sweep sweeps ih =>
    let raised := raisedFee courier.policy fee sweep.network
    obtain ⟨fees, tried, count⟩ := ih raised
    have once : attempts (sweeping courier nonce fee sweep) =
        [emptyTransfer courier.account nonce raised] :=
      congrArg (List.cons _) (attempts_checks courier.policy.pollInterval sweep.answers)
    refine ⟨raised :: fees, ?_, congrArg Nat.succ count⟩
    rw [clearing, attempts_append, once, tried]
    rfl

theorem length_nonceAnswers_clearing {rounds attempts : Nat} {sweeps : List Sweep} {cleared : Bool}
    (goes : Until (Sweep.Ends nonce rounds) attempts sweeps cleared) :
    (nonceAnswers (clearing courier nonce fee sweeps)).length ≤ attempts * rounds := by
  have few {fee : Fee} {sweep : Sweep} {hit : Bool} (ends : sweep.Ends nonce rounds hit) :
      (nonceAnswers (sweeping courier nonce fee sweep)).length ≤ rounds := by
    have asked : nonceAnswers (sweeping courier nonce fee sweep) = sweep.answers :=
      nonceAnswers_checks courier.policy.pollInterval sweep.answers
    rw [asked]
    exact ends.length_le
  induction goes generalizing fee with
  | spent => exact Nat.zero_le _
  | hit hits =>
    rw [clearing, clearing, List.append_nil, Nat.succ_mul]
    exact Nat.le_add_left_of_le (few hits)
  | miss misses _ ih =>
    rw [clearing, nonceAnswers_append, List.length_append, Nat.succ_mul, Nat.add_comm]
    exact Nat.add_le_add ih (few misses)

/-- How the nonce of a pending transaction is cleared. -/
structure Sweeps (courier : Courier) (pending : Pending) (sweeps : List Sweep) (trace : Trace)
    (cleared : Bool) : Prop where
  made : trace = clearing courier pending.nonce pending.fee sweeps
  cleared_iff : cleared = true ↔ ∃ answer ∈ nonceAnswers trace, Frees pending.nonce answer
  last : ∀ before answer after, trace = before ++ ⟨.nonceCounts, answer⟩ :: after →
    Frees pending.nonce answer → after = []
  attempts : sweeps.length ≤ courier.policy.dropAttempts.toNat
  queries : ∀ sweep ∈ sweeps, 0 < sweep.answers.length ∧
    sweep.answers.length ≤ max 1 courier.policy.dropWait.toNat
  /-- There is another sweep only after all the queries that are allowed. -/
  full : ∀ sweep ∈ sweeps.dropLast, sweep.answers.length = max 1 courier.policy.dropWait.toNat
  vain : cleared = false → sweeps.length = courier.policy.dropAttempts.toNat ∧
    ∀ sweep ∈ sweeps, sweep.answers.length = max 1 courier.policy.dropWait.toNat

theorem sweeps_of_dropPending {cleared : Bool}
    (run : Runs (dropPending courier pending) trace cleared) :
    ∃ sweeps, Sweeps courier pending sweeps trace cleared := by
  obtain ⟨sweeps, rfl, goes⟩ := clearing_of_runs run
  have stops : Stops pending.nonce (clearing courier pending.nonce pending.fee sweeps) cleared :=
    stops_clearing goes
  obtain ⟨rounds, same⟩ : ∃ rounds, clearRounds courier.policy = rounds + 1 :=
    Nat.exists_eq_add_one.mpr (Nat.le_max_left _ _)
  refine ⟨sweeps, rfl, stops.cleared_iff, fun _ _ _ => stops.last, goes.length_le, ?_, ?_, ?_⟩
  · intro sweep member
    obtain ⟨hit, ends⟩ := goes.exists_tells sweep member
    exact ⟨Until.length_pos (same ▸ ends), ends.length_le⟩
  · intro sweep member
    exact (goes.misses sweep member).vain.1
  · rintro rfl
    obtain ⟨count, missed⟩ := goes.vain
    exact ⟨count, fun sweep member => (missed sweep member).vain.1⟩

end VaultKeeper.Delivery
