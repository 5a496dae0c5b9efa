import VaultKeeper.Proofs.Delivery.Submission
import VaultKeeper.Service.Basic

/-! # The nonce of the sending account

A service counts the nonces of its account by itself. Only two calls of a delivery move the count:
reserving a nonce, and reading it from the chain if the chain answers.
-/

namespace VaultKeeper

open Program

namespace NonceCounter

/-- How an exchange of a delivery moves the count. -/
inductive Step : NonceCounter → Exchange Delivery → NonceCounter → Prop
  | reserve (counter : NonceCounter) :
      Step counter ⟨.reserveNonce, counter.next⟩ counter.reserve.2
  | reset (counter : NonceCounter) (nonce : UInt64) :
      Step counter ⟨.syncNonce, .ok nonce⟩ (counter.reset nonce)
  | unread (counter : NonceCounter) (failure : Failure) :
      Step counter ⟨.syncNonce, .error failure⟩ counter
  | other (counter : NonceCounter) {call : Delivery.Call} (answer : Interface.Answer Delivery call)
      (reserves : call ≠ .reserveNonce) (syncs : call ≠ .syncNonce) :
      Step counter ⟨call, answer⟩ counter

/-- How the exchanges of a delivery move the count, one after the other. -/
inductive Path : NonceCounter → Delivery.Trace → NonceCounter → Prop
  | nil (counter : NonceCounter) : Path counter [] counter
  | cons {source middle target : NonceCounter} {exchange : Exchange Delivery}
      {rest : Delivery.Trace} (step : Step source exchange middle)
      (later : Path middle rest target) :
      Path source (exchange :: rest) target

/-- No nonce is skipped: the next one is what it was, or what the chain said. -/
def Keeps (before : NonceCounter) (trace : Delivery.Trace) (after : NonceCounter) : Prop :=
  after.next = before.next ∨ .ok after.next ∈ Delivery.syncs trace

variable {source target other : NonceCounter} {payload : Delivery.Payload} {fee : Option Fee}
  {trace rest : Delivery.Trace} {failure : Failure}

/-- The count moves through some exchanges and then through the others. -/
theorem path_append_iff :
    Path source (trace ++ rest) target ↔
      ∃ middle, Path source trace middle ∧ Path middle rest target := by
  constructor
  · intro path
    induction trace generalizing source with
    | nil => exact ⟨source, .nil source, path⟩
    | cons exchange trace ih =>
      cases path with
      | cons step later =>
        obtain ⟨middle, before, after⟩ := ih later
        exact ⟨middle, .cons step before, after⟩
  · rintro ⟨middle, before, after⟩
    induction before with
    | nil => exact after
    | cons step _ ih => exact .cons step (ih after)

theorem Step.unique {exchange : Exchange Delivery} (step : Step source exchange target)
    (again : Step source exchange other) : other = target := by
  cases step with
  | reserve =>
    cases again with
    | reserve => rfl
    | other _ reserves => exact absurd rfl reserves
  | reset =>
    cases again with
    | reset => rfl
    | other _ _ syncs => exact absurd rfl syncs
  | unread =>
    cases again with
    | unread => rfl
    | other _ _ syncs => exact absurd rfl syncs
  | other _ reserves syncs =>
    cases again with
    | reserve => exact absurd rfl reserves
    | reset | unread => exact absurd rfl syncs
    | other => rfl

theorem Path.unique (path : Path source trace target) (again : Path source trace other) :
    other = target := by
  induction path with
  | nil =>
    cases again
    rfl
  | cons step _ ih =>
    cases again with
    | cons step' later' =>
      obtain rfl := step.unique step'
      exact ih later'

/-- Where no nonce is taken and none is read from the chain, the count can stay. -/
theorem path_self (untaken : Delivery.reservations trace = [])
    (unread : ∀ nonce, .ok nonce ∉ Delivery.syncs trace) : Path source trace source := by
  induction trace with
  | nil => exact .nil source
  | cons exchange trace ih =>
    obtain ⟨call, answer⟩ := exchange
    match call, answer with
    | .reserveNonce, _ => cases untaken
    | .syncNonce, .ok nonce => exact absurd List.mem_cons_self (unread nonce)
    | .syncNonce, .error failure =>
      refine .cons (.unread source failure) (ih untaken fun nonce member => ?_)
      exact unread nonce (List.mem_cons_of_mem _ member)
    | .offeredFee, _ | .networkPrice, _ | .broadcast _, _ | .receipt _, _ | .nonceCounts, _
    | .now, _ | .sleep _, _ => exact .cons (.other source _ nofun nofun) (ih untaken unread)

/-- Where no nonce is taken and none is read from the chain, the count stays. -/
theorem Path.unmoved (path : Path source trace target) (untaken : Delivery.reservations trace = [])
    (unread : ∀ nonce, .ok nonce ∉ Delivery.syncs trace) : target = source :=
  (path_self untaken unread).unique path

/-- The fee of a submission has no influence on the count. -/
theorem Path.of_pricing {offer : Except Failure Fee} (priced : Delivery.Pricing fee trace offer)
    (path : Path source (trace ++ rest) target) : Path source rest target := by
  cases priced with
  | given => exact path
  | offered =>
    cases path with
    | cons step later =>
      cases step with
      | other => exact later

/-- Where a submission is refused, the nonce that it took is the next one of before, and the count
goes on from there unless the chain answers. -/
theorem Path.of_refused {transaction : Transaction} {nonce : UInt64}
    {answer : Except Failure UInt64}
    (path : Path source [⟨.reserveNonce, nonce⟩, ⟨.broadcast transaction, .error failure⟩,
      ⟨.syncNonce, answer⟩] target) :
    nonce = source.next ∧ target.next = answer.toOption.getD (source.next + 1) := by
  obtain _ | ⟨reserved, _ | ⟨tried, _ | ⟨synced, _ | _⟩⟩⟩ := path
  cases tried
  cases reserved with
  | other _ reserves => exact absurd rfl reserves
  | reserve =>
    cases synced with
    | reset | unread => exact ⟨rfl, rfl⟩
    | other _ _ syncs => exact absurd rfl syncs

/-- A submission that fails keeps the count exactly if the chain was not asked for it in vain;
otherwise it skips the nonce of the one transaction that it tried. -/
theorem Path.of_submission (path : Path source trace target)
    (submission : Delivery.Submission payload fee trace (.error failure)) :
    (Keeps source trace target ↔ ∀ reason, .error reason ∉ Delivery.syncs trace) ∧
      ∀ reason, .error reason ∈ Delivery.syncs trace →
        target.next = source.next + 1 ∧
        ∃ transaction, Delivery.attempts trace = [transaction] ∧
          transaction.nonce = source.next := by
  cases submission with
  | unpriced priced =>
    have same : target = source := by
      rw [← List.append_nil trace] at path
      cases path.of_pricing priced
      rfl
    have syncs : Delivery.syncs trace = [] := by cases priced; rfl
    rw [syncs]
    exact ⟨⟨fun _ => nofun, fun _ => .inl (congrArg next same)⟩, nofun⟩
  | @refused pricing price priced nonce _ answer =>
    obtain ⟨rfl, next⟩ := (path.of_pricing priced).of_refused
    generalize taken : pricing ++ [⟨.reserveNonce, source.next⟩,
      ⟨.broadcast (payload.transaction source.next price), .error failure⟩,
      ⟨.syncNonce, answer⟩] = trace
    have syncs : Delivery.syncs trace = [answer] := by subst taken; cases priced <;> rfl
    have attempts : Delivery.attempts trace = [payload.transaction source.next price] := by
      subst taken; cases priced <;> rfl
    rw [Keeps, syncs, attempts]
    cases answer with
    | ok count =>
      change target.next = count at next
      simp [next]
    | error reason =>
      change target.next = source.next + 1 at next
      have skips : target.next ≠ source.next := by simp [next]
      exact ⟨by simp [skips], fun _ _ => ⟨next, _, rfl, rfl⟩⟩

end NonceCounter

/-- What a host relays to a node is a run of the program that asks. -/
theorem Host.runs_of_ofNode {α : Type} {url : String} {limit : Nat} {program : Program Node α}
    {trace : List (Exchange Host)} {a : α} (run : Runs (ofNode url limit program) trace a) :
    ∃ calls, Runs program calls a := by
  obtain ⟨⟨_, deadline⟩, threaded, rfl⟩ := runs_bind_done_iff.mp run
  obtain ⟨calls, ran, _⟩ := runs_interpret_run_iff.mp threaded
  exact ⟨calls, ran⟩

namespace Service

variable {service : Service} {before after : ServiceState} {trace : List (Exchange Host)} {α : Type}

theorem runs_lift_iff {program : Program Host α} {answer : α} :
    Runs ((monadLift program : Serve α).run before) trace (answer, after) ↔
      Runs program trace answer ∧ after = before := by
  refine Iff.trans runs_bind_done_iff ⟨?_, ?_⟩
  · rintro ⟨value, ran, same⟩
    cases same
    exact ⟨ran, rfl⟩
  · rintro ⟨ran, rfl⟩
    exact ⟨answer, ran, rfl⟩

theorem runs_node_iff {program : Program Node α} {answer : α} :
    Runs ((service.node program).run before) trace (answer, after) ↔
      Runs (Host.ofNode service.url service.timeout program) trace answer ∧ after = before :=
  runs_lift_iff

theorem runs_withSender_iff {run : Sender → Program Node (α × Sender)} {answer : α} :
    Runs ((service.withSender run).run before) trace (answer, after) ↔
      ∃ sender, Runs (Host.ofNode service.url service.timeout (run before.sender)) trace
        (answer, sender) ∧ after = { before with sender } := by
  refine Iff.trans runs_bind_done_iff ⟨?_, ?_⟩
  · rintro ⟨⟨⟨value, sender⟩, state⟩, ran, same⟩
    obtain ⟨ran, rfl⟩ := runs_node_iff.mp ran
    cases same
    exact ⟨sender, ran, rfl⟩
  · rintro ⟨sender, ran, rfl⟩
    exact ⟨((answer, sender), before), runs_node_iff.mpr ⟨ran, rfl⟩, rfl⟩

/-- Fetching an offer leaves the count alone. -/
theorem nonces_offeredFee {sender later : Sender} {calls : List (Exchange Node)}
    {answer : Except Failure Fee} (run : Runs sender.offeredFee calls (answer, later)) :
    later.nonces = sender.nonces := by
  obtain ⟨_, ⟨fetched, source⟩, _, rfl, _, ended⟩ := runs_bind_iff.mp run
  obtain ⟨_, same⟩ := runs_done_iff.mp ended
  cases same
  rfl

/-- Reading the nonce takes it over if there is an answer. -/
theorem step_syncNonce {sender later : Sender} {calls : List (Exchange Node)}
    {answer : Except Failure UInt64} (run : Runs sender.syncNonce calls (answer, later)) :
    NonceCounter.Step sender.nonces ⟨.syncNonce, answer⟩ later.nonces := by
  obtain ⟨_, read, _, rfl, _, ended⟩ := runs_bind_iff.mp run
  cases read with
  | error failure =>
    obtain ⟨_, same⟩ := runs_done_iff.mp ended
    cases same
    exact .unread _ failure
  | ok nonce =>
    obtain ⟨_, same⟩ := runs_done_iff.mp ended
    cases same
    exact .reset _ nonce

/-- Every answer to a delivery moves the count as its exchange says. -/
theorem step_onDelivery {call : Delivery.Call} {answer : Interface.Answer Delivery call}
    (run : Runs ((service.onDelivery call).run before) trace (answer, after)) :
    NonceCounter.Step before.sender.nonces ⟨call, answer⟩ after.sender.nonces := by
  cases call with
  | reserveNonce =>
    obtain ⟨_, same⟩ := runs_done_iff.mp run
    cases same
    exact .reserve _
  | syncNonce =>
    obtain ⟨sender, ran, rfl⟩ := runs_withSender_iff.mp run
    obtain ⟨calls, asked⟩ := Host.runs_of_ofNode ran
    exact step_syncNonce asked
  | offeredFee =>
    obtain ⟨sender, ran, rfl⟩ := runs_withSender_iff.mp run
    obtain ⟨calls, asked⟩ := Host.runs_of_ofNode ran
    have same : ({ before with sender } : ServiceState).sender.nonces = before.sender.nonces :=
      nonces_offeredFee asked
    rw [same]
    exact .other _ answer nofun nofun
  | networkPrice | broadcast | receipt | nonceCounts =>
    obtain ⟨_, rfl⟩ := runs_node_iff.mp run
    exact .other _ answer nofun nofun
  | now =>
    obtain ⟨_, ⟨time, state⟩, _, rfl, asked, ended⟩ := runs_bind_iff.mp run
    obtain ⟨_, rfl⟩ := runs_lift_iff.mp asked
    obtain ⟨_, same⟩ := runs_done_iff.mp ended
    cases same
    exact .other _ _ nofun nofun
  | sleep =>
    obtain ⟨_, rfl⟩ := runs_lift_iff.mp run
    exact .other _ answer nofun nofun

theorem path_of_threads {calls : Delivery.Trace}
    (threads : Threads service.onDelivery before calls trace after) :
    NonceCounter.Path before.sender.nonces calls after.sender.nonces := by
  induction threads with
  | nil => exact .nil _
  | cons handled _ ih => exact .cons (step_onDelivery handled) ih

/-- A submission that fails keeps the next nonce of the account exactly if the chain was not asked
for it in vain. Otherwise the nonce of the transaction that was refused is skipped. -/
theorem submit_error_nonce {receiver : Address} {data : Bytes} {fee : Option Fee}
    {failure : Failure}
    (run : Runs (((Courier.submit receiver data fee).interpret service.onDelivery).run before) trace
      (.error failure, after)) :
    ∃ calls, Runs (Courier.submit receiver data fee) calls (.error failure) ∧
      Threads service.onDelivery before calls trace after ∧
      (before.sender.nonces.Keeps calls after.sender.nonces ↔
        ∀ reason, .error reason ∉ Delivery.syncs calls) ∧
      ∀ reason, .error reason ∈ Delivery.syncs calls →
        after.sender.nonces.next = before.sender.nonces.next + 1 ∧
        ∃ transaction, Delivery.attempts calls = [transaction] ∧
          transaction.nonce = before.sender.nonces.next := by
  obtain ⟨calls, submitted, threads⟩ := runs_interpret_run_iff.mp run
  let payload : Delivery.Payload := ⟨receiver, data⟩
  have submission : Delivery.Submission payload fee calls (.error failure) :=
    Delivery.submission_of_runs submitted
  exact ⟨calls, submitted, threads, (path_of_threads threads).of_submission submission⟩

/-- A service whose node never answers in time. -/
def stranded : Service where
  logger := ⟨LogFilter.default, .text⟩
  url := "http://localhost"
  timeout := 1000
  reader := ⟨1, 2, ⟨0, 0⟩, 1000⟩
  aggregators := []
  quotes := ⟨[], 0, .default⟩
  keeper := ⟨⟨7, .default, Courier.defaultPolling⟩, .default, []⟩

/-- Its state, with a next nonce. -/
def strandedAt (nonce : UInt64) : ServiceState where
  sender :=
    { account := 7, chainId := 1, gasLimit := 21000, timeout := 1000,
      source := ⟨Pricing.fallback, 0⟩, cached := none, nonces := ⟨nonce, 4⟩ }
  channels := []
  isAnnounced := false

/-- Neither the broadcast nor the nonce is answered in time. -/
def silence : List (Exchange Host) :=
  [⟨.node "http://localhost" 1000 (.send
      ((strandedAt 5).sender.sign ⟨1, [2], 0, 4, .legacy 3, none⟩)), none⟩,
    ⟨.node "http://localhost" 1000 (.transactionCount 7 .pending), none⟩]

theorem runs_silence :
    Runs (((Courier.submit 1 [2] (some (.legacy 3))).interpret stranded.onDelivery).run
      (strandedAt 4)) silence
      (.error (.timeout "eth_sendRawTransaction" 1000), strandedAt 5) :=
  .call (.call (.done _))

theorem submit_error_nonce_silence :
    Runs (((Courier.submit 1 [2] (some (.legacy 3))).interpret stranded.onDelivery).run
        (strandedAt 4)) silence
        (.error (.timeout "eth_sendRawTransaction" 1000), strandedAt 5) ∧
      ∃ calls, Runs (Courier.submit 1 [2] (some (.legacy 3))) calls
          (.error (.timeout "eth_sendRawTransaction" 1000)) ∧
        Threads stranded.onDelivery (strandedAt 4) calls silence (strandedAt 5) ∧
        ((strandedAt 4).sender.nonces.Keeps calls (strandedAt 5).sender.nonces ↔
          ∀ reason, .error reason ∉ Delivery.syncs calls) ∧
        ∀ reason, .error reason ∈ Delivery.syncs calls →
          (strandedAt 5).sender.nonces.next = (strandedAt 4).sender.nonces.next + 1 ∧
          ∃ transaction, Delivery.attempts calls = [transaction] ∧
            transaction.nonce = (strandedAt 4).sender.nonces.next :=
  ⟨runs_silence, submit_error_nonce runs_silence⟩

end Service

end VaultKeeper
