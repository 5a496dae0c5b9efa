import VaultKeeper.Proofs.Delivery.Resync
import VaultKeeper.Proofs.Keeper.Cooldown
import VaultKeeper.Proofs.Service.Account

/-! # One nonce after the other

All that a keeper does with its sending account are deliveries, one after the other and whichever
strategies they are for. As long as none of them takes over a nonce from the chain, each first
broadcast has the nonce that follows the one of the first broadcast before it.
-/

namespace VaultKeeper

/-- A delivery that was made: its payload, its exchanges and what came of it. -/
structure Dispatch where
  payload : Delivery.Payload
  trace : Delivery.Trace
  result : Except Failure Receipt

/-- The transaction that a delivery tries first, if it gets so far. -/
def Dispatch.bid? (dispatch : Dispatch) : Option Transaction :=
  (Delivery.attempts dispatch.trace).head?

namespace Delivery

open Program

/-- Exchanges that are those of some deliveries, and readings of the clock between them. -/
inductive Dispatches (courier : Courier) : Trace → List Dispatch → Prop
  | nil : Dispatches courier [] []
  | now (time : UInt64) {trace : Trace} {dispatches : List Dispatch}
      (rest : Dispatches courier trace dispatches) :
      Dispatches courier (⟨.now, time⟩ :: trace) dispatches
  | delivery {dispatch : Dispatch} {trace : Trace} {dispatches : List Dispatch}
      (ran : Runs (courier.deliver dispatch.payload.receiver dispatch.payload.data) dispatch.trace
        dispatch.result)
      (rest : Dispatches courier trace dispatches) :
      Dispatches courier (dispatch.trace ++ trace) (dispatch :: dispatches)

section

variable {courier : Courier} {first second trace : Trace} {early late dispatches : List Dispatch}
  {dispatch : Dispatch} {source target : NonceCounter}

theorem Dispatches.append (before : Dispatches courier first early)
    (after : Dispatches courier second late) :
    Dispatches courier (first ++ second) (early ++ late) := by
  induction before with
  | nil => exact after
  | now time _ ih => exact .now time ih
  | delivery ran _ ih =>
    rw [List.append_assoc]
    exact .delivery ran ih

theorem Dispatches.runs (made : Dispatches courier trace dispatches) :
    ∀ dispatch ∈ dispatches,
      Runs (courier.deliver dispatch.payload.receiver dispatch.payload.data) dispatch.trace
        dispatch.result := by
  induction made with
  | nil => simp
  | now _ _ ih => exact ih
  | delivery ran _ ih => exact List.forall_mem_cons.mpr ⟨ran, ih⟩

/-- A delivery either asks for a fee in vain and leaves it at that, or takes a nonce and tries its
payload with it at once; it takes no other nonce. -/
theorem bid_cases
    (ran : Runs (courier.deliver dispatch.payload.receiver dispatch.payload.data) dispatch.trace
      dispatch.result) :
    (∃ failure, dispatch.trace = [⟨.offeredFee, .error failure⟩]) ∨
      ∃ fee nonce answer rest,
        dispatch.trace = ⟨.offeredFee, .ok fee⟩ :: ⟨.reserveNonce, nonce⟩ ::
          ⟨.broadcast (dispatch.payload.transaction nonce fee), answer⟩ :: rest ∧
        reservations rest = [] := by
  rcases runs_deliver ran with ⟨_, _, failed⟩ | ⟨fee, nonce, hash, time, rest, same, course⟩
  · generalize dispatch.trace = trace at failed
    cases failed with
    | unpriced priced =>
      cases priced
      exact .inl ⟨_, rfl⟩
    | refused priced nonce failure answer =>
      cases priced
      exact .inr ⟨_, nonce, _, _, rfl, rfl⟩
  · refine .inr ⟨fee, nonce, _, _, same, ?_⟩
    exact course.reservations

/-- What a delivery does to the count of nonces: it tries its payload with the next nonce, and the
count goes on from there unless the chain says otherwise. -/
structure Moves (source : NonceCounter) (dispatch : Dispatch) (target : NonceCounter) : Prop where
  idle : dispatch.bid? = none → target = source
  bids : ∀ bid, dispatch.bid? = some bid → bid.nonce = source.next
  advances : ∀ bid, dispatch.bid? = some bid → (∀ nonce, .ok nonce ∉ syncs dispatch.trace) →
    target.next = source.next + 1

theorem moves_of_path
    (ran : Runs (courier.deliver dispatch.payload.receiver dispatch.payload.data) dispatch.trace
      dispatch.result)
    (path : NonceCounter.Path source dispatch.trace target) : Moves source dispatch target := by
  rcases bid_cases ran with ⟨failure, same⟩ | ⟨fee, nonce, answer, rest, same, untaken⟩
  · have none : dispatch.bid? = none := by rw [Dispatch.bid?, same]; rfl
    rw [same] at path
    obtain _ | ⟨offered, _ | _⟩ := path
    cases offered
    exact ⟨fun _ => rfl, by simp [none], by simp [none]⟩
  · have first : dispatch.bid? = some (dispatch.payload.transaction nonce fee) := by
      rw [Dispatch.bid?, same]
      rfl
    rw [same] at path
    obtain _ | ⟨offered, _ | ⟨reserved, _ | ⟨tried, later⟩⟩⟩ := path
    cases offered
    cases tried
    cases reserved with
    | other _ reserves => exact absurd rfl reserves
    | reserve =>
      have bids : ∀ bid, dispatch.bid? = some bid → bid.nonce = source.next := by
        intro bid tried
        cases first.symm.trans tried
        rfl
      refine ⟨by simp [first], bids, fun _ _ unread => ?_⟩
      have unmoved : ∀ nonce, .ok nonce ∉ syncs rest := by
        rw [same] at unread
        exact unread
      rw [later.unmoved untaken unmoved]
      rfl

/-- Between two consecutive first broadcasts the nonce goes up by one, unless it was taken over from
the chain meanwhile. -/
def Successive (dispatches : List Dispatch) : Prop :=
  ∀ early first middle second late bid next,
    dispatches = early ++ first :: (middle ++ second :: late) →
    first.bid? = some bid → (∀ dispatch ∈ middle, dispatch.bid? = none) →
    second.bid? = some next →
    (∀ dispatch ∈ first :: middle, ∀ nonce, .ok nonce ∉ syncs dispatch.trace) →
    next.nonce = bid.nonce + 1

/-- The first of some deliveries that tries its payload does so with the next nonce. -/
theorem nonce_of_path {middle : List Dispatch} {second : Dispatch} {next : Transaction}
    (made : Dispatches courier trace dispatches)
    (path : NonceCounter.Path source trace target)
    (same : dispatches = middle ++ second :: late)
    (idle : ∀ dispatch ∈ middle, dispatch.bid? = none) (bids : second.bid? = some next) :
    next.nonce = source.next := by
  induction made generalizing middle source with
  | nil => simp at same
  | now _ _ ih =>
    cases path with
    | cons step later =>
      cases step
      exact ih later same idle
  | delivery ran _ ih =>
    obtain ⟨between, before, after⟩ := NonceCounter.path_append_iff.mp path
    have moves := moves_of_path ran before
    cases middle with
    | nil =>
      obtain ⟨rfl, -⟩ := List.cons.inj same
      exact moves.bids next bids
    | cons first middle =>
      obtain ⟨rfl, others⟩ := List.cons.inj same
      obtain ⟨none, idle⟩ := List.forall_mem_cons.mp idle
      rw [ih after others idle, moves.idle none]

theorem successive_of_path (made : Dispatches courier trace dispatches)
    (path : NonceCounter.Path source trace target) : Successive dispatches := by
  intro early first middle second late bid next same bids idle nextBids unread
  induction made generalizing early source with
  | nil => simp at same
  | now _ _ ih =>
    cases path with
    | cons step later =>
      cases step
      exact ih later _ same
  | delivery ran rest ih =>
    obtain ⟨between, before, after⟩ := NonceCounter.path_append_iff.mp path
    cases early with
    | nil =>
      obtain ⟨rfl, others⟩ := List.cons.inj same
      have moves := moves_of_path ran before
      have follows : next.nonce = between.next := nonce_of_path rest after others idle nextBids
      rw [follows, moves.advances bid bids (unread _ List.mem_cons_self), moves.bids bid bids]
    | cons _ early =>
      obtain ⟨rfl, others⟩ := List.cons.inj same
      exact ih after _ others

/-- What a step asks of the surroundings of deliveries are its deliveries and the time. -/
theorem dispatches_of_expands {calls : Task.Trace} {steps : List (Exchange Step)}
    (plans : ∀ exchange ∈ calls, exchange.call.Plans)
    (expands : Expands (Task.carryOut courier) calls steps) :
    ∃ dispatches, Dispatches courier (Cycle.dealings (steps.map Cycle.lift)) dispatches := by
  induction calls generalizing steps with
  | nil =>
    cases expands
    exact ⟨[], .nil⟩
  | cons exchange calls ih =>
    obtain ⟨own, others⟩ := List.forall_mem_cons.mp plans
    obtain ⟨call, answer⟩ := exchange
    cases call with
    | step call =>
      change Expands _ (Task.own ⟨call, answer⟩ :: calls) steps at expands
      obtain ⟨rest, rfl, expanded⟩ := Task.expands_own_iff.mp expands
      obtain ⟨dispatches, made⟩ := ih others expanded
      cases call with
      | delivery request =>
        obtain rfl : request = .now := own
        exact ⟨dispatches, .now answer made⟩
      | _ => exact ⟨dispatches, made⟩
    | deliver receiver data =>
      obtain ⟨delivery, rest, rfl, ran, expanded⟩ := Task.expands_handing_iff.mp expands
      obtain ⟨dispatches, made⟩ := ih others expanded
      have dealt : Cycle.dealings ((delivery.map Task.delivered).map Cycle.lift) = delivery := by
        simp [Cycle.dealings, List.filterMap_map, Function.comp_def, Cycle.lift, Task.delivered,
          Cycle.dealing?]
      let dispatch : Dispatch := ⟨⟨receiver, data⟩, delivery, answer⟩
      have ran : Runs (courier.deliver dispatch.payload.receiver dispatch.payload.data)
        dispatch.trace dispatch.result := ran
      refine ⟨dispatch :: dispatches, ?_⟩
      rw [List.map_append, Cycle.dealings_append, dealt]
      exact .delivery ran made

/-- All that a keeper does with its account are deliveries. -/
theorem dispatches_of_journey {keeper : Keeper} {journal after : Journal}
    {visits : List Cycle.Visit} {calls : Cycle.Trace}
    (journey : Cycle.Journey keeper journal visits calls after) :
    ∃ dispatches, Dispatches keeper.courier (Cycle.dealings calls) dispatches := by
  induction journey with
  | nil => exact ⟨[], .nil⟩
  | begin _ ih => exact ih
  | @aside _ _ _ trace exchange own _ ih =>
    obtain ⟨call, answer⟩ := exchange
    have apart : Cycle.dealing? ⟨call, answer⟩ = none := by
      cases call with
      | step call =>
        cases call with
        | notify => rfl
        | _ => cases own
      | _ => rfl
    rw [Cycle.dealings, List.filterMap_cons_none apart]
    exact ih
  | visit taken _ ih =>
    obtain ⟨late, after⟩ := ih
    have plans := Task.calls_process _ _ _ _ _ taken.planned
    obtain ⟨early, before⟩ := dispatches_of_expands plans taken.carriedOut
    rw [Cycle.dealings_append]
    exact ⟨early ++ late, before.append after⟩

end

end Delivery

namespace Keeper

open Program VaultKeeper.Cycle

/-- Along every run each delivery reads the nonce from the chain where it has to and nowhere else,
and each first broadcast has the nonce that follows the one before it, unless that was taken over
from the chain meanwhile. This holds for every account that counts its nonces, and the service
does. -/
theorem runFrom_nonces {keeper : Keeper} {limit : Nat} {poller : Poller} {journal : Journal}
    {calls : Cycle.Trace} {tallies : List Tally}
    (run : Runs (keeper.runFrom limit poller journal) calls tallies) :
    (∃ dispatches, Delivery.Dispatches keeper.courier (dealings calls) dispatches) ∧
    (∀ dispatches, Delivery.Dispatches keeper.courier (dealings calls) dispatches →
      (∀ dispatch ∈ dispatches,
        Delivery.Resyncs keeper.courier dispatch.payload dispatch.trace dispatch.result ∧
        ∀ source target, NonceCounter.Path source dispatch.trace target →
          Delivery.Moves source dispatch target) ∧
      ∀ source target, NonceCounter.Path source (dealings calls) target →
        Delivery.Successive dispatches) ∧
    ∀ (service : Service) (before after : ServiceState) (hosted : List (Exchange Host)),
      Threads service.onCycle before calls hosted after →
      NonceCounter.Path before.sender.nonces (dealings calls) after.sender.nonces := by
  obtain ⟨visits, after, journey⟩ := journey_runFrom run
  refine ⟨Delivery.dispatches_of_journey journey, fun dispatches made => ⟨?_, ?_⟩, ?_⟩
  · intro dispatch member
    have ran := made.runs dispatch member
    exact ⟨Delivery.resyncs_of_runs ran, fun _ _ path => Delivery.moves_of_path ran path⟩
  · intro source target path
    exact Delivery.successive_of_path made path
  · intro service before after hosted threads
    exact Service.path_of_onCycle threads

/-- A keeper that never waits between two rebalances. -/
def restless : Keeper :=
  { lone with settings := { lone.settings with rebalanceCooldown := 0 } }

/-- A delivery whose first broadcast is refused and whose nonce cannot be read afterwards. -/
def rebuff (strategy : Address) (nonce : UInt64) : Dispatch where
  payload := ⟨strategy, Contract.rebalanceCalldata⟩
  trace := [⟨.offeredFee, .ok (.legacy 3)⟩, ⟨.reserveNonce, nonce⟩,
    ⟨.broadcast (Delivery.Payload.transaction ⟨strategy, Contract.rebalanceCalldata⟩ nonce
      (.legacy 3)), .error (.transient .unreachable)⟩,
    ⟨.syncNonce, .error (.transient .unreachable)⟩]
  result := .error (.transient .unreachable)

theorem runs_rebuff (strategy : Address) (nonce : UInt64) :
    Runs (restless.courier.deliver (rebuff strategy nonce).payload.receiver
      (rebuff strategy nonce).payload.data) (rebuff strategy nonce).trace
      (rebuff strategy nonce).result :=
  .call (.call (.call (.call (.done _))))

/-- A step that makes such a delivery. -/
def rebuffSteps (strategy : Address) (nonce : UInt64) : List (Exchange Step) :=
  [⟨.delivery .now, 1000⟩, ⟨.position strategy, .ok shifted⟩, ⟨.isPaused 4 strategy, .ok false⟩] ++
    (rebuff strategy nonce).trace.map Task.delivered ++ [⟨.delivery .now, 1001⟩,
    ⟨.notify (Step.failureMessage ⟨"lone", 3, some 4, strategy, .uniswapV3⟩
      (.chain (.transient .unreachable))), ()⟩]

/-- A run of one cycle with two such steps. -/
def rebuffedRun : Cycle.Trace :=
  [⟨.timer .stopRequested, false⟩, ⟨.timer .stopRequested, false⟩,
    ⟨.registry (.splitterOf 3), .ok (some 4)⟩, ⟨.registry (.strategiesOf 4), .ok [5, 8]⟩,
    ⟨.timer .stopRequested, false⟩] ++ (rebuffSteps 5 4).map lift ++
    [⟨.timer .stopRequested, false⟩] ++ (rebuffSteps 8 5).map lift ++
    [⟨.report ⟨1, 1, 2, 0, 0, 0, 2⟩, ()⟩]

theorem runs_rebuffedRun :
    Runs (restless.runFrom 1 (Poller.start ⟨60000, none⟩) Journal.empty) rebuffedRun
      [⟨1, 1, 2, 0, 0, 0, 2⟩] := by
  iterate 25 refine .call ?_
  exact .done _

theorem dispatches_rebuffedRun :
    Delivery.Dispatches restless.courier (dealings rebuffedRun) [rebuff 5 4, rebuff 8 5] :=
  .now 1000 (.delivery (runs_rebuff 5 4) (.now 1001
    (.now 1000 (.delivery (runs_rebuff 8 5) (.now 1001 .nil)))))

theorem path_rebuffedRun : NonceCounter.Path ⟨4, 4⟩ (dealings rebuffedRun) ⟨6, 4⟩ := by
  have pass {source target : NonceCounter} {call : Delivery.Call}
      {answer : Interface.Answer Delivery call} {rest : Delivery.Trace}
      (later : NonceCounter.Path source rest target) (reserves : call ≠ .reserveNonce)
      (syncs : call ≠ .syncNonce) : NonceCounter.Path source (⟨call, answer⟩ :: rest) target :=
    .cons (.other source answer reserves syncs) later
  have rebuffed (strategy : Address) {counter target : NonceCounter} {rest : Delivery.Trace}
      (later : NonceCounter.Path ⟨counter.next + 1, counter.lastSynced⟩ rest target) :
      NonceCounter.Path counter (⟨.now, 1000⟩ :: ((rebuff strategy counter.next).trace ++
        ⟨.now, 1001⟩ :: rest)) target := by
    refine pass (pass (.cons (.reserve counter) (pass ?_ nofun nofun)) nofun nofun) nofun nofun
    exact .cons (.unread _ _) (pass later nofun nofun)
  exact rebuffed 5 (rebuffed 8 (.nil _))

/-- Two first broadcasts are refused, and the nonce cannot be read after either: the second has the
nonce after the first. -/
theorem runFrom_nonces_rebuffed :
    Runs (restless.runFrom 1 (Poller.start ⟨60000, none⟩) Journal.empty) rebuffedRun
        [⟨1, 1, 2, 0, 0, 0, 2⟩] ∧
      Delivery.Dispatches restless.courier (dealings rebuffedRun) [rebuff 5 4, rebuff 8 5] ∧
      NonceCounter.Path ⟨4, 4⟩ (dealings rebuffedRun) ⟨6, 4⟩ ∧
      Delivery.Successive [rebuff 5 4, rebuff 8 5] := by
  obtain ⟨-, dealt, -⟩ := runFrom_nonces runs_rebuffedRun
  obtain ⟨-, successive⟩ := dealt _ dispatches_rebuffedRun
  exact ⟨runs_rebuffedRun, dispatches_rebuffedRun, path_rebuffedRun,
    successive _ _ path_rebuffedRun⟩

end Keeper

end VaultKeeper
