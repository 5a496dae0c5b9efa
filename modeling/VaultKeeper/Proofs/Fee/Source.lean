import VaultKeeper.Fee.Source
import VaultKeeper.Proofs.Fee
import VaultKeeper.Proofs.Program.Expansion

/-! # What a fetch can come to

Whatever a node answers, an offer that is put together from it stays within the cap of the pricing,
and its tip within its price. A fetch that comes to nothing may still change what is remembered, but
no fetch changes the pricing.
-/

namespace VaultKeeper

namespace Rpc

open Program

variable {α : Type} {operation : String} {limit : Nat} {request : Request}
  {read : Json → Option α} {trace : List (Exchange Node)} {response : Option Http.Response}

/-- A call is one exchange with the node, whose response is read. -/
theorem runs_fetch_iff {answer : Except Failure α} :
    Runs (fetch operation limit request read) trace answer ↔
      ∃ response, trace = [⟨.node request, response⟩] ∧
        answer = reading operation limit read response := by
  constructor
  · intro run
    obtain ⟨response, rest, rfl, settled⟩ := runs_ask_bind_iff.mp run
    obtain ⟨rfl, rfl⟩ := runs_done_iff.mp settled
    exact ⟨response, rfl, rfl⟩
  · rintro ⟨response, rfl, rfl⟩
    exact .call (.done _)

/-- A call fails by its deadline exactly if there is no response. -/
theorem isTimeout_reading_iff :
    FeeSource.isTimeout (reading operation limit read response) = true ↔ response = none := by
  match response with
  | none => exact iff_of_true rfl rfl
  | some .failed => exact iff_of_false nofun nofun
  | some (.answered code body) =>
    refine iff_of_false ?_ nofun
    unfold reading outcome
    dsimp only
    split
    · cases readBody body with
      | error cause => nofun
      | ok result =>
        change FeeSource.isTimeout (expect (read result)) ≠ true
        cases read result with
        | none => nofun
        | some value => nofun
    · nofun

theorem isTimeout_reading_eq_false_iff :
    FeeSource.isTimeout (reading operation limit read response) = false ↔ response ≠ none := by
  rw [← Bool.not_eq_true, isTimeout_reading_iff]

end Rpc

/-- A node responds to each request in the same way throughout. -/
def Node.Responds (responses : Rpc.Request → Option Http.Response)
    (trace : List (Exchange Node)) : Prop :=
  ∀ exchange ∈ trace, match exchange with
    | ⟨.node request, response⟩ | ⟨.opening request, response⟩ | ⟨.further request, response⟩ =>
      response = responses request
    | ⟨.sleep _, _⟩ | ⟨.panic _, _⟩ => True

/-- The most that a fetched offer may ask for. -/
def Pricing.cap : Pricing → Wei
  | legacy _ cap => cap
  | dynamic _ _ cap => cap

/-- The price stays within a cap, and the tip within the price. -/
structure Fee.Within (fee : Fee) (cap : Wei) : Prop where
  price : fee.effective.toNat ≤ cap.toNat
  tip : fee.TipFits

namespace Pricing

/-- The configured maximum is the cap of both models. -/
theorem cap_ofModel (model : String) (default max : Float) (priority : Option Float) :
    (Pricing.ofModel model default max priority).cap = Wei.ofGwei max := by
  unfold Pricing.ofModel
  dsimp only
  split
  · rfl
  · rfl

/-- The scaled base fee and the tip, without any bound. -/
def total (multiplier : Float) (baseFee tip : Wei) : Nat :=
  (Wei.ofFloat (baseFee.toFloat * multiplier)).toNat + tip.toNat

/-- The sum of the scaled base fee and the tip does not fit into 128 bits. -/
def Overflows (multiplier : Float) (baseFee tip : Wei) : Prop :=
  (BitVec.allOnes 128).toNat < total multiplier baseFee tip

variable {multiplier : Float} {cap baseFee tip maxFee : Wei}

theorem uaddOverflow_iff :
    BitVec.uaddOverflow (Wei.ofFloat (baseFee.toFloat * multiplier)) tip = true ↔
      Overflows multiplier baseFee tip := by
  rw [BitVec.uaddOverflow, decide_eq_true_iff, Overflows, BitVec.toNat_allOnes, total]
  omega

theorem maxFee?_eq_none_iff :
    maxFee? multiplier cap baseFee tip = none ↔ Overflows multiplier baseFee tip := by
  rw [← uaddOverflow_iff, maxFee?]
  split <;> simp [*]

/-- There is a maximum fee exactly if the sum fits, and then it is the sum, up to the cap. -/
theorem maxFee?_eq_some_iff :
    maxFee? multiplier cap baseFee tip = some maxFee ↔
      ¬Overflows multiplier baseFee tip ∧
        maxFee.toNat = Nat.min (total multiplier baseFee tip) cap.toNat := by
  rw [← uaddOverflow_iff, maxFee?]
  split
  case isTrue overflows => simp [overflows]
  case isFalse fits =>
    have value : ((Wei.ofFloat (baseFee.toFloat * multiplier) + tip).min cap).toNat =
        Nat.min (total multiplier baseFee tip) cap.toNat := by
      rw [Wei.toNat_min, BitVec.toNat_add_of_not_uaddOverflow fits]
      rfl
    rw [← value, Option.some_inj, eq_comm, BitVec.toNat_inj]
    exact (and_iff_right fits).symm

end Pricing

namespace FeeSource

open Program

section

variable {source after : FeeSource} {default cap : Wei} {answer : Except Failure Wei}

theorem within_offerPrice : (source.offerPrice default cap answer).1.Within cap :=
  ⟨Wei.toNat_min_le_right _ _, Nat.zero_le _⟩

theorem pricing_offerPrice : (source.offerPrice default cap answer).2.pricing = source.pricing :=
  rfl

theorem within_offerDynamic? {tip baseFee : Wei} {multiplier : Float} {fee : Fee}
    (offered : offerDynamic? tip multiplier cap baseFee answer = some fee) : fee.Within cap := by
  obtain ⟨maxFee, found, rfl⟩ := Option.map_eq_some_iff.mp offered
  have value := (Pricing.maxFee?_eq_some_iff.mp found).2
  exact ⟨value ▸ Nat.min_le_right _ _, Wei.toNat_min_le_right _ _⟩

theorem offerDynamic?_eq_none_iff {tip baseFee : Wei} {multiplier : Float} :
    offerDynamic? tip multiplier cap baseFee answer = none ↔
      Pricing.Overflows multiplier baseFee (wantedTip tip answer) :=
  Option.map_eq_none_iff.trans Pricing.maxFee?_eq_none_iff

end

/-- What holds of a source after a fetch, and of the offer if there is one. -/
structure Fetched (source : FeeSource) (fetched : Except Failure Fee) (after : FeeSource) :
    Prop where
  pricing : after.pricing = source.pricing
  within : ∀ fee, fetched = .ok fee → fee.Within source.pricing.cap

section

variable {source after : FeeSource} {limit : Nat} {trace : List (Exchange Node)}
  {fetched : Except Failure Fee} {default tip cap : Wei} {multiplier : Float}
  {block response : Option Http.Response}

/-- A response to the question for a tip leads to an offer or to a panic. -/
theorem concludeDynamic_of_response {baseFee : Wei} (answered : response ≠ none) :
    source.concludeDynamic limit tip multiplier cap baseFee
        (Rpc.reading operation limit Rpc.readWei response) =
      match offerDynamic? tip multiplier cap baseFee
        (Rpc.reading operation limit Rpc.readWei response) with
      | some fee => .done (.ok fee, source)
      | none => Node.panic Pricing.overflow := by
  have settled : isTimeout (Rpc.reading operation limit Rpc.readWei response) = false :=
    Rpc.isTimeout_reading_eq_false_iff.mpr answered
  exact if_neg (by simp [settled])

theorem runs_concludeDynamic_iff {baseFee : Wei} :
    Runs (source.concludeDynamic limit tip multiplier cap baseFee
        (Rpc.reading operation limit Rpc.readWei response)) trace (fetched, after) ↔
      trace = [] ∧ after = source ∧
        (response = none ∧ fetched = .error (.timeout operation limit) ∨
          response ≠ none ∧ ∃ fee, fetched = .ok fee ∧
            offerDynamic? tip multiplier cap baseFee
              (Rpc.reading operation limit Rpc.readWei response) = some fee) := by
  by_cases missing : response = none
  · subst missing
    have settled : source.concludeDynamic limit tip multiplier cap baseFee
        (Rpc.reading operation limit Rpc.readWei none) =
          .done (.error (.timeout operation limit), source) := rfl
    simp [settled, and_comm]
  · rw [concludeDynamic_of_response missing]
    cases offerDynamic? tip multiplier cap baseFee
        (Rpc.reading operation limit Rpc.readWei response) with
    | some fee => simp [missing, and_comm, eq_comm]
    | none => simp [missing]

theorem breaks_concludeDynamic_iff {baseFee : Wei} {call : Rpc.Call} :
    Breaks (source.concludeDynamic limit tip multiplier cap baseFee
        (Rpc.reading operation limit Rpc.readWei response)) trace call ↔
      trace = [] ∧ call = .panic Pricing.overflow ∧ response ≠ none ∧
        Pricing.Overflows multiplier baseFee
          (wantedTip tip (Rpc.reading operation limit Rpc.readWei response)) := by
  by_cases missing : response = none
  · subst missing
    have settled : source.concludeDynamic limit tip multiplier cap baseFee
        (Rpc.reading operation limit Rpc.readWei none) =
          .done (.error (.timeout operation limit), source) := rfl
    simp [settled]
  · have refused : offerDynamic? tip multiplier cap baseFee
          (Rpc.reading operation limit Rpc.readWei response) = none ↔
        Pricing.Overflows multiplier baseFee
          (wantedTip tip (Rpc.reading operation limit Rpc.readWei response)) :=
      offerDynamic?_eq_none_iff
    rw [concludeDynamic_of_response missing, ← refused]
    cases offerDynamic? tip multiplier cap baseFee
        (Rpc.reading operation limit Rpc.readWei response) with
    | some fee => simp
    | none => simp [missing]

/-- A dynamic fetch asks for the latest block and fails without one. Otherwise it asks for a tip and
ends with what comes of it, unless it breaks off. -/
theorem runs_fetchDynamic_iff :
    Runs (source.fetchDynamic limit tip multiplier cap) trace (fetched, after) ↔
      ∃ block rest, trace = ⟨.opening .latestBlock, block⟩ :: rest ∧
        ((∃ failure, sighted limit block = .error failure ∧ rest = [] ∧
            fetched = .error failure ∧ after = source) ∨
          ∃ stated response, sighted limit block = .ok stated ∧
            rest = [⟨.further .priorityFee, response⟩] ∧
            after = source.remember (source.baseFee stated) ∧
            (response = none ∧ fetched = .error (.timeout operation limit) ∨
              response ≠ none ∧ ∃ fee, fetched = .ok fee ∧
                offerDynamic? tip multiplier cap (source.baseFee stated)
                  (Rpc.reading operation limit Rpc.readWei response) = some fee)) := by
  refine runs_ask_bind_iff.trans ?_
  refine exists_congr fun block => exists_congr fun rest => and_congr_right fun _ => ?_
  cases sighted limit block with
  | error failure => simp
  | ok stated =>
    refine runs_ask_bind_iff.trans ?_
    simp only [runs_concludeDynamic_iff]
    constructor
    · rintro ⟨response, _, rfl, rfl, remembered, ended⟩
      exact .inr ⟨stated, response, rfl, rfl, remembered, ended⟩
    · rintro (⟨_, unseen, -⟩ | ⟨_, response, seen, rfl, remembered, ended⟩)
      · cases unseen
      · cases seen
        exact ⟨response, [], rfl, rfl, remembered, ended⟩

theorem breaks_fetchDynamic_iff {call : Rpc.Call} :
    Breaks (source.fetchDynamic limit tip multiplier cap) trace call ↔
      ∃ block stated response, sighted limit block = .ok stated ∧
        trace = [⟨.opening .latestBlock, block⟩, ⟨.further .priorityFee, response⟩] ∧
        call = .panic Pricing.overflow ∧ response ≠ none ∧
        Pricing.Overflows multiplier (source.baseFee stated)
          (wantedTip tip (Rpc.reading operation limit Rpc.readWei response)) := by
  constructor
  · intro breaks
    obtain ⟨block, _, rfl, later⟩ := (breaks_ask_bind_iff ⟨none⟩).mp breaks
    cases seen : sighted limit block with
    | error failure =>
      rw [seen] at later
      cases later
    | ok stated =>
      rw [seen] at later
      obtain ⟨response, _, rfl, ended⟩ := (breaks_ask_bind_iff ⟨none⟩).mp later
      obtain ⟨rfl, rfl, answered, large⟩ := breaks_concludeDynamic_iff.mp ended
      exact ⟨block, stated, response, seen, rfl, rfl, answered, large⟩
  · rintro ⟨block, stated, response, seen, rfl, rfl, answered, large⟩
    refine (breaks_ask_bind_iff ⟨none⟩).mpr ⟨block, _, rfl, ?_⟩
    rw [seen]
    refine (breaks_ask_bind_iff ⟨none⟩).mpr ⟨response, [], rfl, ?_⟩
    exact breaks_concludeDynamic_iff.mpr ⟨rfl, rfl, answered, large⟩

/-- A fetch that ends in a failure. -/
theorem fetched_of_failed {failure : Failure} (failed : fetched = .error failure)
    (pricing : after.pricing = source.pricing) : Fetched source fetched after :=
  ⟨pricing, failed ▸ nofun⟩

/-- A fetch that ends in an offer. -/
theorem fetched_of_offered {fee : Fee} (offered : fetched = .ok fee)
    (pricing : after.pricing = source.pricing) (within : fee.Within source.pricing.cap) :
    Fetched source fetched after := by
  refine ⟨pricing, fun other same => ?_⟩
  cases offered.symm.trans same
  exact within

theorem fetched_of_legacy (model : source.pricing = .legacy default cap)
    (run : Runs (source.fetchLegacy limit default cap) trace (fetched, after)) :
    Fetched source fetched after := by
  obtain ⟨_, answer, _, rfl, _, settled⟩ := runs_bind_iff.mp run
  cases late : isTimeout answer with
  | true =>
    rw [if_pos late] at settled
    obtain ⟨_, same⟩ := runs_done_iff.mp settled
    cases same
    exact fetched_of_failed rfl rfl
  | false =>
    rw [if_neg (by simp [late])] at settled
    obtain ⟨_, same⟩ := runs_done_iff.mp settled
    cases same
    refine fetched_of_offered rfl pricing_offerPrice ?_
    rw [model]
    exact within_offerPrice

theorem fetched_of_dynamic (model : source.pricing = .dynamic tip multiplier cap)
    (run : Runs (source.fetchDynamic limit tip multiplier cap) trace (fetched, after)) :
    Fetched source fetched after := by
  obtain ⟨_, _, rfl, ⟨_, _, rfl, rfl, rfl⟩ | ⟨_, _, _, rfl, rfl, ended⟩⟩ :=
    runs_fetchDynamic_iff.mp run
  · exact fetched_of_failed rfl rfl
  · obtain ⟨_, rfl⟩ | ⟨_, fee, rfl, offered⟩ := ended
    · exact fetched_of_failed rfl rfl
    · refine fetched_of_offered rfl rfl ?_
      rw [model]
      exact within_offerDynamic? offered

/-- A fetch leaves the pricing as it is, and an offer that it comes to is within the cap. -/
theorem fetched_of_runs (run : Runs (source.fetch limit) trace (fetched, after)) :
    Fetched source fetched after := by
  unfold fetch at run
  cases model : source.pricing with
  | legacy default cap =>
    rw [model] at run
    exact fetched_of_legacy model run
  | dynamic tip multiplier cap =>
    rw [model] at run
    exact fetched_of_dynamic model run

end

/-! ## Which fetches come to an end -/

/-- With these responses a fetch takes a sum that does not fit. -/
def Overflows (source : FeeSource) (limit : Nat)
    (responses : Rpc.Request → Option Http.Response) : Prop :=
  ∃ tip multiplier cap stated, source.pricing = .dynamic tip multiplier cap ∧
    sighted limit (responses .latestBlock) = .ok stated ∧ responses .priorityFee ≠ none ∧
    Pricing.Overflows multiplier (source.baseFee stated)
      (wantedTip tip (Rpc.reading operation limit Rpc.readWei (responses .priorityFee)))

section

variable {source : FeeSource} {limit : Nat} {responses : Rpc.Request → Option Http.Response}

theorem exists_runs_fetchLegacy (default cap : Wei) (response : Option Http.Response) :
    ∃ fetched after,
      Runs (source.fetchLegacy limit default cap) [⟨.node .gasPrice, response⟩] (fetched, after) := by
  let answer := Rpc.reading operation limit Rpc.readWei response
  have asked : Runs (Rpc.fetch operation limit .gasPrice Rpc.readWei)
      [⟨.node .gasPrice, response⟩] answer := Rpc.runs_fetch_iff.mpr ⟨response, rfl, rfl⟩
  cases late : isTimeout answer with
  | true =>
    refine ⟨.error (.timeout operation limit), source, ?_⟩
    refine runs_bind_iff.mpr ⟨_, answer, [], rfl, asked, ?_⟩
    rw [if_pos late]
    exact .done _
  | false =>
    refine ⟨.ok (source.offerPrice default cap answer).1,
      (source.offerPrice default cap answer).2, ?_⟩
    refine runs_bind_iff.mpr ⟨_, answer, [], rfl, asked, ?_⟩
    rw [if_neg (by simp [late])]
    exact .done _

/-- A dynamic fetch comes to an end if its sum fits. -/
theorem exists_runs_fetchDynamic {tip cap : Wei} {multiplier : Float}
    (model : source.pricing = .dynamic tip multiplier cap)
    (fits : ¬source.Overflows limit responses) :
    ∃ trace fetched after, Node.Responds responses trace ∧
      Runs (source.fetchDynamic limit tip multiplier cap) trace (fetched, after) := by
  cases seen : sighted limit (responses .latestBlock) with
  | error failure =>
    refine ⟨[⟨.opening .latestBlock, responses .latestBlock⟩], .error failure, source, ?_, ?_⟩
    · simp [Node.Responds]
    · exact runs_fetchDynamic_iff.mpr ⟨_, [], rfl, .inl ⟨failure, seen, rfl, rfl, rfl⟩⟩
  | ok stated =>
    let trace : List (Exchange Node) := [⟨.opening .latestBlock, responses .latestBlock⟩,
      ⟨.further .priorityFee, responses .priorityFee⟩]
    have responds : Node.Responds responses trace := by simp [Node.Responds, trace]
    have ends {fetched : Except Failure Fee} (ended : _) :
        Runs (source.fetchDynamic limit tip multiplier cap) trace
          (fetched, source.remember (source.baseFee stated)) :=
      runs_fetchDynamic_iff.mpr ⟨_, _, rfl, .inr ⟨stated, _, seen, rfl, rfl, ended⟩⟩
    by_cases missing : responses .priorityFee = none
    · exact ⟨trace, _, _, responds, ends (.inl ⟨missing, rfl⟩)⟩
    · cases offered : offerDynamic? tip multiplier cap (source.baseFee stated)
          (Rpc.reading operation limit Rpc.readWei (responses .priorityFee)) with
      | some fee => exact ⟨trace, _, _, responds, ends (.inr ⟨missing, fee, rfl, offered⟩)⟩
      | none =>
        have large := offerDynamic?_eq_none_iff.mp offered
        exact absurd ⟨tip, multiplier, cap, stated, model, seen, missing, large⟩ fits

/-- Whatever a node responds, a fetch comes to an end exactly if its sum fits. -/
theorem exists_runs_fetch_iff :
    (∃ trace fetched after, Node.Responds responses trace ∧
        Runs (source.fetch limit) trace (fetched, after)) ↔
      ¬source.Overflows limit responses := by
  constructor
  · rintro ⟨trace, fetched, after, responds, run⟩ ⟨tip, multiplier, cap, stated, model, seen, large⟩
    unfold fetch at run
    rw [model] at run
    obtain ⟨block, _, rfl, ended⟩ := runs_fetchDynamic_iff.mp run
    obtain ⟨rfl, others⟩ := List.forall_mem_cons.mp responds
    obtain ⟨_, unseen, -⟩ | ⟨_, response, seen', rfl, -, ended⟩ := ended
    · cases seen.symm.trans unseen
    · cases seen.symm.trans seen'
      obtain ⟨rfl, -⟩ := List.forall_mem_cons.mp others
      obtain ⟨missing, -⟩ | ⟨-, fee, -, offered⟩ := ended
      · exact large.1 missing
      · cases offered.symm.trans (offerDynamic?_eq_none_iff.mpr large.2)
  · intro fits
    unfold fetch
    cases model : source.pricing with
    | legacy default cap =>
      obtain ⟨fetched, after, run⟩ := exists_runs_fetchLegacy default cap (responses .gasPrice)
      exact ⟨_, fetched, after, by simp [Node.Responds], run⟩
    | dynamic tip multiplier cap => exact exists_runs_fetchDynamic model fits

end

end FeeSource

end VaultKeeper
