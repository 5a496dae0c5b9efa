import VaultKeeper.Proofs.Fee.Source
import VaultKeeper.Proofs.Program.Agreement
import VaultKeeper.Proofs.Rpc.Answer
import VaultKeeper.Sender

/-! # The offer that a sender falls back to

A sender caches the latest offer that a fetch came to, and makes it again as long as fetches fail.
So it is without an offer only as long as none has succeeded, and since every offer in the cache was
fetched once, all of them are within the cap.
-/

namespace VaultKeeper

open Program

namespace FeeSource

/-- The fetch came to nothing. -/
def Failed (fetched : Except Failure Fee) : Prop :=
  ∃ failure, fetched = .error failure

/-- What is known after some fetches, oldest first: the latest offer that one of them came to. -/
inductive Recalls : (past : List (Except Failure Fee)) → Option Fee → Prop
  | nothing {past : List (Except Failure Fee)} (failed : ∀ fetched ∈ past, Failed fetched) :
      Recalls past none
  | latest {before after : List (Except Failure Fee)} (fee : Fee)
      (failed : ∀ fetched ∈ after, Failed fetched) :
      Recalls (before ++ .ok fee :: after) (some fee)

/-- What is offered upon a fetch that comes after some others: its own offer, or else the latest of
theirs, or else its failure. -/
inductive Answers : (past : List (Except Failure Fee)) → (fetched offer : Except Failure Fee) → Prop
  | fresh (past : List (Except Failure Fee)) (fee : Fee) : Answers past (.ok fee) (.ok fee)
  | latest {before after : List (Except Failure Fee)} (fee : Fee) (failure : Failure)
      (failed : ∀ fetched ∈ after, Failed fetched) :
      Answers (before ++ .ok fee :: after) (.error failure) (.ok fee)
  | nothing {past : List (Except Failure Fee)} (failure : Failure)
      (failed : ∀ fetched ∈ past, Failed fetched) :
      Answers past (.error failure) (.error failure)

section

variable {past : List (Except Failure Fee)} {cached : Option Fee}
  {fetched offer : Except Failure Fee}

/-- The cache goes on knowing the latest offer. -/
theorem Recalls.orCached (recalls : Recalls past cached) (fetched : Except Failure Fee) :
    Recalls (past ++ [fetched]) (orCached cached fetched).2 := by
  cases fetched with
  | ok fee => exact .latest fee (by simp)
  | error failure =>
    have failed : ∀ fetched ∈ [(.error failure : Except Failure Fee)], Failed fetched := by
      intro fetched member
      exact ⟨failure, List.mem_singleton.mp member⟩
    cases recalls with
    | nothing others => exact .nothing (List.forall_mem_append.mpr ⟨others, failed⟩)
    | latest fee others =>
      rw [List.append_assoc, List.cons_append]
      exact .latest fee (List.forall_mem_append.mpr ⟨others, failed⟩)

theorem Recalls.answers (recalls : Recalls past cached) (fetched : Except Failure Fee) :
    Answers past fetched (FeeSource.orCached cached fetched).1 := by
  cases fetched with
  | ok fee => exact .fresh past fee
  | error failure =>
    cases recalls with
    | nothing failed => exact .nothing failure failed
    | latest fee failed => exact .latest fee failure failed

/-- There is no offer exactly as long as every fetch has failed. -/
theorem Answers.failed_iff (answers : Answers past fetched offer) :
    Failed offer ↔ ∀ outcome ∈ past ++ [fetched], Failed outcome := by
  cases answers with
  | fresh past fee =>
    refine iff_of_false nofun fun failed => ?_
    obtain ⟨_, same⟩ := failed (.ok fee) (by simp)
    cases same
  | latest fee failure failed =>
    refine iff_of_false nofun fun failed => ?_
    obtain ⟨_, same⟩ := failed (.ok fee) (by simp)
    cases same
  | nothing failure failed =>
    refine iff_of_true ⟨failure, rfl⟩ fun outcome member => ?_
    rcases List.mem_append.mp member with member | member
    · exact failed outcome member
    · exact ⟨failure, List.mem_singleton.mp member⟩

/-- The cache changes only if a fetch succeeds. -/
theorem orCached_snd_cases (cached : Option Fee) (fetched : Except Failure Fee) :
    (∃ fee, fetched = .ok fee ∧ (FeeSource.orCached cached fetched).2 = some fee) ∨
      Failed fetched ∧ (FeeSource.orCached cached fetched).2 = cached := by
  cases fetched with
  | ok fee => exact .inl ⟨fee, rfl, rfl⟩
  | error failure => cases cached <;> exact .inr ⟨⟨failure, rfl⟩, rfl⟩

end

end FeeSource

namespace Sender

open FeeSource

/-- A sender whose pricing has not been asked yet and whose cache is empty. -/
def fresh (sender : Sender) (pricing : Pricing) : Sender :=
  { sender with source := .start pricing, cached := none }

/-- After some calls for an offer the sender is another one; what their fetches came to is noted,
oldest first. Between two of the calls the sender may take and read nonces. -/
inductive Consulted (first : Sender) : (past : List (Except Failure Fee)) → Sender → Prop
  | start : Consulted first [] first
  | again {past : List (Except Failure Fee)} {before after : Sender} {source : FeeSource}
      {trace : List (Exchange Node)} {fetched offer : Except Failure Fee}
      (earlier : Consulted first past before) (nonces : NonceCounter)
      (fetches : Runs (before.source.fetch before.timeout) trace (fetched, source))
      (run : Runs { before with nonces }.offeredFee trace (offer, after)) :
      Consulted first (past ++ [fetched]) after

section

variable {first before after sender : Sender} {trace : List (Exchange Node)}
  {past : List (Except Failure Fee)} {offer : Except Failure Fee} {pricing : Pricing}

/-- A call for an offer is a fetch and a look into the cache. -/
theorem runs_offeredFee_iff :
    Runs sender.offeredFee trace (offer, after) ↔
      ∃ fetched source, Runs (sender.source.fetch sender.timeout) trace (fetched, source) ∧
        offer = (orCached sender.cached fetched).1 ∧
        after = { sender with source, cached := (orCached sender.cached fetched).2 } := by
  refine Iff.trans runs_bind_done_iff ⟨?_, ?_⟩
  · rintro ⟨⟨fetched, source⟩, ran, same⟩
    cases same
    exact ⟨fetched, source, ran, rfl, rfl⟩
  · rintro ⟨fetched, source, ran, rfl, rfl⟩
    exact ⟨(fetched, source), ran, rfl⟩

/-- Whatever a node responds, a call for an offer comes to an end exactly if the sum of its fetch
fits. -/
theorem exists_runs_offeredFee_iff {responses : Rpc.Request → Option Http.Response} :
    (∃ trace offer after, Node.Responds responses trace ∧
        Runs sender.offeredFee trace (offer, after)) ↔
      ¬sender.source.Overflows sender.timeout responses := by
  rw [← exists_runs_fetch_iff]
  constructor
  · rintro ⟨trace, offer, after, responds, run⟩
    obtain ⟨fetched, source, fetches, -⟩ := runs_offeredFee_iff.mp run
    exact ⟨trace, fetched, source, responds, fetches⟩
  · rintro ⟨trace, fetched, source, responds, fetches⟩
    exact ⟨trace, _, _, responds, runs_offeredFee_iff.mpr ⟨fetched, source, fetches, rfl, rfl⟩⟩

/-- What one more call for an offer comes to. -/
theorem offeredFee_cases {fetched : Except Failure Fee} {source : FeeSource}
    (fetches : Runs (sender.source.fetch sender.timeout) trace (fetched, source))
    (run : Runs sender.offeredFee trace (offer, after)) :
    offer = (orCached sender.cached fetched).1 ∧
      after = { sender with source, cached := (orCached sender.cached fetched).2 } := by
  obtain ⟨fetched', source', again, offered, changed⟩ := runs_offeredFee_iff.mp run
  have whole : trace ++ [] = trace ++ [] := rfl
  obtain ⟨-, same⟩ := fetches.unique again whole
  cases same
  exact ⟨offered, changed⟩

/-- What a sender knows of the offers fetched so far. -/
structure Informed (pricing : Pricing) (past : List (Except Failure Fee)) (sender : Sender) :
    Prop where
  priced : sender.source.pricing = pricing
  recalls : Recalls past sender.cached
  within : ∀ fee, sender.cached = some fee → fee.Within pricing.cap

theorem informed_fresh (sender : Sender) (pricing : Pricing) :
    Informed pricing [] (sender.fresh pricing) :=
  ⟨rfl, .nothing nofun, nofun⟩

/-- An offer is fetched, or it comes from the cache. -/
theorem Informed.within_offer (informed : Informed pricing past sender)
    {fetched : Except Failure Fee} {source : FeeSource}
    (fetches : Runs (sender.source.fetch sender.timeout) trace (fetched, source)) :
    ∀ fee, (orCached sender.cached fetched).1 = .ok fee → fee.Within pricing.cap := by
  intro fee offered
  have fits := (fetched_of_runs fetches).within
  rw [informed.priced] at fits
  cases fetched with
  | ok own =>
    cases offered
    exact fits fee rfl
  | error failure =>
    cases cached : sender.cached with
    | none =>
      rw [cached] at offered
      cases offered
    | some latest =>
      rw [cached] at offered
      cases offered
      exact informed.within fee cached

/-- One more call for an offer. -/
theorem Informed.again (informed : Informed pricing past sender)
    {fetched : Except Failure Fee} {source : FeeSource}
    (fetches : Runs (sender.source.fetch sender.timeout) trace (fetched, source)) :
    Informed pricing (past ++ [fetched])
      { sender with source, cached := (orCached sender.cached fetched).2 } := by
  refine ⟨(fetched_of_runs fetches).pricing.trans informed.priced,
    informed.recalls.orCached fetched, fun fee cached => ?_⟩
  rcases orCached_snd_cases sender.cached fetched with ⟨own, rfl, replaced⟩ | ⟨-, kept⟩
  · cases replaced.symm.trans cached
    exact informed.within_offer fetches fee rfl
  · exact informed.within fee (kept.symm.trans cached)

/-- A sender knows the latest offer after any number of calls. -/
theorem Consulted.informed (consulted : Consulted (sender.fresh pricing) past before) :
    Informed pricing past before := by
  induction consulted with
  | start => exact informed_fresh sender pricing
  | again _ nonces fetches run ih =>
    obtain ⟨-, rfl⟩ := offeredFee_cases (by exact fetches) run
    have informed := ih.again fetches
    exact ⟨informed.priced, informed.recalls, informed.within⟩

end

/-- However the fetches of a sender go, each call for an offer makes the one that was fetched for
it, or else the latest one before, and fails only if no fetch has succeeded. The cache changes with
a successful fetch and not otherwise, and no offer exceeds the configured maximum. Whatever the node
responds, the call comes to such an end exactly if the sum of its fetch fits. -/
theorem offers_latest (sender : Sender) (model : String) (default max : Float)
    (priority : Option Float) {past : List (Except Failure Fee)} {before : Sender}
    (consulted : Consulted (sender.fresh (.ofModel model default max priority)) past before)
    (nonces : NonceCounter) :
    (∀ {trace : List (Exchange Node)} {offer : Except Failure Fee} {after : Sender},
      Runs { before with nonces }.offeredFee trace (offer, after) →
      ∃ fetched source, Runs (before.source.fetch before.timeout) trace (fetched, source) ∧
        Consulted (sender.fresh (.ofModel model default max priority)) (past ++ [fetched]) after ∧
        Answers past fetched offer ∧
        (Failed offer ↔ ∀ outcome ∈ past ++ [fetched], Failed outcome) ∧
        ((∃ fee, fetched = .ok fee ∧ after.cached = some fee) ∨
          Failed fetched ∧ after.cached = before.cached) ∧
        ∀ fee, offer = .ok fee → fee.Within (Wei.ofGwei max)) ∧
    ∀ responses,
      (∃ trace offer after, Node.Responds responses trace ∧
          Runs { before with nonces }.offeredFee trace (offer, after)) ↔
        ¬before.source.Overflows before.timeout responses := by
  refine ⟨fun {trace offer after} run => ?_, fun responses => exists_runs_offeredFee_iff⟩
  obtain ⟨fetched, source, fetches, rfl, rfl⟩ := runs_offeredFee_iff.mp run
  have informed := consulted.informed
  have answers := informed.recalls.answers fetched
  have within := informed.within_offer fetches
  rw [Pricing.cap_ofModel] at within
  exact ⟨fetched, source, fetches, .again consulted nonces fetches run, answers,
    answers.failed_iff, orCached_snd_cases before.cached fetched, within⟩

/-- A sender that offers at most 500 gwei, with what it remembers. -/
def thrifty (cached : Option Fee) (memory : UInt64) : Sender where
  account := 7
  chainId := 1
  gasLimit := 21000
  timeout := 15000
  source := ⟨.legacy (Wei.ofGwei 30) (Wei.ofGwei 500), memory⟩
  cached := cached
  nonces := ⟨0, 0⟩

/-- Its most expensive offer. -/
def topOffer : Fee := .legacy (Wei.ofGwei 500)

/-- A node asks for 1000 gwei. -/
def steepPrice : Option Http.Response :=
  some (.answered 200 "\x7b\"result\":\"0xe8d4a51000\"\x7d")

/-- A node that is not heard. -/
def unheard : List (Exchange Node) := [⟨.node .gasPrice, none⟩]

theorem thrifty_eq_fresh :
    (thrifty none 0).fresh (.ofModel "Legacy" 30 500 none) = thrifty none 30000000000 := by
  have pricing : Pricing.ofModel "Legacy" 30 500 none =
      .legacy (Wei.ofGwei 30) (Wei.ofGwei 500) := by
    unfold Pricing.ofModel
    rw [if_neg (by decide +kernel)]
  have memory : Pricing.initialMemory (.legacy (Wei.ofGwei 30) (Wei.ofGwei 500)) = 30000000000 := by
    decide +kernel
  rw [fresh, pricing, FeeSource.start, memory]
  rfl

theorem runs_fetch_unheard (cached : Option Fee) (memory : UInt64) :
    Runs ((thrifty cached memory).source.fetch 15000) unheard
      (.error (.timeout "eth_gasPrice" 15000), (thrifty cached memory).source) :=
  .call (.done _)

theorem runs_fetch_steepPrice (cached : Option Fee) (memory : UInt64) :
    Runs ((thrifty cached memory).source.fetch 15000) [⟨.node .gasPrice, steepPrice⟩]
      (.ok topOffer, (thrifty cached 500000000000).source) := by
  have written : steepPrice = some (Rpc.answering (.ofText "0xe8d4a51000")) := by decide +kernel
  have read : Rpc.reading FeeSource.operation 15000 Rpc.readWei steepPrice =
      .ok 1000000000000 := by
    rw [written, Rpc.reading_answering (Json.writable_ofText _)]
    rfl
  have asked : Runs (Rpc.fetch FeeSource.operation 15000 .gasPrice Rpc.readWei)
      [⟨.node .gasPrice, steepPrice⟩] (.ok 1000000000000) :=
    Rpc.runs_fetch_iff.mpr ⟨steepPrice, rfl, read.symm⟩
  have capped : Wei.min 1000000000000 (Wei.ofGwei 500) = Wei.ofGwei 500 := by decide +kernel
  have memory' : UInt64.ofNat (Wei.ofGwei 500).toNat = 500000000000 := by decide +kernel
  have offer : (thrifty cached memory).source.offerPrice (Wei.ofGwei 30) (Wei.ofGwei 500)
      (.ok 1000000000000) = (topOffer, (thrifty cached 500000000000).source) := by
    unfold FeeSource.offerPrice FeeSource.remember
    dsimp only
    rw [capped, memory']
    rfl
  refine runs_bind_iff.mpr ⟨_, .ok 1000000000000, [], rfl, asked, ?_⟩
  rw [offer]
  exact .done _

/-- The node is not heard at first, then it asks for too much, and then it is not heard again: the
sender has no offer, then offers the most it may, and goes on with that. -/
theorem offers_latest_thrifty :
    Consulted ((thrifty none 0).fresh (.ofModel "Legacy" 30 500 none))
        [.error (.timeout "eth_gasPrice" 15000), .ok topOffer]
        (thrifty (some topOffer) 500000000000) ∧
      Runs (thrifty (some topOffer) 500000000000).offeredFee unheard
        (.ok topOffer, thrifty (some topOffer) 500000000000) ∧
      topOffer.Within (Wei.ofGwei 500) := by
  have silent : Runs (thrifty none 30000000000).offeredFee unheard
      (.error (.timeout "eth_gasPrice" 15000), thrifty none 30000000000) :=
    runs_offeredFee_iff.mpr ⟨_, _, runs_fetch_unheard none 30000000000, rfl, rfl⟩
  have steep : Runs (thrifty none 30000000000).offeredFee [⟨.node .gasPrice, steepPrice⟩]
      (.ok topOffer, thrifty (some topOffer) 500000000000) :=
    runs_offeredFee_iff.mpr ⟨_, _, runs_fetch_steepPrice none 30000000000, rfl, rfl⟩
  have again : Runs (thrifty (some topOffer) 500000000000).offeredFee unheard
      (.ok topOffer, thrifty (some topOffer) 500000000000) :=
    runs_offeredFee_iff.mpr ⟨_, _, runs_fetch_unheard (some topOffer) 500000000000, rfl, rfl⟩
  have consulted : Consulted ((thrifty none 0).fresh (.ofModel "Legacy" 30 500 none))
      ([] ++ [.error (.timeout "eth_gasPrice" 15000)] ++ [.ok topOffer])
      (thrifty (some topOffer) 500000000000) := by
    rw [thrifty_eq_fresh]
    exact .again (.again .start ⟨0, 0⟩ (runs_fetch_unheard none 30000000000) silent) ⟨0, 0⟩
      (runs_fetch_steepPrice none 30000000000) steep
  obtain ⟨_, _, _, _, _, _, _, within⟩ :=
    (offers_latest (thrifty none 0) "Legacy" 30 500 none consulted ⟨0, 0⟩).1 again
  exact ⟨consulted, again, within topOffer rfl⟩

end Sender

end VaultKeeper
