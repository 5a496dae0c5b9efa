import Mathlib.Tactic.ByContra
import VaultKeeper.Proofs.Fee.Source
import VaultKeeper.Proofs.Rpc.Answer

/-! # The price that stands in for a missing one

A legacy source offers what the node asks for, up to the cap, and remembers what it offered. When the
node states no price, the remembered one stands in, or the default if that is higher. Only 64 bits
are remembered. So a price that needs more of them is forgotten with the first failure, unless the
default makes up for it; what stands in then is remembered well enough to be offered again, however
many failures follow.
-/

namespace VaultKeeper

/-- The low 64 bits of an amount. -/
def Wei.low (amount : Wei) : Wei :=
  BitVec.ofNat 128 (amount.toNat % UInt64.size)

theorem Wei.toNat_low (amount : Wei) : amount.low.toNat = amount.toNat % UInt64.size := by
  have bound : amount.toNat % UInt64.size < UInt64.size := Nat.mod_lt _ (by decide)
  have size : UInt64.size = 18446744073709551616 := rfl
  rw [low, BitVec.toNat_ofNat]
  omega

namespace FeeSource

open Program

/-- What is offered in place of a price that the node did not state. -/
def standIn (default cap price : Wei) : Wei :=
  (price.max default).min cap

section

variable {default cap last price : Wei}

theorem standIn_of_le (covered : price.toNat ≤ default.toNat) :
    standIn default cap price = default.min cap := by
  rw [standIn, Wei.max, if_pos covered]

theorem standIn_of_lt (above : default.toNat < price.toNat) :
    standIn default cap price = price.min cap := by
  rw [standIn, Wei.max, if_neg (Nat.not_le.mpr above)]

/-- Of a price that was offered, or of the default, the low bits stand in as well as the whole
exactly if they are the whole or the default is no lower. -/
theorem standIn_low_eq_iff (known : last = default ∨ last.toNat ≤ cap.toNat) :
    standIn default cap last.low = standIn default cap last ↔
      last.toNat < UInt64.size ∨ last.toNat ≤ default.toNat := by
  have low := Wei.toNat_low last
  have less : last.toNat % UInt64.size ≤ last.toNat := Nat.mod_le _ _
  constructor
  · intro same
    by_contra large
    obtain ⟨wide, above⟩ := not_or.mp large
    have within : last.toNat ≤ cap.toNat := by
      rcases known with rfl | within
      · exact absurd (Nat.le_refl _) above
      · exact within
    have lost : last.toNat % UInt64.size < UInt64.size := Nat.mod_lt _ (by decide)
    -- the whole price would be offered again, while its low bits and the default are below it
    have higher : default.toNat < last.toNat := by omega
    rw [standIn_of_lt higher, Wei.min_eq_left within] at same
    rcases Nat.lt_or_ge default.toNat last.low.toNat with beyond | covered
    · have capped := Wei.toNat_min last.low cap
      rw [← standIn_of_lt beyond, same] at capped
      omega
    · have capped := Wei.toNat_min default cap
      rw [← standIn_of_le covered, same] at capped
      omega
  · rintro (fits | covered)
    · have whole : last.low = last := by
        rw [← BitVec.toNat_inj, low, Nat.mod_eq_of_lt fits]
      rw [whole]
    · rw [standIn_of_le covered, standIn_of_le (by omega)]

/-- What stood in once stands in for itself: more than 64 bits of it can only come from the default,
and that is there the next time too. -/
theorem standIn_standIn_low :
    standIn default cap (standIn default cap last.low).low = standIn default cap last.low := by
  have narrow : last.low.toNat < UInt64.size := by
    rw [Wei.toNat_low]
    exact Nat.mod_lt _ (by decide)
  generalize last.low = start at narrow
  rcases Nat.lt_or_ge default.toNat start.toNat with beyond | covered
  · rw [standIn_of_lt beyond]
    have capped := Wei.toNat_min start cap
    have whole : (start.min cap).low = start.min cap := by
      rw [← BitVec.toNat_inj, Wei.toNat_low]
      exact Nat.mod_eq_of_lt (by omega)
    rw [whole]
    rcases Nat.lt_or_ge default.toNat (start.min cap).toNat with again | lowered
    · rw [standIn_of_lt again]
      exact Wei.min_eq_left (Wei.toNat_min_le_right start cap)
    · rw [standIn_of_le lowered, ← BitVec.toNat_inj, Wei.toNat_min default cap]
      omega
  · rw [standIn_of_le covered]
    refine standIn_of_le ?_
    have capped := Wei.toNat_min default cap
    have lower : (default.min cap).low.toNat ≤ (default.min cap).toNat := by
      rw [Wei.toNat_low]
      exact Nat.mod_le _ _
    omega

end

section

variable {source after : FeeSource} {default cap last : Wei} {limit : Nat}
  {trace : List (Exchange Node)} {fetched : Except Failure Fee} {response : Option Http.Response}

/-- A source with a cap and a default that remembers the low bits of a price: the latest one that it
offered, or else the default. -/
structure Recalling (default cap last : Wei) (source : FeeSource) : Prop where
  pricing : source.pricing = .legacy default cap
  remembered : source.remembered = last.low
  known : last = default ∨ last.toNat ≤ cap.toNat

theorem remembered_remember (source : FeeSource) (amount : Wei) :
    (source.remember amount).remembered = amount.low := by
  rw [remembered, remember, Wei.low, UInt64.toNat_ofNat']

theorem recalling_start (default cap : Wei) :
    Recalling default cap default (start (.legacy default cap)) := by
  refine ⟨rfl, ?_, .inl rfl⟩
  exact remembered_remember (start (.legacy default cap)) default

/-- The price of an offer that a recalling source puts together. -/
theorem Recalling.offerPrice_eq (recalling : Recalling default cap last source)
    (answer : Except Failure Wei) :
    source.offerPrice default cap answer =
      let price := match answer with
        | .ok price => price.min cap
        | .error _ => standIn default cap last.low
      (.legacy price, source.remember price) := by
  unfold offerPrice
  rw [recalling.remembered]
  cases answer with
  | ok price => rfl
  | error failure => rfl

/-- A fetch asks for the price once. Without a response in time it fails and leaves the source as it
is; otherwise it offers a price and remembers that. -/
theorem Recalling.fetch_cases (recalling : Recalling default cap last source)
    (run : Runs (source.fetch limit) trace (fetched, after)) :
    ∃ response, trace = [⟨.node .gasPrice, response⟩] ∧
      (response = none ∧ fetched = .error (.timeout operation limit) ∧ after = source ∨
        response ≠ none ∧ ∃ price, fetched = .ok (.legacy price) ∧
          Recalling default cap price after ∧
          (∀ stated, Rpc.reading operation limit Rpc.readWei response = .ok stated →
            price = stated.min cap) ∧
          ∀ failure, Rpc.reading operation limit Rpc.readWei response = .error failure →
            price = standIn default cap last.low) := by
  unfold fetch at run
  rw [recalling.pricing] at run
  obtain ⟨_, answer, rest, rfl, asked, settled⟩ := runs_bind_iff.mp run
  obtain ⟨response, rfl, rfl⟩ := Rpc.runs_fetch_iff.mp asked
  refine ⟨response, ?_⟩
  cases late : isTimeout (Rpc.reading operation limit Rpc.readWei response) with
  | true =>
    rw [if_pos late] at settled
    obtain ⟨rfl, same⟩ := runs_done_iff.mp settled
    cases same
    exact ⟨rfl, .inl ⟨Rpc.isTimeout_reading_iff.mp late, rfl, rfl⟩⟩
  | false =>
    have answered : response ≠ none := Rpc.isTimeout_reading_eq_false_iff.mp late
    rw [if_neg (by simp [late]), recalling.offerPrice_eq] at settled
    obtain ⟨rfl, same⟩ := runs_done_iff.mp settled
    refine ⟨rfl, .inr ⟨answered, ?_⟩⟩
    generalize Rpc.reading operation limit Rpc.readWei response = answer at same
    cases answer with
    | ok stated =>
      cases same
      refine ⟨stated.min cap, rfl, ⟨recalling.pricing, remembered_remember _ _, .inr ?_⟩, ?_, nofun⟩
      · exact Wei.toNat_min_le_right _ _
      · rintro _ ⟨⟩
        rfl
    | error failure =>
      cases same
      refine ⟨_, rfl, ⟨recalling.pricing, remembered_remember _ _, .inr ?_⟩, nofun, ?_⟩
      · exact Wei.toNat_min_le_right _ _
      · intro _ _
        rfl

end

/-- Fetches of one source, one after the other, and the offers that they came to, oldest first. A
fetch that failed leaves no offer. -/
inductive Fetches (first : FeeSource) : (offers : List Fee) → FeeSource → Prop
  | fresh : Fetches first [] first
  | failed {offers : List Fee} {before after : FeeSource} {limit : Nat}
      {trace : List (Exchange Node)} {failure : Failure} (earlier : Fetches first offers before)
      (run : Runs (before.fetch limit) trace (.error failure, after)) : Fetches first offers after
  | offered {offers : List Fee} {before after : FeeSource} {limit : Nat}
      {trace : List (Exchange Node)} {fee : Fee} (earlier : Fetches first offers before)
      (run : Runs (before.fetch limit) trace (.ok fee, after)) :
      Fetches first (offers ++ [fee]) after

/-- The price that was offered last, the default if none was. -/
def latestPrice (default : Wei) (offers : List Fee) : Wei :=
  (offers.getLast?.map Fee.effective).getD default

/-- After any fetches a source recalls the price that it offered last. -/
theorem Fetches.recalling {default cap : Wei} {offers : List Fee} {source : FeeSource}
    (fetches : Fetches (start (.legacy default cap)) offers source) :
    Recalling default cap (latestPrice default offers) source := by
  induction fetches with
  | fresh => exact recalling_start default cap
  | failed _ run ih =>
    obtain ⟨_, -, ⟨-, -, rfl⟩ | ⟨-, _, impossible, -⟩⟩ := ih.fetch_cases run
    · exact ih
    · cases impossible
  | offered _ run ih =>
    obtain ⟨_, -, ⟨-, impossible, -⟩ | ⟨-, price, same, recalling, -⟩⟩ := ih.fetch_cases run
    · cases impossible
    · cases same
      rw [latestPrice, List.getLast?_concat]
      exact recalling

/-- A fetch offers what the node asks for, up to the cap. When the node responds without a price it
offers the low 64 bits of the latest price instead, or the default if that is higher, up to the cap.
That is what the latest price itself would come to exactly if that price has no more than 64 bits or
is no higher than the default. A further failure changes nothing about the offer, and a fetch
without a response changes nothing at all. -/
theorem fallback_forgets (default cap : Wei) {offers : List Fee} {before after : FeeSource}
    (fetches : Fetches (start (.legacy default cap)) offers before) {limit : Nat}
    {trace : List (Exchange Node)} {fetched : Except Failure Fee}
    (run : Runs (before.fetch limit) trace (fetched, after)) :
    let last := latestPrice default offers
    ∃ response, trace = [⟨.node .gasPrice, response⟩] ∧
      (response = none → fetched = .error (.timeout operation limit) ∧ after = before) ∧
      (∀ price, Rpc.reading operation limit Rpc.readWei response = .ok price →
        fetched = .ok (.legacy (price.min cap))) ∧
      ∀ failure, Rpc.reading operation limit Rpc.readWei response = .error failure →
        response ≠ none →
        fetched = .ok (.legacy ((last.low.max default).min cap)) ∧
        (fetched = .ok (.legacy ((last.max default).min cap)) ↔
          last.toNat < UInt64.size ∨ last.toNat ≤ default.toNat) ∧
        ∀ limit' trace' fetched' after', Runs (after.fetch limit') trace' (fetched', after') →
          ∀ response' failure', trace' = [⟨.node .gasPrice, some response'⟩] →
            Rpc.reading operation limit' Rpc.readWei (some response') = .error failure' →
            fetched' = fetched := by
  intro last
  have recalling := fetches.recalling
  obtain ⟨response, rfl, outcome⟩ := recalling.fetch_cases run
  refine ⟨response, rfl, ?_⟩
  rcases outcome with ⟨rfl, rfl, rfl⟩ | ⟨answered, price, rfl, recalls, stated, missing⟩
  · exact ⟨fun _ => ⟨rfl, rfl⟩, nofun, fun _ _ answered => absurd rfl answered⟩
  refine ⟨fun none => absurd none answered, ?_, ?_⟩
  · intro asked said
    rw [stated asked said]
  · intro failure said _
    obtain rfl := missing failure said
    refine ⟨rfl, ?_, ?_⟩
    · rw [← standIn_low_eq_iff recalling.known]
      constructor
      · intro same
        injection same with same
        injection same
      · intro same
        exact congrArg (fun price => Except.ok (Fee.legacy price)) same
    · rintro limit' _ fetched' after' again response' failure' rfl said'
      obtain ⟨response'', same, ⟨none, -⟩ | ⟨-, price', rfl, -, -, missing'⟩⟩ :=
        recalls.fetch_cases again
      · subst none
        cases same
      · cases same
        rw [missing' failure' said', standIn_standIn_low]

/-- A source without a cap to speak of, and what it remembers. -/
def lavish (memory : UInt64) : FeeSource :=
  ⟨.legacy 30000000000 (BitVec.allOnes 128), memory⟩

/-- A node asks for 5 wei more than 64 bits hold. -/
def widePrice : Http.Response := .answered 200 "\x7b\"result\":\"0x10000000000000005\"\x7d"

theorem runs_fetch_widePrice :
    Runs ((start (.legacy 30000000000 (BitVec.allOnes 128))).fetch 15000)
      [⟨.node .gasPrice, some widePrice⟩] (.ok (.legacy 18446744073709551621), lavish 5) := by
  have written : widePrice = Rpc.answering (.ofText "0x10000000000000005") := by decide +kernel
  have read : Rpc.reading operation 15000 Rpc.readWei (some widePrice) =
      .ok 18446744073709551621 := by
    rw [written, Rpc.reading_answering (Json.writable_ofText _)]
    rfl
  have asked : Runs (Rpc.fetch operation 15000 .gasPrice Rpc.readWei)
      [⟨.node .gasPrice, some widePrice⟩] (.ok 18446744073709551621) :=
    Rpc.runs_fetch_iff.mpr ⟨some widePrice, rfl, read.symm⟩
  exact runs_bind_iff.mpr ⟨_, _, [], rfl, asked, .done _⟩

/-- A wide price is followed by two failures. The default is offered both times, and not the price,
which is higher. -/
theorem fallback_forgets_wide :
    Fetches (start (.legacy 30000000000 (BitVec.allOnes 128))) [.legacy 18446744073709551621]
        (lavish 5) ∧
      Runs ((lavish 5).fetch 15000) [⟨.node .gasPrice, some .failed⟩]
        (.ok (.legacy 30000000000), lavish 30000000000) ∧
      Runs ((lavish 30000000000).fetch 15000) [⟨.node .gasPrice, some .failed⟩]
        (.ok (.legacy 30000000000), lavish 30000000000) ∧
      ¬(.ok (.legacy 30000000000) : Except Failure Fee) =
        .ok (.legacy ((Wei.max 18446744073709551621 30000000000).min (BitVec.allOnes 128))) := by
  have fetches : Fetches (start (.legacy 30000000000 (BitVec.allOnes 128)))
      ([] ++ [.legacy 18446744073709551621]) (lavish 5) := .offered .fresh runs_fetch_widePrice
  have first : Runs ((lavish 5).fetch 15000) [⟨.node .gasPrice, some .failed⟩]
      (.ok (.legacy 30000000000), lavish 30000000000) := .call (.done _)
  have second : Runs ((lavish 30000000000).fetch 15000) [⟨.node .gasPrice, some .failed⟩]
      (.ok (.legacy 30000000000), lavish 30000000000) := .call (.done _)
  obtain ⟨response, same, -, -, missing⟩ := fallback_forgets _ _ fetches first
  cases same
  obtain ⟨-, recalled, -⟩ := missing _ rfl nofun
  refine ⟨fetches, first, second, fun kept => ?_⟩
  exact absurd (recalled.mp kept) (by decide)

end FeeSource

end VaultKeeper
