import VaultKeeper.Proofs.Decimal.Doubling
import VaultKeeper.Proofs.Fee.Source
import VaultKeeper.Proofs.Rpc.Answer

/-! # The sum of a base fee and a tip

A dynamic source offers twice the base fee and the tip on top of it, up to the cap. The sum is taken
before the cap and has to fit into 128 bits. A base fee has 64 bits, and its double hardly more, so
that only a tip next to the largest amount makes the sum too large. Then the fetch breaks off,
however low the cap is.
-/

namespace VaultKeeper

/-- Twice an amount, computed in floats. -/
theorem Wei.toNat_ofFloat_double (amount : Wei) :
    (Wei.ofFloat (amount.toFloat * 2)).toNat =
      Nat.min (BitVec.allOnes 128).toNat (2 * Decimal.nearest amount.toNat) := by
  have digits : amount.toNat.log2 < 128 := Decimal.log2_lt_of_lt (by decide) amount.isLt
  have bound : Nat.min (BitVec.allOnes 128).toNat (2 * Decimal.nearest amount.toNat) ≤
      (BitVec.allOnes 128).toNat := Nat.min_le_left _ _
  rw [ofFloat, toFloat, Decimal.truncate_ofNat_mul_two _ (by omega), BitVec.toNat_ofNat]
  rw [BitVec.toNat_allOnes] at bound ⊢
  exact Nat.mod_eq_of_lt (by omega)

/-- Twice a base fee has 65 bits, or is the first amount that has more. -/
theorem Decimal.double_nearest_le (baseFee : UInt64) :
    2 * Decimal.nearest baseFee.toNat ≤ 1 <<< 65 := by
  have rounded := Decimal.nearest_le baseFee.toNat
  have digits : baseFee.toNat.log2 < 64 := Decimal.log2_lt_of_lt (by decide) baseFee.toNat_lt
  have power : 1 <<< (baseFee.toNat.log2 + 1) ≤ 1 <<< 64 := by
    rw [Nat.one_shiftLeft, Nat.one_shiftLeft]
    exact Nat.pow_le_pow_right (by decide) digits
  have result : 1 <<< 65 = 2 * 1 <<< 64 := rfl
  rw [result]
  exact Nat.mul_le_mul_left 2 (Nat.le_trans rounded power)

namespace Pricing

/-- Twice the base fee, as far as floats hold it, and the tip, without any bound. -/
def sum (baseFee : UInt64) (tip : Wei) : Nat :=
  2 * Decimal.nearest baseFee.toNat + tip.toNat

section

variable {baseFee : UInt64} {tip : Wei}

theorem total_two :
    total 2 (BitVec.ofNat 128 baseFee.toNat) tip = sum baseFee tip := by
  have narrow : (BitVec.ofNat 128 baseFee.toNat).toNat = baseFee.toNat := by
    have bound := baseFee.toNat_lt
    rw [BitVec.toNat_ofNat]
    exact Nat.mod_eq_of_lt (by omega)
  have doubled : (Wei.ofFloat (Wei.toFloat (BitVec.ofNat 128 baseFee.toNat) * 2)).toNat =
      2 * Decimal.nearest baseFee.toNat := by
    have bound := Decimal.double_nearest_le baseFee
    rw [Wei.toNat_ofFloat_double, narrow]
    exact Nat.min_eq_right (Nat.le_trans bound (by decide))
  rw [total, doubled]
  rfl

theorem overflows_two_iff :
    Overflows 2 (BitVec.ofNat 128 baseFee.toNat) tip ↔ 2 ^ 128 ≤ sum baseFee tip := by
  rw [Overflows, total_two, BitVec.toNat_allOnes]
  omega

/-- Only a tip among the last `2 ^ 65` amounts can make a sum too large. -/
theorem sum_lt (low : tip.toNat < 2 ^ 128 - 2 ^ 65) : sum baseFee tip < 2 ^ 128 := by
  have bound := Decimal.double_nearest_le baseFee
  unfold sum
  omega

end

end Pricing

namespace FeeSource

open Program

/-- A source that offers twice the base fee and a tip. -/
def doubling (default cap : Wei) (memory : UInt64) : FeeSource :=
  ⟨.dynamic default 2 cap, memory⟩

section

variable {default cap : Wei} {memory : UInt64} {limit : Nat} {fetched : Except Failure Fee}
  {after : FeeSource} {block response : Option Http.Response} {stated : Option UInt64}

theorem baseFee_doubling :
    (doubling default cap memory).baseFee stated = BitVec.ofNat 128 (stated.getD memory).toNat := by
  cases stated with
  | none => rfl
  | some fee => rfl

theorem remember_doubling :
    (doubling default cap memory).remember ((doubling default cap memory).baseFee stated) =
      doubling default cap (stated.getD memory) := by
  have bound := (stated.getD memory).toNat_lt
  have same : UInt64.ofNat (BitVec.ofNat 128 (stated.getD memory).toNat).toNat =
      stated.getD memory := by
    rw [BitVec.toNat_ofNat, Nat.mod_eq_of_lt (by omega)]
    exact UInt64.ofNat_toNat
  rw [baseFee_doubling]
  exact congrArg (doubling default cap) same

/-- Without a latest block a fetch fails and leaves the source as it is. -/
theorem runs_unseen_iff {failure : Failure} {rest : List (Exchange Node)}
    (unseen : sighted limit block = .error failure) :
    Runs ((doubling default cap memory).fetch limit) (⟨.opening .latestBlock, block⟩ :: rest)
        (fetched, after) ↔
      rest = [] ∧ (fetched, after) = (.error failure, doubling default cap memory) := by
  refine runs_fetchDynamic_iff.trans ⟨?_, ?_⟩
  · rintro ⟨block', rest', same, ended⟩
    cases same
    obtain ⟨failure', unseen', rfl, rfl, rfl⟩ | ⟨_, _, seen, -⟩ := ended
    · cases unseen.symm.trans unseen'
      exact ⟨rfl, rfl⟩
    · cases unseen.symm.trans seen
  · rintro ⟨rfl, same⟩
    cases same
    exact ⟨block, [], rfl, .inl ⟨failure, unseen, rfl, rfl, rfl⟩⟩

/-- With a latest block a fetch ends with what comes of the tip. -/
theorem runs_seen_iff (seen : sighted limit block = .ok stated) :
    Runs ((doubling default cap memory).fetch limit)
        [⟨.opening .latestBlock, block⟩, ⟨.further .priorityFee, response⟩] (fetched, after) ↔
      after = doubling default cap (stated.getD memory) ∧
        (response = none ∧ fetched = .error (.timeout operation limit) ∨
          response ≠ none ∧ ∃ fee, fetched = .ok fee ∧
            offerDynamic? default 2 cap (BitVec.ofNat 128 (stated.getD memory).toNat)
              (Rpc.reading operation limit Rpc.readWei response) = some fee) := by
  have fee : (doubling default cap memory).baseFee stated =
      BitVec.ofNat 128 (stated.getD memory).toNat := baseFee_doubling
  refine runs_fetchDynamic_iff.trans ?_
  rw [← remember_doubling, ← fee]
  constructor
  · rintro ⟨block', rest, same, ended⟩
    cases same
    obtain ⟨_, unseen, -⟩ | ⟨stated', response', seen', same, remembered, ended⟩ := ended
    · cases seen.symm.trans unseen
    · cases same
      cases seen.symm.trans seen'
      exact ⟨remembered, ended⟩
  · rintro ⟨remembered, ended⟩
    exact ⟨block, _, rfl, .inr ⟨stated, response, seen, rfl, remembered, ended⟩⟩

theorem breaks_seen_iff {call : Rpc.Call} (seen : sighted limit block = .ok stated) :
    Breaks ((doubling default cap memory).fetch limit)
        [⟨.opening .latestBlock, block⟩, ⟨.further .priorityFee, response⟩] call ↔
      call = .panic Pricing.overflow ∧ response ≠ none ∧
        2 ^ 128 ≤ Pricing.sum (stated.getD memory)
          (wantedTip default (Rpc.reading operation limit Rpc.readWei response)) := by
  have fee : (doubling default cap memory).baseFee stated =
      BitVec.ofNat 128 (stated.getD memory).toNat := baseFee_doubling
  rw [← Pricing.overflows_two_iff, ← fee]
  refine breaks_fetchDynamic_iff.trans ⟨?_, ?_⟩
  · rintro ⟨block', stated', response', seen', same, rest⟩
    cases same
    cases seen.symm.trans seen'
    exact rest
  · intro rest
    exact ⟨block, stated, response, seen, rfl, rest⟩

/-- A tip that a node asks for is paid, and at least the default one. -/
theorem toNat_wantedTip {answer : Except Failure Wei} {asked : Wei} (answered : answer = .ok asked) :
    (wantedTip default answer).toNat = max asked.toNat default.toNat := by
  rw [answered]
  exact Wei.toNat_max asked default

theorem wantedTip_of_error {answer : Except Failure Wei} {failure : Failure}
    (failed : answer = .error failure) : wantedTip default answer = default := by
  rw [failed]
  rfl

/-- An offer comes to the whole sum, up to the cap. -/
theorem offerDynamic?_two_iff {baseFee : UInt64} {answer : Except Failure Wei} {fee : Fee} :
    offerDynamic? default 2 cap (BitVec.ofNat 128 baseFee.toNat) answer = some fee ↔
      Pricing.sum baseFee (wantedTip default answer) < 2 ^ 128 ∧
        ∃ maxFee : Wei,
          maxFee.toNat = min (Pricing.sum baseFee (wantedTip default answer)) cap.toNat ∧
          fee = .dynamic maxFee ((wantedTip default answer).min maxFee)
            (BitVec.ofNat 128 baseFee.toNat) := by
  rw [← Nat.not_le, ← Pricing.overflows_two_iff, ← Pricing.total_two]
  refine Option.map_eq_some_iff.trans ⟨?_, ?_⟩
  · rintro ⟨maxFee, found, rfl⟩
    obtain ⟨fits, value⟩ := Pricing.maxFee?_eq_some_iff.mp found
    exact ⟨fits, maxFee, value, rfl⟩
  · rintro ⟨fits, maxFee, value, rfl⟩
    exact ⟨maxFee, Pricing.maxFee?_eq_some_iff.mpr ⟨fits, value⟩, rfl⟩

end

/-- Without a latest block a fetch fails, and without a response to the question for a tip it does
too. Otherwise the tip is the default one, or what the node asks for if that is more, and the fetch
offers twice the base fee and the tip, up to the cap, exactly if that sum fits into 128 bits; the
offer then pays for the tip or reaches the cap. A fetch whose sum does not fit has no result: it
breaks off. No tip below the last `2 ^ 65` amounts makes it do so. -/
theorem fetch_overflows (default cap : Wei) (memory : UInt64) (limit : Nat)
    (block : Option Http.Response) :
    (∀ failure, sighted limit block = .error failure → ∀ rest result,
      Runs ((doubling default cap memory).fetch limit) (⟨.opening .latestBlock, block⟩ :: rest)
          result ↔
        rest = [] ∧ result = (.error failure, doubling default cap memory)) ∧
    ∀ stated, sighted limit block = .ok stated → ∀ response,
      let baseFee := stated.getD memory
      let after := doubling default cap baseFee
      let trace : List (Exchange Node) :=
        [⟨.opening .latestBlock, block⟩, ⟨.further .priorityFee, response⟩]
      (response = none → ∀ result,
        Runs ((doubling default cap memory).fetch limit) trace result ↔
          result = (.error (.timeout operation limit), after)) ∧
      (response ≠ none →
        let answer := Rpc.reading operation limit Rpc.readWei response
        let tip := wantedTip default answer
        let sum := Pricing.sum baseFee tip
        (∀ asked, answer = .ok asked → tip.toNat = max asked.toNat default.toNat) ∧
        (∀ failure, answer = .error failure → tip = default) ∧
        (∀ result, Runs ((doubling default cap memory).fetch limit) trace result ↔
          sum < 2 ^ 128 ∧ ∃ maxFee : Wei, maxFee.toNat = min sum cap.toNat ∧
            min tip.toNat cap.toNat ≤ maxFee.toNat ∧
            result =
              (.ok (.dynamic maxFee (tip.min maxFee) (BitVec.ofNat 128 baseFee.toNat)), after)) ∧
        (∀ call, Breaks ((doubling default cap memory).fetch limit) trace call ↔
          call = .panic "attempt to add with overflow" ∧ 2 ^ 128 ≤ sum) ∧
        (tip.toNat < 2 ^ 128 - 2 ^ 65 → sum < 2 ^ 128)) := by
  refine ⟨fun failure unseen rest ⟨fetched, after⟩ => runs_unseen_iff unseen, ?_⟩
  intro stated seen response baseFee after trace
  refine ⟨fun missing ⟨fetched, next⟩ => ?_, fun answered => ?_⟩
  · refine (runs_seen_iff seen).trans ?_
    simp [missing, after, baseFee, and_comm]
  · intro answer tip sum
    have pays : tip.toNat ≤ sum := Nat.le_add_left _ _
    have reaches : min tip.toNat cap.toNat ≤ min sum cap.toNat := by omega
    refine ⟨fun asked => toNat_wantedTip, fun failure => wantedTip_of_error,
      fun ⟨fetched, next⟩ => ?_, fun call => ?_, Pricing.sum_lt⟩
    · refine (runs_seen_iff seen).trans ?_
      constructor
      · rintro ⟨rfl, ⟨missing, -⟩ | ⟨-, fee, rfl, offered⟩⟩
        · exact absurd missing answered
        · obtain ⟨fits, maxFee, value, rfl⟩ := offerDynamic?_two_iff.mp offered
          exact ⟨fits, maxFee, value, value ▸ reaches, rfl⟩
      · rintro ⟨fits, maxFee, value, -, same⟩
        cases same
        exact ⟨rfl, .inr ⟨answered, _, rfl, offerDynamic?_two_iff.mpr ⟨fits, maxFee, value, rfl⟩⟩⟩
    · refine (breaks_seen_iff seen).trans (and_congr_right fun _ => ?_)
      exact and_iff_right answered

/-! ## A tip next to the largest amount -/

/-- A byte string of zeros. -/
def zeros (count : Nat) : Json :=
  .ofText (Hex.encode (List.replicate count 0))

theorem readFixed_zeros (count : Nat) :
    Rpc.readFixed count (zeros count) = some (List.replicate count 0) := by
  have read := Rpc.readFixed_encode (List.replicate count 0)
  rwa [List.length_replicate] at read

/-- The fields of a block with a base fee of 100 gwei, and zeros elsewhere. -/
def plainFields : List (String × Json) :=
  [("hash", zeros 32), ("parentHash", zeros 32), ("sha3Uncles", zeros 32), ("stateRoot", zeros 32),
    ("transactionsRoot", zeros 32), ("receiptsRoot", zeros 32), ("mixHash", zeros 32),
    ("miner", zeros 20), ("logsBloom", zeros 256), ("difficulty", .ofText "0x0"),
    ("number", .ofText "0x0"), ("gasLimit", .ofText "0x0"), ("gasUsed", .ofText "0x0"),
    ("timestamp", .ofText "0x0"), ("extraData", zeros 0), ("nonce", zeros 8),
    ("baseFeePerGas", .ofText "0x174876e800")]

/-- The block with these fields. -/
def plainBlock : Json :=
  .ofMembers plainFields

theorem writable_plainBlock : plainBlock.Writable := by
  refine Json.writable_ofMembers ?_
  simp [plainFields, zeros, Json.writable_ofText]

theorem required_plainBlock {α : Type} {key : String} {value : Json}
    (listed : (key, value) ∈ plainFields) (read : Json → Option α) :
    Rpc.required plainBlock key read = read value :=
  Rpc.required_ofMembers (by decide) listed read

theorem complete_plainBlock : Rpc.Complete plainBlock where
  hashes key listed := by
    have field : (key, zeros 32) ∈ plainFields := by
      simp only [List.mem_cons, List.not_mem_nil, or_false] at listed
      rcases listed with rfl | rfl | rfl | rfl | rfl | rfl | rfl <;> simp [plainFields]
    rw [required_plainBlock field, Rpc.readHash, readFixed_zeros]
    rfl
  miner := by
    have field : ("miner", zeros 20) ∈ plainFields := by simp [plainFields]
    rw [required_plainBlock field, Rpc.readAddress, readFixed_zeros]
    rfl
  bloom := by
    have field : ("logsBloom", zeros 256) ∈ plainFields := by simp [plainFields]
    rw [required_plainBlock field, readFixed_zeros]
    rfl
  difficulty := by
    have field : ("difficulty", .ofText "0x0") ∈ plainFields := by simp [plainFields]
    rw [required_plainBlock field]
    decide +kernel
  counts key listed := by
    have field : (key, .ofText "0x0") ∈ plainFields := by
      simp only [List.mem_cons, List.not_mem_nil, or_false] at listed
      rcases listed with rfl | rfl | rfl | rfl <;> simp [plainFields]
    rw [required_plainBlock field]
    decide +kernel
  extra := by
    have field : ("extraData", zeros 0) ∈ plainFields := by simp [plainFields]
    rw [required_plainBlock field]
    decide +kernel
  nonce := by
    have field : ("nonce", zeros 8) ∈ plainFields := by simp [plainFields]
    rw [required_plainBlock field, readFixed_zeros]
    rfl

theorem reading_plainBlock :
    Rpc.reading operation 15000 Rpc.readLatestBlock (some (Rpc.answering plainBlock)) =
      .ok (some (some 100000000000)) := by
  have baseFee : Rpc.readUInt64 (.ofText "0x174876e800") = some 100000000000 := rfl
  have stated : Rpc.optional plainBlock "baseFeePerGas" Rpc.readUInt64 =
      some (some 100000000000) := congrArg (Option.map some) baseFee
  have block : Rpc.readLatestBlock plainBlock = (Rpc.readBaseFee plainBlock).map some := rfl
  rw [Rpc.reading_answering writable_plainBlock, block, complete_plainBlock.readBaseFee, stated]
  rfl

/-- The largest amount. -/
def vastTip : Json :=
  .ofText "0xffffffffffffffffffffffffffffffff"

theorem reading_vastTip :
    Rpc.reading operation 15000 Rpc.readWei (some (Rpc.answering vastTip)) =
      .ok (BitVec.allOnes 128) := by
  have writable : vastTip.Writable := Json.writable_ofText _
  have read : Rpc.readWei vastTip = some (BitVec.allOnes 128) := rfl
  rw [Rpc.reading_answering writable, read]
  rfl

/-- At a base fee of 100 gwei a node asks for the largest amount as a tip. The sum is above the cap
of 500 gwei, but instead of offering that the fetch breaks off. -/
theorem fetch_overflows_vast :
    let trace : List (Exchange Node) :=
      [⟨.opening .latestBlock, some (Rpc.answering plainBlock)⟩,
        ⟨.further .priorityFee, some (Rpc.answering vastTip)⟩]
    Breaks ((doubling 30000000000 500000000000 30000000000).fetch 15000) trace
        (.panic "attempt to add with overflow") ∧
      (∀ result, ¬Runs ((doubling 30000000000 500000000000 30000000000).fetch 15000) trace result) ∧
      min (Pricing.sum 100000000000 (BitVec.allOnes 128)) (500000000000 : Wei).toNat =
        500000000000 := by
  have large : 2 ^ 128 ≤ Pricing.sum 100000000000 (BitVec.allOnes 128) := by decide +kernel
  have sight : sighted 15000 (some (Rpc.answering plainBlock)) = .ok (some 100000000000) := by
    rw [sighted, reading_plainBlock]
  have tip : wantedTip 30000000000 (.ok (BitVec.allOnes 128)) = BitVec.allOnes 128 := by decide
  obtain ⟨-, answered⟩ := (fetch_overflows 30000000000 500000000000 30000000000 15000 _).2 _ sight
    (some (Rpc.answering vastTip))
  obtain ⟨-, -, ends, breaks, -⟩ := answered nofun
  rw [reading_vastTip, tip] at ends breaks
  refine ⟨(breaks _).mpr ⟨rfl, large⟩, fun result run => ?_, by decide +kernel⟩
  exact Nat.not_lt.mpr large ((ends result).mp run).1

end FeeSource

end VaultKeeper
