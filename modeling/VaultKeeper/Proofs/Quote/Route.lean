import VaultKeeper.Proofs.Text.Amount
import VaultKeeper.Quote.Route

/-! # Which routes are accepted

A route becomes a quote exactly if its three texts state an address, calldata that is not empty and
an amount that a word can hold. Every other route is malformed, and the first text that states
nothing is the reason.
-/

namespace VaultKeeper

/-- The quote of a provider whose route says what was read. -/
def QuoteRequest.quoted (request : QuoteRequest) (provider : String) (reading : Route.Reading) :
    Quote where
  provider
  tokenIn := request.tokenIn
  tokenOut := request.tokenOut
  amountIn := request.amountIn
  amountOut := reading.amountOut
  target := reading.target
  callData := reading.callData

namespace Route

/-- The texts say what was read: the target stands behind at most one `0x`, the calldata, which is
not empty, behind `count` of them, and the amount is written as the numeral. -/
structure States (route : Route) (count : Nat) (numeral : Text.Numeral) (reading : Reading) :
    Prop where
  target : ∃ once, once ≤ 1 ∧ Hex.Marked once route.target reading.target.toBytes
  callData : Hex.Marked count route.callData reading.callData
  present : reading.callData ≠ []
  amount : numeral.Writes route.amountOut.toList
  value : numeral.value = reading.amountOut.toNat

/-- A route whose texts are what they should be: the calldata stands behind at most one `0x`, too,
and the amount has a digit. -/
def Usable (route : Route) : Prop :=
  ∃ count numeral reading, count ≤ 1 ∧ numeral.digits ≠ [] ∧ route.States count numeral reading

theorem readCallData_iff {text : String} {bytes : Bytes} :
    readCallData text = .ok bytes ↔ bytes ≠ [] ∧ ∃ count, Hex.Marked count text bytes := by
  rw [← Hex.decode_dropMarks_iff, readCallData]
  constructor
  · intro read
    split at read
    · cases read
    · cases read
    · next decoded present known =>
      cases read
      exact ⟨present, known⟩
  · rintro ⟨present, known⟩
    rw [known]
    cases bytes with
    | nil => exact absurd rfl present
    | cons byte rest => rfl

theorem ok_of_bind {ε α β : Type} {result : Except ε α} {next : α → Except ε β} {value : β}
    (read : result >>= next = .ok value) : ∃ item, result = .ok item ∧ next item = .ok value := by
  cases result with
  | error => cases read
  | ok item => exact ⟨item, rfl, read⟩

theorem ok_of_mapError {ε δ α : Type} {result : Except ε α} {reason : ε → δ} {value : α}
    (read : result.mapError reason = .ok value) : result = .ok value := by
  cases result with
  | error => cases read
  | ok item => exact congrArg Except.ok (Except.ok.inj read)

/-- A route is read if each of its texts is. -/
theorem read_of_texts {route : Route} {reading : Reading}
    (target : Address.parse route.target = .ok reading.target)
    (callData : readCallData route.callData = .ok reading.callData)
    (amount : Text.readAmount (1 <<< 256) route.amountOut.toList =
      .ok reading.amountOut.toNat) : route.read = .ok reading := by
  have word : BitVec.ofNat 256 reading.amountOut.toNat = reading.amountOut := by
    rw [BitVec.ofNat_toNat, BitVec.setWidth_eq]
  have whole : Reading.mk reading.target reading.callData
      (BitVec.ofNat 256 reading.amountOut.toNat) = reading := by
    rw [word]
  rw [Route.read, target, callData, amount]
  exact congrArg Except.ok whole

/-- The texts of a route are read exactly if they state what is read. -/
theorem read_iff {route : Route} {reading : Reading} :
    route.read = .ok reading ↔ ∃ count numeral, route.States count numeral reading := by
  have positive : 0 < 1 <<< 256 := by decide
  constructor
  · intro read
    obtain ⟨target, known, read⟩ := ok_of_bind read
    obtain ⟨callData, known', read⟩ := ok_of_bind read
    obtain ⟨amount, known'', read⟩ := ok_of_bind read
    cases read
    have behind := Address.parse_iff.mp (ok_of_mapError known)
    obtain ⟨present, count, marked⟩ := readCallData_iff.mp known'
    obtain ⟨numeral, writes, value, fits⟩ :=
      (Text.readAmount_iff positive).mp (ok_of_mapError known'')
    have word : (BitVec.ofNat 256 amount).toNat = amount :=
      (BitVec.toNat_ofNat amount 256).trans (Nat.mod_eq_of_lt fits)
    exact ⟨count, numeral, behind, marked, present, writes, value.trans word.symm⟩
  · rintro ⟨count, numeral, states⟩
    have target := Address.parse_iff.mpr states.target
    have callData := readCallData_iff.mpr ⟨states.present, count, states.callData⟩
    have fits : reading.amountOut.toNat < 1 <<< 256 := reading.amountOut.isLt
    exact read_of_texts target callData ((Text.readAmount_iff positive).mpr
      ⟨numeral, states.amount, states.value, fits⟩)

theorem toQuote_of_read {route : Route} {reading : Reading} (read : route.read = .ok reading)
    (provider : String) (request : QuoteRequest) :
    route.toQuote provider request = .ok (request.quoted provider reading) := by
  rw [toQuote, read]
  rfl

theorem toQuote_of_refused {route : Route} {error : Error} (read : route.read = .error error)
    (provider : String) (request : QuoteRequest) :
    route.toQuote provider request = .error (.malformed provider (.told error.message)) := by
  rw [toQuote, read]

/-- Whether a route that is read is usable shows in any way of reading it. -/
theorem States.usable_iff {route : Route} {count : Nat} {numeral : Text.Numeral}
    {reading : Reading} (states : route.States count numeral reading) :
    route.Usable ↔ count ≤ 1 ∧ numeral.digits ≠ [] := by
  constructor
  · rintro ⟨once, other, read, few, digits, usable⟩
    have counts := states.callData.unique usable.callData
    have lengths := states.amount.length_digits usable.amount
    refine ⟨counts ▸ few, fun none => digits ?_⟩
    rw [none] at lengths
    exact List.eq_nil_of_length_eq_zero lengths.symm
  · rintro ⟨few, digits⟩
    exact ⟨count, numeral, reading, few, digits, states⟩

/-- A route becomes a quote exactly if its texts state a target, calldata and an amount, which are
then the ones of the quote. Every other route is malformed. Not every route that is accepted is
usable: calldata may stand behind any number of `0x`, and a numeral without digits is an amount. -/
theorem toQuote_accepts (route : Route) (provider : String) (request : QuoteRequest) :
    (∀ quote, route.toQuote provider request = .ok quote ↔
      ∃ count numeral reading, route.States count numeral reading ∧
        quote = request.quoted provider reading) ∧
      ((∀ count numeral reading, ¬route.States count numeral reading) →
        ∃ error, route.read = .error error ∧
          route.toQuote provider request = .error (.malformed provider (.told error.message))) ∧
      ∀ count numeral reading, route.States count numeral reading →
        (route.Usable ↔ count ≤ 1 ∧ numeral.digits ≠ []) := by
  cases read : route.read with
  | ok reading =>
    obtain ⟨count, numeral, states⟩ := read_iff.mp read
    refine ⟨fun quote => ?_, fun none => absurd states (none count numeral reading),
      fun _ _ _ states => states.usable_iff⟩
    rw [toQuote_of_read read, Except.ok.injEq]
    constructor
    · rintro rfl
      exact ⟨count, numeral, reading, states, rfl⟩
    · rintro ⟨count, numeral, other, states, rfl⟩
      have same := read.symm.trans (read_iff.mpr ⟨count, numeral, states⟩)
      rw [Except.ok.inj same]
  | error error =>
    have refused := toQuote_of_refused read provider request
    refine ⟨fun quote => ?_, fun _ => ⟨error, rfl, refused⟩, fun _ _ _ states => states.usable_iff⟩
    rw [refused]
    constructor
    · nofun
    · rintro ⟨count, numeral, reading, states, -⟩
      cases read.symm.trans (read_iff.mpr ⟨count, numeral, states⟩)

/-- A route with `0x` twice before the calldata and no digit in the amount. -/
def laxRoute : Route :=
  ⟨"0x1111111254eeb25477b68fb85ed929f73a960582", "0x0x12", ""⟩

theorem toQuote_accepts_lax :
    laxRoute.toQuote "openocean" ⟨0xaa, 0xbb, 1000, 0xcc, .default⟩ =
        .ok ⟨"openocean", 0xaa, 0xbb, 1000, 0, 0x1111111254eeb25477b68fb85ed929f73a960582, [0x12]⟩ ∧
      ¬laxRoute.Usable := by
  have states : laxRoute.States 2 ⟨10, [], by simp⟩
      ⟨0x1111111254eeb25477b68fb85ed929f73a960582, [0x12], 0⟩ := {
    target := ⟨1, by decide, "1111111254eeb25477b68fb85ed929f73a960582".toList, rfl, rfl⟩
    callData := ⟨['1', '2'], rfl, rfl⟩
    present := by decide
    amount := ⟨[], [], List.mem_cons_self, rfl, rfl⟩
    value := rfl }
  obtain ⟨accepts, -, usable⟩ :=
    toQuote_accepts laxRoute "openocean" ⟨0xaa, 0xbb, 1000, 0xcc, .default⟩
  refine ⟨(accepts _).mpr ⟨_, _, _, states, rfl⟩, fun fit => ?_⟩
  exact ((usable _ _ _ states).mp fit).2 rfl

end Route

end VaultKeeper
