import VaultKeeper.Proofs.Abi.Layout
import VaultKeeper.Proofs.Fee.Source
import VaultKeeper.Proofs.Retry
import VaultKeeper.Proofs.Rpc.Answer
import VaultKeeper.Rpc.ChainReader

/-! # What the words of a contract are taken for

A strategy returns lists of any length, and any word can stand in them. A state is taken from them
exactly if every place that it needs is there and the two fuses are in states that exist; otherwise
the answer is refused, and no place outside a list is ever looked at. Where a word has to fit in
fewer bits, it is cut off at the largest number, so that a large word never counts as a small one.
-/

namespace VaultKeeper

namespace Word

variable {word other : Word}

theorem toNat_toUInt64Saturating (word : Word) :
    word.toUInt64Saturating.toNat = Nat.min word.toNat (UInt64.size - 1) := by
  have fits : Nat.min word.toNat (UInt64.size - 1) < UInt64.size :=
    Nat.lt_of_le_of_lt (Nat.min_le_right _ _) (by decide)
  exact (UInt64.toNat_ofNat_of_lt fits :)

/-- Two words are told apart in 64 bits unless neither of them is below the largest number there. -/
theorem toUInt64Saturating_eq_iff :
    word.toUInt64Saturating = other.toUInt64Saturating ↔
      word = other ∨ UInt64.size - 1 ≤ word.toNat ∧ UInt64.size - 1 ≤ other.toNat := by
  rw [← UInt64.toNat_inj, toNat_toUInt64Saturating, toNat_toUInt64Saturating, ← BitVec.toNat_inj]
  change min _ _ = min _ _ ↔ _
  omega

end Word

namespace Fuse

/-- The number of a fuse state on chain. -/
def number : Fuse → Nat
  | disabled => 0
  | off => 1
  | onLowerLimit => 2
  | onUpperLimit => 3

theorem ofNumber?_eq_some_iff {n : Nat} {fuse : Fuse} :
    ofNumber? n = some fuse ↔ n = fuse.number := by
  constructor
  · intro found
    unfold ofNumber? at found
    split at found <;> cases found <;> rfl
  · rintro rfl
    cases fuse <;> rfl

theorem number_le (fuse : Fuse) : fuse.number ≤ 3 := by
  cases fuse <;> decide

theorem exists_number_iff {n : Nat} : (∃ fuse : Fuse, n = fuse.number) ↔ n ≤ 3 := by
  constructor
  · rintro ⟨fuse, rfl⟩
    exact fuse.number_le
  · intro small
    match n with
    | 0 => exact ⟨disabled, rfl⟩
    | 1 => exact ⟨off, rfl⟩
    | 2 => exact ⟨onLowerLimit, rfl⟩
    | 3 => exact ⟨onUpperLimit, rfl⟩

end Fuse

namespace Abi

/-- Thresholds come back as the three words that the data begins with. -/
theorem decode_strategyConfig_iff {data : Bytes} {values : List Value} :
    decode Contract.Query.strategyConfig.returns data = some values ↔
      ∃ first second third, values = [.word first, .word second, .word third] ∧
        StandsAt data 0 (row [first, second, third]) := by
  simp only [standsAt_row_cons_iff, row_singleton]
  rw [decode, Contract.Query.returns, decodeFrom_single_iff]
  constructor
  · rintro ⟨first, _, rfl, begins, read⟩
    obtain ⟨second, _, rfl, goesOn, read⟩ := decodeFrom_single_iff.mp read
    obtain ⟨third, rest, rfl, ends, read⟩ := decodeFrom_single_iff.mp read
    rw [decodeFrom] at read
    cases read
    exact ⟨first, second, third, rfl, begins, goesOn, ends⟩
  · rintro ⟨first, second, third, rfl, begins, goesOn, ends⟩
    refine ⟨first, _, rfl, begins, ?_⟩
    refine decodeFrom_single_iff.mpr ⟨second, _, rfl, goesOn, ?_⟩
    exact decodeFrom_single_iff.mpr ⟨third, _, rfl, ends, rfl⟩

end Abi

namespace Rpc

namespace StrategyState

variable {strategy : Address} {addresses : List Address} {numbers : List Word} {number : Word}

/-- A word stands for a fuse state only if it is its number in all of its bits. -/
theorem fuse_eq_ok_iff {state : Fuse} :
    fuse strategy number = .ok state ↔ number.toNat = state.number := by
  have small := state.number_le
  have known : fuse strategy number = .ok state ↔
      Fuse.ofNumber? number.toUInt64Saturating.toNat = some state := by
    unfold fuse
    dsimp only
    cases Fuse.ofNumber? number.toUInt64Saturating.toNat <;> simp
  rw [known, Fuse.ofNumber?_eq_some_iff, Word.toNat_toUInt64Saturating]
  change min _ _ = _ ↔ _
  have large : UInt64.size = 18446744073709551616 := rfl
  omega

/-- The failure of lists that are too short. -/
def shortLists (strategy : Address) (addresses : List Address) (numbers : List Word) : Failure :=
  .fatal (.told ("getDefaultState of " ++ strategy.text
    ++ s!" returned {addresses.length} addresses and {numbers.length} nums"))

/-- What stands at a place of a list. A place outside of the list ends everything, with neither a
state nor a failure. -/
def place {α : Type} (list : List α) (index : Nat) : ExceptT Failure Option α :=
  ExceptT.lift list[index]?

/-- The state by the places of the lists, in the order in which they are looked at. -/
def atPlaces (strategy : Address) (addresses : List Address) (numbers : List Word) :
    ExceptT Failure Option StrategyState := do
  let tokenA ← place addresses 0
  let tokenB ← place addresses 1
  let fuseA ← ExceptT.mk (some (fuse strategy (← place numbers 1)))
  let fuseB ← ExceptT.mk (some (fuse strategy (← place numbers 2)))
  let withdrawDone ← place numbers 3
  let lastRebalance ← place numbers 12
  pure ⟨tokenA, tokenB, fuseA, fuseB, withdrawDone != 0, lastRebalance.toUInt64Saturating⟩

/-- The state by places, looked at only once the lists are known to be long enough. -/
def checked (strategy : Address) (addresses : List Address) (numbers : List Word) :
    ExceptT Failure Option StrategyState :=
  if addresses.length < 2 ∨ numbers.length < numberCount then
    throw (shortLists strategy addresses numbers)
  else atPlaces strategy addresses numbers

/-- A list that is long enough begins with that many places. -/
theorem exists_ofFn_append {α : Type} {list : List α} {n : Nat} (long : n ≤ list.length) :
    ∃ (front : Fin n → α) (rest : List α), list = List.ofFn front ++ rest := by
  refine ⟨fun index => list.get (index.castLE long), list.drop n, ?_⟩
  have front : list.take n = List.ofFn fun index : Fin n => list.get (index.castLE long) := by
    refine List.ext_getElem (by simp [long]) fun index _ _ => ?_
    simp
  rw [← front, List.take_append_drop]

theorem ofLists_of_short (short : addresses.length < 2 ∨ numbers.length < numberCount) :
    ofLists strategy addresses numbers = .error (shortLists strategy addresses numbers) := by
  unfold ofLists
  split
  · simp only [List.length_cons, numberCount] at short
    omega
  · rfl

section

variable (tokens : Fin 2 → Address) (others : List Address) (words : Fin 13 → Word)
  (rest : List Word)

/-- The state of lists that are long enough. -/
theorem ofLists_of_long :
    ofLists strategy (List.ofFn tokens ++ others) (List.ofFn words ++ rest) = (do
      let fuseA ← fuse strategy (words 1)
      let fuseB ← fuse strategy (words 2)
      pure ⟨tokens 0, tokens 1, fuseA, fuseB, words 3 != 0, (words 12).toUInt64Saturating⟩) :=
  rfl

/-- No place of the state lies outside of them. -/
theorem atPlaces_of_long :
    (atPlaces strategy (List.ofFn tokens ++ others) (List.ofFn words ++ rest)).run =
      some (ofLists strategy (List.ofFn tokens ++ others) (List.ofFn words ++ rest)) := by
  have found : atPlaces strategy (List.ofFn tokens ++ others) (List.ofFn words ++ rest) = (do
      let fuseA ← ExceptT.mk (some (fuse strategy (words 1)))
      let fuseB ← ExceptT.mk (some (fuse strategy (words 2)))
      pure ⟨tokens 0, tokens 1, fuseA, fuseB, words 3 != 0, (words 12).toUInt64Saturating⟩) :=
    rfl
  rw [found, ofLists_of_long]
  cases fuse strategy (words 1) with
  | error failure => rfl
  | ok fuseA =>
    cases fuse strategy (words 2) with
    | error failure => rfl
    | ok fuseB => rfl

end

/-- Lists are too short for a state, or they have all of its places. -/
theorem short_or_long (addresses : List Address) (numbers : List Word) :
    (addresses.length < 2 ∨ numbers.length < numberCount) ∨
      ∃ (tokens : Fin 2 → Address) (others : List Address) (words : Fin 13 → Word)
        (rest : List Word),
        addresses = List.ofFn tokens ++ others ∧ numbers = List.ofFn words ++ rest := by
  refine or_iff_not_imp_left.mpr fun long => ?_
  obtain ⟨two, thirteen⟩ := not_or.mp long
  obtain ⟨tokens, others, rfl⟩ := exists_ofFn_append (Nat.le_of_not_lt two)
  have many : 13 ≤ numbers.length := Nat.le_of_not_lt thirteen
  obtain ⟨words, rest, rfl⟩ := exists_ofFn_append many
  exact ⟨tokens, others, words, rest, rfl, rfl⟩

/-- The check is enough: no place outside of the lists is looked at, and the state is the one that
is taken from them. -/
theorem checked_eq (strategy : Address) (addresses : List Address) (numbers : List Word) :
    (checked strategy addresses numbers).run = some (ofLists strategy addresses numbers) := by
  unfold checked
  split
  · next short =>
    rw [ofLists_of_short short]
    rfl
  · next long =>
    obtain short | ⟨tokens, others, words, rest, rfl, rfl⟩ := short_or_long addresses numbers
    · exact absurd short long
    · exact atPlaces_of_long tokens others words rest

/-- The state is what the lists show: the first two addresses, the fuses with the numbers at places
1 and 2, a flag at place 3 and the time at place 12. -/
structure Shown (addresses : List Address) (numbers : List Word) (state : StrategyState) :
    Prop where
  tokenA : addresses[0]? = some state.tokenA
  tokenB : addresses[1]? = some state.tokenB
  fuseA : ∃ number, numbers[1]? = some number ∧ number.toNat = state.fuseA.number
  fuseB : ∃ number, numbers[2]? = some number ∧ number.toNat = state.fuseB.number
  withdrawDone : ∃ number, numbers[3]? = some number ∧ (state.withdrawDone = true ↔ number ≠ 0)
  lastRebalance : ∃ number, numbers[12]? = some number ∧
    state.lastRebalance.toNat = Nat.min number.toNat (UInt64.size - 1)

/-- A state is shown only by lists that are long enough. -/
theorem Shown.long {state : StrategyState} (shown : Shown addresses numbers state) :
    2 ≤ addresses.length ∧ 13 ≤ numbers.length := by
  obtain ⟨last, found, -⟩ := shown.lastRebalance
  obtain ⟨two, -⟩ := List.getElem?_eq_some_iff.mp shown.tokenB
  obtain ⟨thirteen, -⟩ := List.getElem?_eq_some_iff.mp found
  exact ⟨two, thirteen⟩

/-- A state is taken from the lists exactly if they show it. -/
theorem ofLists_eq_ok_iff {state : StrategyState} :
    ofLists strategy addresses numbers = .ok state ↔ Shown addresses numbers state := by
  obtain short | ⟨tokens, others, words, rest, rfl, rfl⟩ := short_or_long addresses numbers
  · rw [ofLists_of_short short]
    refine iff_of_false nofun fun shown => ?_
    have long := shown.long
    simp only [numberCount] at short
    omega
  · rw [ofLists_of_long]
    constructor
    · intro read
      obtain ⟨fuseA, first, read⟩ := bind_eq_ok_iff.mp read
      obtain ⟨fuseB, second, read⟩ := bind_eq_ok_iff.mp read
      cases read
      exact {
        tokenA := rfl
        tokenB := rfl
        fuseA := ⟨words 1, rfl, fuse_eq_ok_iff.mp first⟩
        fuseB := ⟨words 2, rfl, fuse_eq_ok_iff.mp second⟩
        withdrawDone := ⟨words 3, rfl, bne_iff_ne⟩
        lastRebalance := ⟨words 12, rfl, Word.toNat_toUInt64Saturating _⟩ }
    · intro shown
      obtain ⟨_, ⟨⟩, first⟩ := shown.fuseA
      obtain ⟨_, ⟨⟩, second⟩ := shown.fuseB
      obtain ⟨_, ⟨⟩, flag⟩ := shown.withdrawDone
      obtain ⟨_, ⟨⟩, time⟩ := shown.lastRebalance
      refine bind_eq_ok_iff.mpr ⟨state.fuseA, fuse_eq_ok_iff.mpr first, ?_⟩
      refine bind_eq_ok_iff.mpr ⟨state.fuseB, fuse_eq_ok_iff.mpr second, ?_⟩
      have tokenA : tokens 0 = state.tokenA := Option.some.inj shown.tokenA
      have tokenB : tokens 1 = state.tokenB := Option.some.inj shown.tokenB
      have done : (words 3 != 0) = state.withdrawDone :=
        Bool.eq_iff_iff.mpr (bne_iff_ne.trans flag.symm)
      have last : (words 12).toUInt64Saturating = state.lastRebalance :=
        UInt64.toNat_inj.mp ((Word.toNat_toUInt64Saturating _).trans time.symm)
      rw [tokenA, tokenB, done, last]
      rfl

/-- Which lists a state is taken from. -/
theorem exists_ofLists_iff :
    (∃ state, ofLists strategy addresses numbers = .ok state) ↔
      2 ≤ addresses.length ∧ 13 ≤ numbers.length ∧
        ∃ first second, numbers[1]? = some first ∧ numbers[2]? = some second ∧
          first.toNat ≤ 3 ∧ second.toNat ≤ 3 := by
  constructor
  · rintro ⟨state, read⟩
    have shown := ofLists_eq_ok_iff.mp read
    obtain ⟨first, placeA, numberA⟩ := shown.fuseA
    obtain ⟨second, placeB, numberB⟩ := shown.fuseB
    exact ⟨shown.long.1, shown.long.2, first, second, placeA, placeB,
      Fuse.exists_number_iff.mp ⟨_, numberA⟩, Fuse.exists_number_iff.mp ⟨_, numberB⟩⟩
  · rintro ⟨two, thirteen, first, second, placeA, placeB, smallA, smallB⟩
    obtain ⟨fuseA, numberA⟩ := Fuse.exists_number_iff.mpr smallA
    obtain ⟨fuseB, numberB⟩ := Fuse.exists_number_iff.mpr smallB
    exact ⟨⟨addresses[0], addresses[1], fuseA, fuseB, numbers[3] != 0,
        numbers[12].toUInt64Saturating⟩,
      ofLists_eq_ok_iff.mpr {
        tokenA := List.getElem?_eq_getElem _
        tokenB := List.getElem?_eq_getElem _
        fuseA := ⟨first, placeA, numberA⟩
        fuseB := ⟨second, placeB, numberB⟩
        withdrawDone := ⟨_, List.getElem?_eq_getElem _, bne_iff_ne⟩
        lastRebalance :=
          ⟨_, List.getElem?_eq_getElem _, Word.toNat_toUInt64Saturating _⟩ }⟩

end StrategyState

namespace ChainReader

open Program

/-- A percentage is the word itself or one hundred, whichever is less. -/
theorem toNat_percentOf (word : Word) : (percentOf word).toNat = Nat.min word.toNat 100 := by
  have fits : Nat.min word.toNat 100 < UInt8.size :=
    Nat.lt_of_le_of_lt (Nat.min_le_right _ _) (by decide)
  exact (UInt8.toNat_ofNat_of_lt fits :)

/-- Thresholds as three words give them. -/
structure Clamped (delayed forced delay : Word) (thresholds : Thresholds) : Prop where
  delayed : thresholds.delayedPercent.toNat = Nat.min delayed.toNat 100
  forced : thresholds.forcedPercent.toNat = Nat.min forced.toNat 100
  delay : thresholds.delay.toNat = Nat.min delay.toNat (UInt64.size - 1)

theorem clamped_iff {delayed forced delay : Word} {thresholds : Thresholds} :
    Clamped delayed forced delay thresholds ↔
      thresholds = ⟨percentOf delayed, percentOf forced, delay.toUInt64Saturating⟩ := by
  constructor
  · rintro ⟨low, high, time⟩
    rw [← toNat_percentOf, UInt8.toNat_inj] at low high
    rw [← Word.toNat_toUInt64Saturating, UInt64.toNat_inj] at time
    rw [← low, ← high, ← time]
  · rintro rfl
    exact ⟨toNat_percentOf _, toNat_percentOf _, Word.toNat_toUInt64Saturating _⟩

/-- A response of success whose result begins with three words. -/
def Returns (response : Option Http.Response) (delayed forced delay : Word) : Prop :=
  ∃ code body result data, response = some (.answered code body) ∧ Http.isSuccess code = true ∧
    readBody body = .ok result ∧ readBytes result = some data ∧
    Abi.StandsAt data 0 (Abi.row [delayed, forced, delay])

/-- The thresholds that the values of an answer give. -/
def asThresholds : List Abi.Value → Option Thresholds
  | [.word delayed, .word forced, .word delay] =>
    some ⟨percentOf delayed, percentOf forced, delay.toUInt64Saturating⟩
  | _ => none

theorem readReturn_asThresholds_iff {result : Json} {thresholds : Thresholds} :
    readReturn .strategyConfig asThresholds result = some thresholds ↔
      ∃ data delayed forced delay, readBytes result = some data ∧
        Abi.StandsAt data 0 (Abi.row [delayed, forced, delay]) ∧
        Clamped delayed forced delay thresholds := by
  constructor
  · intro read
    obtain ⟨data, bytes, read⟩ := Option.bind_eq_some_iff.mp read
    obtain ⟨values, decoded, read⟩ := Option.bind_eq_some_iff.mp read
    obtain ⟨delayed, forced, delay, rfl, row⟩ := Abi.decode_strategyConfig_iff.mp decoded
    cases read
    exact ⟨data, delayed, forced, delay, bytes, row, clamped_iff.mpr rfl⟩
  · rintro ⟨data, delayed, forced, delay, bytes, row, clamped⟩
    rw [clamped_iff.mp clamped]
    have decoded := Abi.decode_strategyConfig_iff.mpr ⟨delayed, forced, delay, rfl, row⟩
    exact Option.bind_eq_some_iff.mpr ⟨data, bytes, Option.bind_eq_some_iff.mpr ⟨_, decoded, rfl⟩⟩

/-- Thresholds are read of a response exactly if it returns words that give them. -/
theorem reading_asThresholds_iff {operation : String} {limit : Nat}
    {response : Option Http.Response} {thresholds : Thresholds} :
    reading operation limit (readReturn .strategyConfig asThresholds) response = .ok thresholds ↔
      ∃ delayed forced delay, Returns response delayed forced delay ∧
        Clamped delayed forced delay thresholds := by
  rw [reading_eq_ok_iff]
  constructor
  · rintro ⟨code, body, result, rfl, success, stated, read⟩
    obtain ⟨data, delayed, forced, delay, bytes, row, clamped⟩ :=
      readReturn_asThresholds_iff.mp read
    exact ⟨delayed, forced, delay, ⟨code, body, result, data, rfl, success, stated, bytes, row⟩,
      clamped⟩
  · rintro ⟨delayed, forced, delay, ⟨code, body, result, data, rfl, success, stated, bytes, row⟩,
      clamped⟩
    exact ⟨code, body, result, rfl, success, stated,
      readReturn_asThresholds_iff.mpr ⟨data, delayed, forced, delay, bytes, row, clamped⟩⟩

/-- Any three words can be returned. -/
theorem exists_returns (delayed forced delay : Word) :
    ∃ response, Returns response delayed forced delay := by
  let data := Abi.row [delayed, forced, delay]
  -- a result that is read as it is shows what the body states
  have stated : reading "" 0 some (some (answering (.ofText (Hex.encode data)))) = .ok _ :=
    reading_answering (.string _) "" 0 some
  obtain ⟨code, body, result, answered, success, body', ⟨⟩⟩ := reading_eq_ok_iff.mp stated
  exact ⟨_, code, body, _, data, answered, success, body', readBytes_encode data, [], [], rfl,
    by simp [data]⟩

/-- The call for the thresholds of a strategy. -/
def configRequest (reader : ChainReader) (strategy : Address) : Request :=
  viewRequest .strategyConfig reader.debtConfig [.word strategy.toWord]

section

variable {reader : ChainReader} {strategy : Address} {trace : List (Exchange Node)}
  {result : Except Failure Thresholds}

theorem thresholds_eq : reader.thresholds strategy =
    VaultKeeper.retry Node.sleep (fetch "strategyConfig" reader.timeout
      (reader.configRequest strategy) (readReturn .strategyConfig asThresholds)) reader.retry :=
  rfl

/-- What the last response returns decides what is read. -/
theorem last_of_runs_thresholds (run : Runs (reader.thresholds strategy) trace result) :
    ∃ earlier response, trace = earlier ++ [⟨.node (reader.configRequest strategy), response⟩] ∧
      ∀ thresholds, result = .ok thresholds ↔
        ∃ delayed forced delay, Returns response delayed forced delay ∧
          Clamped delayed forced delay thresholds := by
  rw [thresholds_eq] at run
  obtain ⟨earlier, last, rfl, called⟩ := last_of_runs_retryFrom run
  obtain ⟨response, rfl, rfl⟩ := runs_fetch_iff.mp called
  exact ⟨earlier, response, rfl, fun thresholds => reading_asThresholds_iff⟩

/-- A response that returns words settles the call at once. -/
theorem runs_thresholds_of_returns {response : Option Http.Response} {delayed forced delay : Word}
    (returned : Returns response delayed forced delay) :
    ∃ thresholds, Clamped delayed forced delay thresholds ∧
      Runs (reader.thresholds strategy) [⟨.node (reader.configRequest strategy), response⟩]
        (.ok thresholds) := by
  refine ⟨_, clamped_iff.mpr rfl, ?_⟩
  rw [thresholds_eq]
  refine runs_retryFrom_of_ok (runs_fetch_iff.mpr ⟨response, rfl, ?_⟩)
  exact (reading_asThresholds_iff.mpr ⟨delayed, forced, delay, returned, clamped_iff.mpr rfl⟩).symm

end

end ChainReader

open Program StrategyState ChainReader

/-- Lists of any lengths and words of all sizes are read safely. A state is taken from every pair of
lists without a look outside of them; it is there exactly if two addresses and thirteen words are
there and both fuses have a number up to three, and it is what the lists show. In 64 bits no word is
confused with another one, unless both are at least the largest number. Thresholds are the three
words that the last response returned, the percentages cut off at one hundred and the delay at the
largest number, whatever the words are. -/
theorem answers_decoded :
    (∀ (strategy : Address) (addresses : List Address) (numbers : List Word),
      (checked strategy addresses numbers).run = some (ofLists strategy addresses numbers) ∧
      ((∃ state, ofLists strategy addresses numbers = .ok state) ↔
        2 ≤ addresses.length ∧ 13 ≤ numbers.length ∧
          ∃ first second, numbers[1]? = some first ∧ numbers[2]? = some second ∧
            first.toNat ≤ 3 ∧ second.toNat ≤ 3) ∧
      ∀ state, ofLists strategy addresses numbers = .ok state ↔ Shown addresses numbers state) ∧
    (∀ word other : Word, word.toUInt64Saturating = other.toUInt64Saturating ↔
      word = other ∨ UInt64.size - 1 ≤ word.toNat ∧ UInt64.size - 1 ≤ other.toNat) ∧
    ∀ (reader : ChainReader) (strategy : Address),
      (∀ trace result, Runs (reader.thresholds strategy) trace result →
        ∃ earlier response,
          trace = earlier ++ [⟨.node (reader.configRequest strategy), response⟩] ∧
          ∀ thresholds, result = .ok thresholds ↔
            ∃ delayed forced delay, Returns response delayed forced delay ∧
              Clamped delayed forced delay thresholds) ∧
      ∀ delayed forced delay : Word, (∃ response, Returns response delayed forced delay) ∧
        ∀ response, Returns response delayed forced delay →
          ∃ thresholds, Clamped delayed forced delay thresholds ∧
            Runs (reader.thresholds strategy)
              [⟨.node (reader.configRequest strategy), response⟩] (.ok thresholds) := by
  refine ⟨fun strategy addresses numbers => ?_, fun _ _ => Word.toUInt64Saturating_eq_iff,
    fun reader strategy => ⟨fun _ _ run => last_of_runs_thresholds run,
      fun delayed forced delay => ?_⟩⟩
  · exact ⟨checked_eq strategy addresses numbers, exists_ofLists_iff, fun _ => ofLists_eq_ok_iff⟩
  · exact ⟨exists_returns delayed forced delay, fun _ => runs_thresholds_of_returns⟩

/-- Thirteen numbers with one for the first fuse and one for the time. -/
def thirteen (fuse last : Word) : List Word :=
  [0, fuse, 1, 0, 0, 0, 0, 0, 0, 0, 0, 0, last]

/-- A number beyond 64 bits stands for no fuse, although its last 64 bits would, and as a time it is
the largest one. -/
theorem answers_decoded_vast :
    (∀ state, ofLists 7 [1, 2] (thirteen (BitVec.ofNat 256 (UInt64.size + 1)) 0) ≠ .ok state) ∧
      ofLists 7 [1, 2] (thirteen 3 (BitVec.ofNat 256 (UInt64.size + 1))) =
        .ok ⟨1, 2, .onUpperLimit, .off, false, UInt64.ofNat (UInt64.size - 1)⟩ := by
  obtain ⟨lists, -, -⟩ := answers_decoded
  constructor
  · intro state read
    obtain ⟨-, readable, -⟩ := lists 7 [1, 2] (thirteen (BitVec.ofNat 256 (UInt64.size + 1)) 0)
    obtain ⟨-, -, first, second, ⟨⟩, -, small, -⟩ := readable.mp ⟨state, read⟩
    exact absurd small (by decide)
  · obtain ⟨-, -, shows⟩ := lists 7 [1, 2] (thirteen 3 (BitVec.ofNat 256 (UInt64.size + 1)))
    exact (shows _).mpr {
      tokenA := rfl
      tokenB := rfl
      fuseA := ⟨3, rfl, rfl⟩
      fuseB := ⟨1, rfl, rfl⟩
      withdrawDone := ⟨0, rfl, by decide⟩
      lastRebalance := ⟨BitVec.ofNat 256 (UInt64.size + 1), rfl, by decide⟩ }

end Rpc

end VaultKeeper
