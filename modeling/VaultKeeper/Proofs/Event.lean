import Mathlib.Data.List.Nodup
import VaultKeeper.Event
import VaultKeeper.Proofs.Abi.Layout
import VaultKeeper.Proofs.Keccak

/-! # Which events a receipt tells of

A log tells of an event if the platform lists the event for the emitter and topic of the log and the
data is the canonical form of what the event carries. Logs of the strategy are held against its own
events and all others against those of the converter, each log in its turn.
-/

namespace VaultKeeper

open Abi

namespace Event

/-- The data of a log that reports an event. An array stands behind all places, after its length.
The accounts of a repayment are left out of the event, and its flag is any number of one byte, set
unless it is zero. -/
inductive Reports : Name → Bytes → Event → Prop
  | rebalanced (settlement : Settlement) :
      Reports .rebalanced (row [settlement.loss, settlement.profit, settlement.covered])
        (.rebalanced settlement)
  | rebalancedDebt (settlement : Settlement) :
      Reports .rebalancedDebt (row [settlement.loss, settlement.profit, settlement.covered])
        (.rebalancedDebt settlement)
  | fuseStatusChanged (status : Word) :
      Reports .fuseStatusChanged (row [status]) (.fuseStatusChanged status)
  | rewardsClaimed (tokens : List Address) (amounts : List Word) :
      Reports .rewardsClaimed
        (row ([wordOfNat 64, wordOfNat (96 + 32 * tokens.length), wordOfNat tokens.length]
          ++ tokens.map Address.toWord ++ wordOfNat amounts.length :: amounts))
        (.rewardsClaimed tokens amounts)
  | repaidBorrow (adapter receiver : Address) (amount flag : Word) (byte : flag.toNat < 256) :
      Reports .onRepayBorrow (row [adapter.toWord, amount, receiver.toWord, flag])
        (.repaidBorrow amount (flag != 0))

/-- Arrays have fewer than `2 ^ 32` items. -/
def Brief : Event → Prop
  | rewardsClaimed tokens amounts => tokens.length < 1 <<< 32 ∧ amounts.length < 1 <<< 32
  | _ => True

section

variable {name : Name} {data : Bytes} {event : Event} {value : Value} {values : List Value}
  {element : Element}

theorem allows_single_iff :
    (Kind.single element).allows value = true ↔
      ∃ word, value = .word word ∧ element.allows word = true := by
  cases value <;> simp [Kind.allows]

theorem allows_array_iff :
    (Kind.array element).allows value = true ↔
      ∃ words, value = .words words ∧ ∀ word ∈ words, element.allows word = true := by
  cases value <;> simp [Kind.allows]

/-- Words that stand for accounts are the accounts as words. -/
theorem map_toWord_ofWord {words : List Word}
    (accounts : ∀ word ∈ words, Element.address.allows word = true) :
    (words.map Address.ofWord).map Address.toWord = words := by
  rw [List.map_map]
  refine (List.map_congr_left fun word member => ?_).trans (List.map_id words)
  exact Address.toWord_ofWord (of_decide_eq_true (accounts word member))

/-- Words are encoded as they are. -/
theorem encode_words (words : List Word) : encode (words.map Value.word) = row words := by
  have places (offset : Nat) : heads offset (words.map Value.word) = row words := by
    induction words generalizing offset with
    | nil => rfl
    | cons word rest ih =>
      rw [List.map_cons, heads, ih]
      rfl
  have tails : (words.map Value.word).flatMap tail = [] := by
    induction words with
    | nil => rfl
    | cons word rest ih => simp [tail]
  rw [encode, places, tails, List.append_nil]

/-- Two arrays are encoded as their distances and then each behind its length. -/
theorem encode_arrays (first second : List Word) :
    encode [.words first, .words second] =
      row ([wordOfNat 64, wordOfNat (96 + 32 * first.length), wordOfNat first.length]
        ++ first ++ wordOfNat second.length :: second) := by
  have items : (first.flatMap Word.toBytes).length = 32 * first.length := length_row first
  simp [encode, heads, head, tail, row, items, ← Nat.add_assoc]

/-- What is in canonical form reports the event that its values stand for. -/
theorem reports_of_values (canonical : data = encode values)
    (allowed : List.Forall₂ (fun kind value => kind.allows value = true) name.kinds values)
    (carried : name.ofValues? values = some event) : Reports name data event := by
  cases name <;>
    simp only [Name.kinds, List.forall₂_cons_left_iff, List.forall₂_nil_left_iff,
      allows_single_iff, allows_array_iff] at allowed
  case rebalanced | rebalancedDebt =>
    obtain ⟨_, _, ⟨loss, rfl, -⟩, ⟨_, _, ⟨profit, rfl, -⟩, ⟨_, _, ⟨covered, rfl, -⟩, rfl, rfl⟩,
      rfl⟩, rfl⟩ := allowed
    rw [canonical.trans (encode_words [loss, profit, covered])]
    cases carried
    first
      | exact .rebalanced ⟨loss, profit, covered⟩
      | exact .rebalancedDebt ⟨loss, profit, covered⟩
  case fuseStatusChanged =>
    obtain ⟨_, _, ⟨status, rfl, -⟩, rfl, rfl⟩ := allowed
    rw [canonical.trans (encode_words [status])]
    cases carried
    exact .fuseStatusChanged _
  case rewardsClaimed =>
    obtain ⟨_, _, ⟨tokens, rfl, accounts⟩, ⟨_, _, ⟨amounts, rfl, -⟩, rfl, rfl⟩, rfl⟩ := allowed
    rw [canonical.trans (encode_arrays tokens amounts)]
    cases carried
    have reports := Reports.rewardsClaimed (tokens.map Address.ofWord) amounts
    rwa [List.length_map, map_toWord_ofWord accounts] at reports
  case onRepayBorrow =>
    obtain ⟨_, _, ⟨adapter, rfl, own⟩, ⟨_, _, ⟨amount, rfl, -⟩, ⟨_, _, ⟨receiver, rfl, foreign⟩,
      ⟨_, _, ⟨flag, rfl, byte⟩, rfl, rfl⟩, rfl⟩, rfl⟩, rfl⟩ := allowed
    rw [canonical.trans (encode_words [adapter, amount, receiver, flag])]
    cases carried
    have reports := Reports.repaidBorrow (Address.ofWord adapter) (Address.ofWord receiver) amount
      flag (of_decide_eq_true byte)
    rwa [Address.toWord_ofWord (of_decide_eq_true own),
      Address.toWord_ofWord (of_decide_eq_true foreign)] at reports

theorem allows_toWord (account : Address) : Element.address.allows account.toWord = true := by
  refine decide_eq_true ?_
  rw [Address.toNat_toWord]
  exact account.isLt

/-- An event is reported by the canonical form of values that stand for it. -/
theorem Reports.carried (reports : Reports name data event) :
    ∃ values, data = encode values ∧
      List.Forall₂ (fun kind value => kind.allows value = true) name.kinds values ∧
      name.ofValues? values = some event := by
  cases reports with
  | rebalanced settlement | rebalancedDebt settlement =>
    exact ⟨_, (encode_words [settlement.loss, settlement.profit, settlement.covered]).symm,
      .cons rfl (.cons rfl (.cons rfl .nil)), rfl⟩
  | fuseStatusChanged status => exact ⟨_, (encode_words [status]).symm, .cons rfl .nil, rfl⟩
  | rewardsClaimed tokens amounts =>
    have canonical := encode_arrays (tokens.map Address.toWord) amounts
    rw [List.length_map] at canonical
    refine ⟨_, canonical.symm, .cons ?_ (.cons ?_ .nil), ?_⟩
    · exact allows_array_iff.mpr ⟨_, rfl, by simp [allows_toWord]⟩
    · exact allows_array_iff.mpr ⟨_, rfl, fun _ _ => rfl⟩
    · have accounts : (tokens.map Address.toWord).map Address.ofWord = tokens := by
        rw [List.map_map]
        refine (List.map_congr_left fun token _ => ?_).trans (List.map_id tokens)
        exact Address.ofWord_toWord token
      rw [Name.ofValues?, accounts]
  | repaidBorrow adapter receiver amount flag byte =>
    exact ⟨_, (encode_words [adapter.toWord, amount, receiver.toWord, flag]).symm,
      .cons (allows_toWord adapter) (.cons rfl (.cons (allows_toWord receiver)
        (.cons (decide_eq_true byte) .nil))), rfl⟩

/-- The data of an event with brief arrays is far below what distances can reach. -/
theorem Reports.length_lt (reports : Reports name data event) (brief : event.Brief) :
    data.length < 1 <<< 256 := by
  have limit : 64 * (1 <<< 32) + 128 < 1 <<< 256 := by decide
  cases reports with
  | rewardsClaimed tokens amounts =>
    obtain ⟨few, few'⟩ := brief
    simp only [length_row, List.length_append, List.length_cons, List.length_nil, List.length_map]
    omega
  | rebalanced | rebalancedDebt | fuseStatusChanged | repaidBorrow =>
    simp only [length_row, List.length_cons, List.length_nil]
    decide

theorem reports_of_decode (decoded : name.decode data = some event) : Reports name data event := by
  obtain ⟨values, read, carried⟩ := Option.bind_eq_some_iff.mp decoded
  obtain ⟨canonical, allowed⟩ := canonical_of_decodeExact read
  exact reports_of_values canonical allowed carried

theorem Reports.decode (reports : Reports name data event) (brief : event.Brief) :
    name.decode data = some event := by
  have small := reports.length_lt brief
  obtain ⟨values, rfl, allowed, carried⟩ := reports.carried
  rw [Name.decode, decodeExact_encode allowed small, Option.bind_eq_bind, Option.bind_some, carried]

end

namespace Name

/-- The events that a strategy emits. -/
def ofStrategy : List Name :=
  [rebalanced, rebalancedDebt, fuseStatusChanged, rewardsClaimed]

theorem mem_ofStrategy {name : Name} (emits : name.emitter = .strategy) : name ∈ ofStrategy := by
  cases name <;> first | decide | cases emits

theorem map_topic_ofStrategy :
    ofStrategy.map topic =
      [0x83387a3342ff1ebc5e437dc9ae0f98274afda12a11cf547eebec05a3e0b8f8a7,
       0x3715d08a7dcc9d792a5a426f62429b9f889a7b140004f9f85190a48485695cf1,
       0x5a7ee3c5ef7f4e3625ee638c3a95481dc4cbfaceda022d1e8fba8ed7fa2208e1,
       0x529e9d019f83aa7a767ccc1febcccb6b88a4f209f32b3036854cdc75f173a0f6] := by
  simp only [ofStrategy, List.map_cons, List.map_nil, topic, Keccak.hashText, Keccak.hash_eq]
  decide +kernel

/-- No emitter has two events with one topic. -/
theorem eq_of_topic {name other : Name} (emitter : name.emitter = other.emitter)
    (topic : name.topic = other.topic) : name = other := by
  cases emits : name.emitter with
  | strategy =>
    -- the converter has one event only, and the topics of the others are known numbers
    have apart : (ofStrategy.map Name.topic).Nodup := by
      rw [map_topic_ofStrategy]
      decide
    have known := mem_ofStrategy emits
    have known' := mem_ofStrategy (emitter.symm.trans emits)
    exact List.inj_on_of_nodup_map apart known known' topic
  | converter =>
    have sole {name : Name} (emits : name.emitter = .converter) : name = .onRepayBorrow := by
      cases name <;> first | rfl | cases emits
    rw [sole emits, sole (emitter.symm.trans emits)]

end Name

end Event

/-- Whom a log comes from, seen from the strategy. -/
def Log.emitter (log : Log) (strategy : Address) : Emitter :=
  if log.address = strategy then .strategy else .converter

namespace Platform

/-- The platform knows the event, it is one of this emitter, and the log opens with its topic. -/
structure Lists (platform : Platform) (emitter : Emitter) (log : Log) (name : Event.Name) :
    Prop where
  known : name ∈ platform.events
  emitter : name.emitter = emitter
  topic : log.topics.head? = some name.topic

/-- What a receipt tells of, log by log: the event that the log reports, or nothing where it reports
none that could be decoded. -/
inductive Tells (platform : Platform) (strategy : Address) : List Log → List Event → Prop
  | nil : Tells platform strategy [] []
  | reported {log : Log} {logs : List Log} {name : Event.Name} {event : Event}
      {events : List Event} (lists : platform.Lists (log.emitter strategy) log name)
      (reports : Event.Reports name log.data event) (rest : Tells platform strategy logs events) :
      Tells platform strategy (log :: logs) (event :: events)
  | passed {log : Log} {logs : List Log} {events : List Event}
      (nothing : ∀ name event, event.Brief → platform.Lists (log.emitter strategy) log name →
        ¬Event.Reports name log.data event)
      (rest : Tells platform strategy logs events) :
      Tells platform strategy (log :: logs) events

section

variable {platform : Platform} {emitter : Emitter} {log : Log} {name : Event.Name} {event : Event}

/-- An event that is listed for a log is the one that is found. -/
theorem find?_of_lists (lists : platform.Lists emitter log name) :
    (platform.events.find? fun event => event.emitter == emitter && event.topic == name.topic) =
      some name := by
  cases found : platform.events.find? fun event =>
      event.emitter == emitter && event.topic == name.topic with
  | none =>
    have absent := List.find?_eq_none.mp found name lists.known
    simp [lists.emitter] at absent
  | some other =>
    have fits := List.find?_some found
    obtain ⟨sameEmitter, sameTopic⟩ := Bool.and_eq_true_iff.mp fits
    have emitters : other.emitter = name.emitter := (eq_of_beq sameEmitter).trans lists.emitter.symm
    rw [Event.Name.eq_of_topic emitters (eq_of_beq sameTopic)]

/-- A decoded event is listed for the log, and the log reports it. -/
theorem reports_of_decode (decoded : platform.decode emitter log = some (name, event)) :
    platform.Lists emitter log name ∧ Event.Reports name log.data event := by
  obtain ⟨topic, opens, decoded⟩ := Option.bind_eq_some_iff.mp decoded
  obtain ⟨found, finds, decoded⟩ := Option.bind_eq_some_iff.mp decoded
  obtain ⟨event', read, same⟩ := Option.bind_eq_some_iff.mp decoded
  cases same
  have fits := List.find?_some finds
  obtain ⟨sameEmitter, sameTopic⟩ := Bool.and_eq_true_iff.mp fits
  obtain rfl := eq_of_beq sameTopic
  exact ⟨⟨List.mem_of_find?_eq_some finds, eq_of_beq sameEmitter, opens⟩,
    Event.reports_of_decode read⟩

theorem decode_of_reports (brief : event.Brief) (lists : platform.Lists emitter log name)
    (reports : Event.Reports name log.data event) :
    platform.decode emitter log = some (name, event) := by
  rw [Platform.decode, lists.topic, Option.bind_eq_bind, Option.bind_some, find?_of_lists lists,
    Option.bind_eq_bind, Option.bind_some, reports.decode brief]
  rfl

theorem decodeReceipt_cons (strategy : Address) (logs : List Log) :
    platform.decodeReceipt strategy (log :: logs) =
      ((platform.decode (log.emitter strategy) log).map Prod.snd).toList
        ++ platform.decodeReceipt strategy logs := by
  rw [decodeReceipt, List.filterMap_cons, Log.emitter]
  dsimp only
  cases (platform.decode (if log.address = strategy then .strategy else .converter) log).map
    Prod.snd <;> rfl

/-- Decoding a receipt tells of every log in its turn. -/
theorem tells_decodeReceipt (platform : Platform) (strategy : Address) (logs : List Log) :
    platform.Tells strategy logs (platform.decodeReceipt strategy logs) := by
  induction logs with
  | nil => exact .nil
  | cons log logs ih =>
    rw [decodeReceipt_cons]
    cases decoded : platform.decode (log.emitter strategy) log with
    | none =>
      refine .passed (fun name event brief lists reports => ?_) ih
      cases decoded.symm.trans (decode_of_reports brief lists reports)
    | some named =>
      obtain ⟨lists, reports⟩ := reports_of_decode decoded
      exact .reported lists reports ih

/-- Every event of a receipt comes from a log that reports it: an event of the strategy from a log
of the strategy, and an event of the converter from a log of anyone else. -/
theorem Tells.source {strategy : Address} {logs : List Log} {events : List Event}
    (tells : platform.Tells strategy logs events) :
    ∀ event ∈ events, ∃ log ∈ logs, ∃ name,
      platform.Lists (log.emitter strategy) log name ∧ Event.Reports name log.data event ∧
        (name.emitter = .strategy ↔ log.address = strategy) := by
  induction tells with
  | nil => simp
  | @reported log logs name event events lists reports _ ih =>
    intro other member
    rcases List.mem_cons.mp member with rfl | member
    · refine ⟨log, List.mem_cons_self, name, lists, reports, ?_⟩
      rw [lists.emitter, Log.emitter]
      split <;> simp [*]
    · obtain ⟨source, among, rest⟩ := ih other member
      exact ⟨source, List.mem_cons_of_mem _ among, rest⟩
  | passed _ _ ih =>
    intro other member
    obtain ⟨source, among, rest⟩ := ih other member
    exact ⟨source, List.mem_cons_of_mem _ among, rest⟩

end

/-- A log is decoded as an event exactly if the platform lists the event for it and the data is the
canonical form of what the event carries, where a flag may be any number of one byte. A log that
reports no event is not decoded, and a receipt tells of its logs in their order, of those of the
strategy as the strategy's and of all others as the converter's. -/
theorem decode_reports (platform : Platform) :
    (∀ emitter log name event, event.Brief →
      (platform.decode emitter log = some (name, event) ↔
        platform.Lists emitter log name ∧ Event.Reports name log.data event)) ∧
      (∀ emitter log, (∀ name event, platform.Lists emitter log name →
        ¬Event.Reports name log.data event) → platform.decode emitter log = none) ∧
      (∀ strategy logs, platform.Tells strategy logs (platform.decodeReceipt strategy logs)) ∧
      ∀ strategy logs, ∀ event ∈ platform.decodeReceipt strategy logs,
        ∃ log ∈ logs, ∃ name, platform.Lists (log.emitter strategy) log name ∧
          Event.Reports name log.data event ∧
          (name.emitter = .strategy ↔ log.address = strategy) := by
  refine ⟨fun emitter log name event brief => ⟨reports_of_decode, fun ⟨lists, reports⟩ =>
    decode_of_reports brief lists reports⟩, ?_, tells_decodeReceipt platform, ?_⟩
  · intro emitter log nothing
    cases decoded : platform.decode emitter log with
    | none => rfl
    | some named =>
      obtain ⟨lists, reports⟩ := reports_of_decode decoded
      exact absurd reports (nothing _ _ lists)
  · intro strategy logs event member
    exact (tells_decodeReceipt platform strategy logs).source event member

/-- A log of a strategy that claimed rewards of two tokens and tells one amount. -/
def spoils : Log where
  address := 0xaa
  topics := [Event.Name.topic .rewardsClaimed]
  data := row [64, 160, 2, Address.toWord 0x11, Address.toWord 0x22, 1, 5]

theorem decode_reports_spoils :
    (Event.rewardsClaimed [0x11, 0x22] [5]).Brief ∧
      pancake.decode .strategy spoils = some (.rewardsClaimed, .rewardsClaimed [0x11, 0x22] [5]) ∧
      pancake.decode .strategy { spoils with topics := [] } = none ∧
      ∃ log ∈ [spoils], ∃ name, pancake.Lists (log.emitter 0xaa) log name ∧
        Event.Reports name log.data (.rewardsClaimed [0x11, 0x22] [5]) ∧
        (name.emitter = .strategy ↔ log.address = 0xaa) := by
  obtain ⟨decoded, nothing, -, source⟩ := decode_reports .pancake
  have brief : (Event.rewardsClaimed [0x11, 0x22] [5]).Brief := ⟨by decide, by decide⟩
  have lists : pancake.Lists .strategy spoils .rewardsClaimed := ⟨by decide, rfl, rfl⟩
  have reports : Event.Reports .rewardsClaimed spoils.data (.rewardsClaimed [0x11, 0x22] [5]) :=
    .rewardsClaimed [0x11, 0x22] [5]
  have known := (decoded .strategy spoils .rewardsClaimed _ brief).mpr ⟨lists, reports⟩
  refine ⟨brief, known, nothing _ _ fun name event lists => ?_, source 0xaa [spoils] _ ?_⟩
  · cases lists.topic
  · rw [decodeReceipt_cons, Log.emitter, spoils, if_pos rfl, ← spoils, known]
    exact List.mem_singleton_self _

/-- A log of the pancake platform in which the flag of a repayment is the number two. -/
def twofold : Log where
  address := 0xbb
  topics := [Event.Name.topic .onRepayBorrow]
  data := row [Address.toWord 1, 77, Address.toWord 0xaa, 2]

/-- A flag that is the number two is taken for a set one, though no truth value is encoded so. -/
theorem decode_twofold :
    pancake.decode .converter twofold = some (.onRepayBorrow, .repaidBorrow 77 true) ∧
      ∀ (adapter receiver : Address) (amount : Word) (close : Bool),
        twofold.data ≠ encode [.word adapter.toWord, .word amount, .word receiver.toWord,
          .word (wordOfBool close)] := by
  constructor
  · have lists : pancake.Lists .converter twofold .onRepayBorrow := ⟨by decide, rfl, rfl⟩
    exact decode_of_reports trivial lists (.repaidBorrow 1 0xaa 77 2 (by decide))
  · intro adapter receiver amount close same
    have canonical := Event.encode_words [adapter.toWord, amount, receiver.toWord, wordOfBool close]
    simp only [List.map_cons, List.map_nil] at canonical
    rw [canonical, twofold] at same
    have words := row_injective (by simp only [List.length_cons]) same
    have flag : (2 : Word) = wordOfBool close := by
      simp only [List.cons.injEq] at words
      exact words.2.2.2.1
    cases close <;> exact absurd flag (by decide)

end Platform

end VaultKeeper
