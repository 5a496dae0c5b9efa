import Mathlib.Data.List.Nodup
import VaultKeeper.Proofs.Fee.Source
import VaultKeeper.Proofs.Hex
import VaultKeeper.Proofs.Json.Writing

/-! # Answers that a node can give

Whatever a node writes as a result, a call comes to what is read of it. A latest block comes to its
base fee if it shows every field that blocks always have.
-/

namespace VaultKeeper

namespace Json

variable {members : List (String × Json)} {key : String} {value : Json}

/-- In an object without repetitions every member is found under its key. -/
theorem member?_ofMembers (distinct : (members.map Prod.fst).Nodup)
    (listed : (key, value) ∈ members) : (ofMembers members).member? key = some value := by
  have found :
      value ∈ membersNamed [key] (members.map fun member => (some member.1, member.2)) := by
    refine List.mem_map.mpr ⟨(some key, value), List.mem_filter.mpr ⟨?_, by simp⟩, rfl⟩
    exact List.mem_map.mpr ⟨(key, value), listed, rfl⟩
  have only : ∀ other ∈ membersNamed [key] (members.map fun member => (some member.1, member.2)),
      other = value := by
    intro other present
    obtain ⟨_, kept, rfl⟩ := List.mem_map.mp present
    obtain ⟨mapped, named⟩ := List.mem_filter.mp kept
    obtain ⟨member, known, rfl⟩ := List.mem_map.mp mapped
    have same : member.1 = key := by simpa using named
    exact congrArg Prod.snd (List.inj_on_of_nodup_map distinct known listed same)
  have last := List.getLast?_eq_some_getLast (List.ne_nil_of_mem found)
  change (membersNamed [key] _).getLast? = some value
  rw [last, only _ (List.getLast_mem _)]

theorem writable_ofText (text : String) : (ofText text).Writable :=
  .string text

theorem writable_ofMembers (each : ∀ member ∈ members, Writable member.2) :
    (ofMembers members).Writable := by
  refine .object ?_ ?_
  · intro _ mapped
    obtain ⟨member, listed, rfl⟩ := List.mem_map.mp mapped
    rfl
  · intro _ mapped
    obtain ⟨member, listed, rfl⟩ := List.mem_map.mp mapped
    exact each member listed

end Json

namespace Rpc

/-- Two steps succeed if the first one does and the second one does with its value. -/
theorem bind_eq_ok_iff {α β : Type} {first : Except Failure α} {next : α → Except Failure β}
    {result : β} :
    first >>= next = .ok result ↔ ∃ value, first = .ok value ∧ next value = .ok result := by
  cases first with
  | error failure => exact iff_of_false nofun nofun
  | ok value =>
    constructor
    · exact fun read => ⟨value, rfl, read⟩
    · rintro ⟨_, ⟨⟩, read⟩
      exact read

/-- What is read of a response is what its result comes to. -/
theorem reading_eq_ok_iff {α : Type} {operation : String} {limit : Nat} {read : Json → Option α}
    {response : Option Http.Response} {value : α} :
    reading operation limit read response = .ok value ↔
      ∃ code body result, response = some (.answered code body) ∧ Http.isSuccess code = true ∧
        readBody body = .ok result ∧ read result = some value := by
  constructor
  · intro settled
    match response with
    | none => cases settled
    | some .failed => cases settled
    | some (.answered code body) =>
      unfold reading outcome at settled
      dsimp only at settled
      split at settled
      · next success =>
        obtain ⟨result, carried, settled⟩ := bind_eq_ok_iff.mp settled
        have stated : readBody body = .ok result := by
          cases known : readBody body with
          | error cause =>
            rw [known] at carried
            cases carried
          | ok other =>
            rw [known] at carried
            cases carried
            rfl
        have found : read result = some value := by
          unfold expect at settled
          split at settled
          · next same =>
            cases settled
            exact same
          · cases settled
        exact ⟨code, body, result, rfl, success, stated, found⟩
      · cases settled
  · rintro ⟨code, body, result, rfl, success, stated, found⟩
    unfold reading outcome
    dsimp only
    rw [if_pos success, stated]
    change expect (read result) = _
    rw [found]
    rfl

/-- A node answers with a result. -/
def answering (result : Json) : Http.Response :=
  .answered 200 (Json.write (.ofMembers [("result", result)]))

/-- A result that is written comes to what is read of it. -/
theorem reading_answering {α : Type} {result : Json} (writable : result.Writable)
    (operation : String) (limit : Nat) (read : Json → Option α) :
    reading operation limit read (some (answering result)) = expect (read result) := by
  have whole : (Json.ofMembers [("result", result)]).Writable := by
    refine Json.writable_ofMembers ?_
    rintro _ (_ | ⟨_, ⟨⟩⟩)
    exact writable
  have body : readBody (Json.write (.ofMembers [("result", result)])) = .ok result := by
    unfold readBody
    rw [Json.read_write whole]
    rfl
  unfold reading outcome answering
  dsimp only
  rw [body]
  rfl

section

variable {α : Type} {members : List (String × Json)} {key : String} {value : Json}

theorem required_ofMembers (distinct : (members.map Prod.fst).Nodup)
    (listed : (key, value) ∈ members) (read : Json → Option α) :
    required (.ofMembers members) key read = read value := by
  rw [required, Json.member?_ofMembers distinct listed]
  rfl

/-- Bytes are read as they are written. -/
theorem readBytes_encode (bytes : Bytes) : readBytes (.ofText (Hex.encode bytes)) = some bytes := by
  have decoded := Hex.decodeMarked_encode bytes
  rw [Json.ofText, readBytes]
  simp [decoded, Except.toOption]

theorem readFixed_encode (bytes : Bytes) :
    readFixed bytes.length (.ofText (Hex.encode bytes)) = some bytes := by
  rw [readFixed, readBytes_encode]
  simp

end

/-- A field that is there does not stop a reader. -/
theorem bind_required {α β : Type} {block : Json} {key : String} {read : Json → Option α}
    (present : (required block key read).isSome) (rest : Option β) :
    ((required block key read).bind fun _ => rest) = rest := by
  obtain ⟨value, found⟩ := Option.isSome_iff_exists.mp present
  rw [found, Option.bind_some]

/-- Nor do several of them. -/
theorem forIn_required {α : Type} {block : Json} {keys : List String} {read : Json → Option α}
    (present : ∀ key ∈ keys, (required block key read).isSome) :
    (forIn keys () fun key _ =>
      (required block key read).bind fun _ => some (ForInStep.yield ())) = some () := by
  induction keys with
  | nil => rfl
  | cons key keys ih =>
    rw [List.forIn_cons, bind_required (present key List.mem_cons_self)]
    exact ih fun other listed => present other (List.mem_cons_of_mem key listed)

/-- Every field that a block always has is there and can be read. -/
structure Complete (block : Json) : Prop where
  hashes : ∀ key ∈ ["hash", "parentHash", "sha3Uncles", "stateRoot", "transactionsRoot",
    "receiptsRoot", "mixHash"], (required block key readHash).isSome
  miner : (required block "miner" readAddress).isSome
  bloom : (required block "logsBloom" (readFixed 256)).isSome
  difficulty : (required block "difficulty" (readQuantity (1 <<< 256))).isSome
  counts : ∀ key ∈ ["number", "gasLimit", "gasUsed", "timestamp"],
    (required block key readUInt64).isSome
  extra : (required block "extraData" readBytes).isSome
  nonce : (required block "nonce" (readFixed 8)).isSome

/-- Of a complete block only the base fee matters. -/
theorem Complete.readBaseFee {block : Json} (complete : Complete block) :
    readBaseFee block = optional block "baseFeePerGas" readUInt64 := by
  unfold Rpc.readBaseFee
  simp only [Option.bind_eq_bind, Option.pure_def]
  rw [forIn_required complete.hashes, Option.bind_some, bind_required complete.miner,
    bind_required complete.bloom, bind_required complete.difficulty,
    forIn_required complete.counts, Option.bind_some, bind_required complete.extra,
    bind_required complete.nonce]

end Rpc

end VaultKeeper
