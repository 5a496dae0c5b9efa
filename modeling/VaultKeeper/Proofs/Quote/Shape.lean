import VaultKeeper.Proofs.Json.Token
import VaultKeeper.Quote.Aggregator

/-! # The shapes that are read

A record is read from an object that has each of its fields once, under any of the names of the
field, or from an array of all the fields in their order. `Json.Presents` says so of a value, and
every reader of an aggregator accepts the values that present its record and no others.
-/

namespace VaultKeeper

namespace Json

/-- An object in which every field of a record occurs as often as its value is there, under one of
its names. Other members may stand beside them. -/
def Holds (json : Json) (record : List (List String × Option Json)) : Prop :=
  ∃ members, json = .object members ∧ (∀ member ∈ members, member.1.isSome) ∧
    ∀ field ∈ record, Json.membersNamed field.1 members = field.2.toList

/-- An object that holds a record, or an array of all its fields in their order. -/
def Presents (json : Json) (record : List (List String × Option Json)) : Prop :=
  json.Holds record ∨ ∃ items, json = .array items ∧ record.map Prod.snd = items.map some

section

variable {json : Json} {record : List (List String × Option Json)} {names : List (List String)}
  {values : List (Option Json)}

theorem presents_object {members : List (Text × Json)} :
    (object members).Presents record ↔ (∀ member ∈ members, member.1.isSome) ∧
      ∀ field ∈ record, membersNamed field.1 members = field.2.toList := by
  constructor
  · rintro (⟨_, ⟨⟩, holds⟩ | ⟨_, ⟨⟩, _⟩)
    exact holds
  · intro holds
    exact .inl ⟨members, rfl, holds⟩

theorem presents_array {items : List Json} :
    (array items).Presents record ↔ record.map Prod.snd = items.map some := by
  constructor
  · rintro (⟨_, ⟨⟩, _⟩ | ⟨_, ⟨⟩, listed⟩)
    exact listed
  · intro listed
    exact .inr ⟨items, rfl, listed⟩

/-- A record is read from what presents it. -/
theorem fields_iff : fields names json = some values ↔
    ∃ record, record.map Prod.fst = names ∧ record.map Prod.snd = values ∧
      json.Presents record := by
  cases json with
  | object members =>
    have keyed : (∀ member ∈ members, member.1.isSome) ↔
        ¬members.any fun member => member.1.isNone := by
      simp only [List.any_eq_true, not_exists, not_and, Bool.not_eq_true,
        Option.isNone_eq_false_iff]
    simp only [fields, presents_object, keyed]
    split
    · next keyless => simp [keyless]
    · next keys =>
      constructor
      · intro read
        obtain ⟨record, aliases, listed, known⟩ := mapM_eq_some_iff.mp read
        refine ⟨record, aliases, listed, keys, fun field member => ?_⟩
        have once := known field member
        split at once
        · next absent => rw [absent, ← Option.some.inj once, Option.toList_none]
        · next value alone => rw [alone, ← Option.some.inj once, Option.toList_some]
        · cases once
      · rintro ⟨record, aliases, listed, -, known⟩
        refine mapM_eq_some_iff.mpr ⟨record, aliases, listed, fun field member => ?_⟩
        rw [known field member]
        cases field.2 <;> rfl
  | array items =>
    simp only [fields, presents_array]
    constructor
    · intro read
      split at read
      · next count =>
        cases read
        have lengths : (items.map some).length = names.length := by rw [List.length_map, count]
        have listed : (names.zip (items.map some)).map Prod.snd = items.map some :=
          List.map_snd_zip (Nat.le_of_eq lengths)
        exact ⟨names.zip (items.map some), List.map_fst_zip (Nat.le_of_eq lengths.symm), listed,
          listed⟩
      · cases read
    · rintro ⟨record, rfl, rfl, listed⟩
      have count := congrArg List.length listed
      rw [List.length_map, List.length_map] at count
      rw [if_pos (by rw [List.length_map, count]), listed]
  | null | bool | number | string =>
    constructor
    · rintro ⟨⟩
    · rintro ⟨_, _, _, ⟨_, ⟨⟩, _⟩ | ⟨_, ⟨⟩, _⟩⟩

theorem Presents.fields (presents : json.Presents record) :
    fields (record.map Prod.fst) json = some (record.map Prod.snd) :=
  fields_iff.mpr ⟨record, rfl, rfl, presents⟩

theorem presents_of_fields (read : fields names json = some values) :
    json.Presents (names.zip values) := by
  obtain ⟨record, names, values, presents⟩ := fields_iff.mp read
  exact List.zip_of_prod names values ▸ presents

end

theorem asText_iff {json : Json} {text : String} :
    json.asText = some text ↔ json = ofText text := by
  cases json with
  | string stated => simp [asText, ofText]
  | null | bool | number | array | object => simp [asText, ofText]

/-- A field that may be left out or null, and what it says otherwise. -/
inductive Allows {α : Type} (tells : Json → α → Prop) : Option Json → Option α → Prop
  | absent : Allows tells none none
  | null : Allows tells (some null) none
  | stated {json : Json} {value : α} (said : tells json value) :
      Allows tells (some json) (some value)

end Json

namespace Aggregator

variable {json : Json} {route : Route} {coded : Coded}

theorem lenient_iff {α : Type} {read : Json → Option α} {tells : Json → α → Prop}
    (reads : ∀ json value, read json = some value ↔ tells json value)
    (strict : read .null = none) {field : Option Json} {value : Option α} :
    lenient read field = some value ↔ Json.Allows tells field value := by
  constructor
  · intro known
    match field, known with
    | none, known =>
      cases known
      exact .absent
    | some .null, known =>
      cases known
      exact .null
    | some (.bool _), known | some (.number _), known | some (.string _), known
    | some (.array _), known | some (.object _), known =>
      obtain ⟨stated, read, rfl⟩ := Option.map_eq_some_iff.mp known
      exact .stated ((reads _ _).mp read)
  · intro allows
    cases allows with
    | absent | null => rfl
    | @stated json value said =>
      have known : read json = some value := (reads json value).mpr said
      cases json with
      | null =>
        rw [strict] at known
        cases known
      | bool | number | string | array | object => exact congrArg (Option.map some) known

/-- A transaction: the texts of its target and its calldata. -/
theorem readTransaction_iff {target data : String} :
    readTransaction json = some (target, data) ↔
      json.Presents [(["to"], some (.ofText target)), (["data"], some (.ofText data))] := by
  constructor
  · intro read
    obtain ⟨values, known, stated⟩ := Option.bind_eq_some_iff.mp read
    split at stated
    · obtain ⟨_, target, stated⟩ := Option.bind_eq_some_iff.mp stated
      obtain ⟨_, data, stated⟩ := Option.bind_eq_some_iff.mp stated
      cases stated
      obtain rfl := Json.asText_iff.mp target
      obtain rfl := Json.asText_iff.mp data
      exact Json.presents_of_fields known
    · cases stated
  · intro presents
    have fields := presents.fields
    simp only [List.map_cons, List.map_nil] at fields
    rw [readTransaction, fields]
    rfl

/-- The texts of a route at one level. -/
theorem readFlat_iff {amountName : String} :
    readFlat amountName json = some route ↔
      json.Presents [(["to"], some (.ofText route.target)),
        (["data"], some (.ofText route.callData)),
        ([amountName], some (.ofText route.amountOut))] := by
  constructor
  · intro read
    obtain ⟨values, known, stated⟩ := Option.bind_eq_some_iff.mp read
    split at stated
    · obtain ⟨_, target, stated⟩ := Option.bind_eq_some_iff.mp stated
      obtain ⟨_, data, stated⟩ := Option.bind_eq_some_iff.mp stated
      obtain ⟨_, amount, stated⟩ := Option.bind_eq_some_iff.mp stated
      cases stated
      obtain rfl := Json.asText_iff.mp target
      obtain rfl := Json.asText_iff.mp data
      obtain rfl := Json.asText_iff.mp amount
      exact Json.presents_of_fields known
    · cases stated
  · intro presents
    have fields := presents.fields
    simp only [List.map_cons, List.map_nil] at fields
    rw [readFlat, fields]
    rfl

/-- The amount of a route beside its transaction. -/
theorem readNested_iff :
    readNested json = some route ↔ ∃ transaction : Json,
      json.Presents [(["toTokenAmount", "toAmount"], some (.ofText route.amountOut)),
        (["tx"], some transaction)] ∧
      transaction.Presents [(["to"], some (.ofText route.target)),
        (["data"], some (.ofText route.callData))] := by
  constructor
  · intro read
    obtain ⟨values, known, stated⟩ := Option.bind_eq_some_iff.mp read
    split at stated
    · obtain ⟨_, amount, stated⟩ := Option.bind_eq_some_iff.mp stated
      obtain ⟨⟨target, data⟩, inner, stated⟩ := Option.bind_eq_some_iff.mp stated
      cases stated
      obtain rfl := Json.asText_iff.mp amount
      exact ⟨_, Json.presents_of_fields known, readTransaction_iff.mp inner⟩
    · cases stated
  · rintro ⟨transaction, presents, inner⟩
    have parts := readTransaction_iff.mpr inner
    have fields := presents.fields
    simp only [List.map_cons, List.map_nil] at fields
    simp only [readNested, fields, Option.bind_eq_bind, Option.bind_some, Json.ofText,
      Json.asText, parts]
    rfl

/-- A code, and beside it a route and a remark that may be missing. -/
theorem readCoded_iff :
    readCoded json = some coded ↔ ∃ (code : Json) (data error : Option Json),
      json.Presents
        [(["code"], some code), (["data"], data), (["errorMsg", "error"], error)] ∧
      readCode code = some coded.code ∧
      lenient (readFlat "outAmount") data = some coded.route ∧
      lenient Json.asText error = some coded.error := by
  constructor
  · intro read
    obtain ⟨values, known, stated⟩ := Option.bind_eq_some_iff.mp read
    split at stated
    · obtain ⟨_, code, stated⟩ := Option.bind_eq_some_iff.mp stated
      obtain ⟨_, data, stated⟩ := Option.bind_eq_some_iff.mp stated
      obtain ⟨_, error, stated⟩ := Option.bind_eq_some_iff.mp stated
      cases stated
      exact ⟨_, _, _, Json.presents_of_fields known, code, data, error⟩
    · cases stated
  · rintro ⟨code, data, error, presents, coded, routed, told⟩
    have fields := presents.fields
    simp only [List.map_cons, List.map_nil] at fields
    simp only [readCoded, fields, Option.bind_eq_bind, Option.bind_some, coded, routed, told]
    rfl

end Aggregator

end VaultKeeper
