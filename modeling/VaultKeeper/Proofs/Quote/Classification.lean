import VaultKeeper.Proofs.Json.Reading
import VaultKeeper.Proofs.Quote.Agreement

/-! # What an answer of an aggregator comes to

Whatever comes back from an aggregator, there is one way to take it. A request that got no answer,
or an answer that is no success, failed; a body that is no JSON of the aggregator's shape is
malformed. `Json.Denotes` says which texts are JSON, `States` which values have that shape, and
`Comes` what each answer comes to: none of the three refers to a reader.
-/

namespace VaultKeeper.Aggregator

variable {kind : AggregatorKind} {request : QuoteRequest} {json : Json} {name : String}
  {response : Http.Response} {outcome : Except QuoteFailure Quote}

/-- What a body states: an offer, or a code with what stands beside it. -/
inductive Statement where
  | offer (route : Route)
  | reply (coded : Coded)
deriving DecidableEq, Repr

/-- A value that presents the texts of a route, the amount under the given name. -/
abbrev Flat (amountName : String) (json : Json) (route : Route) : Prop :=
  json.Presents [(["to"], some (.ofText route.target)), (["data"], some (.ofText route.callData)),
    ([amountName], some (.ofText route.amountOut))]

/-- The bodies in the shape of each aggregator. The offer and the remark beside a code may be left
out or null; the remark is looked for under two names. -/
inductive States : AggregatorKind → Json → Statement → Prop
  | oneInch {json transaction : Json} {route : Route}
      (offer : json.Presents
        [(["toTokenAmount", "toAmount"], some (.ofText route.amountOut)),
          (["tx"], some transaction)])
      (inner : transaction.Presents
        [(["to"], some (.ofText route.target)), (["data"], some (.ofText route.callData))]) :
      States .oneInch json (.offer route)
  | zeroEx {json : Json} {route : Route} (offer : Flat "buyAmount" json route) :
      States .zeroEx json (.offer route)
  | openOcean {json code : Json} {data error : Option Json} {coded : Coded}
      (reply : json.Presents
        [(["code"], some code), (["data"], data), (["errorMsg", "error"], error)])
      (natural : code.asNatural = some coded.code) (small : coded.code < UInt32.size)
      (offer : Json.Allows (Flat "outAmount") data coded.route)
      (remark : Json.Allows (fun json text => json = .ofText text) error coded.error) :
      States .openOcean json (.reply coded)

/-- What a statement comes to. A code that stands for a failure makes it one whatever stands beside
it; otherwise the route decides, if there is one. -/
inductive Statement.Yields (name : String) (request : QuoteRequest) :
    Statement → Except QuoteFailure Quote → Prop
  | offer (route : Route) : Yields name request (.offer route) (route.toQuote name request)
  | failure {code : Nat} (failed : code ≠ 200) (route : Option Route) (remark : Option String) :
      Yields name request (.reply ⟨code, route, remark⟩)
        (.error (.provider name (.told (s!"code {code}: " ++ remark.getD ""))))
  | empty (remark : Option String) :
      Yields name request (.reply ⟨200, none, remark⟩)
        (.error (.malformed name (.told "missing data")))
  | reply (route : Route) (remark : Option String) :
      Yields name request (.reply ⟨200, some route, remark⟩) (route.toQuote name request)

/-- What an answer comes to. -/
inductive Comes (kind : AggregatorKind) (request : QuoteRequest) :
    Http.Response → Except QuoteFailure Quote → Prop
  | unreachable : Comes kind request .failed (.error (.provider kind.name .unreachable))
  | refused {status : Nat} (body : String) (unsuccessful : status < 200 ∨ 300 ≤ status) :
      Comes kind request (.answered status body)
        (.error (.provider kind.name (.told (Http.refusal status body))))
  | shapeless {status : Nat} {body : String} (success : 200 ≤ status ∧ status < 300)
      (unread : ∀ json statement, Json.Denotes body json → ¬ States kind json statement) :
      Comes kind request (.answered status body) (.error (.malformed kind.name .badShape))
  | stated {status : Nat} {body : String} {json : Json} {statement : Statement}
      {outcome : Except QuoteFailure Quote} (success : 200 ≤ status ∧ status < 300)
      (denotes : Json.Denotes body json) (states : States kind json statement)
      (yields : statement.Yields kind.name request outcome) :
      Comes kind request (.answered status body) outcome

theorem readCode_iff {code : Nat} :
    readCode json = some code ↔ json.asNatural = some code ∧ code < UInt32.size := by
  rw [readCode, Option.filter_eq_some_iff, decide_eq_true_iff]

theorem readCoded_iff_states {coded : Coded} :
    readCoded json = some coded ↔ States .openOcean json (.reply coded) := by
  have routes {field : Option Json} {value : Option Route} :
      lenient (readFlat "outAmount") field = some value ↔
        Json.Allows (Flat "outAmount") field value :=
    lenient_iff (fun _ _ => readFlat_iff) rfl
  have remarks {field : Option Json} {value : Option String} :
      lenient Json.asText field = some value ↔
        Json.Allows (fun json text => json = .ofText text) field value :=
    lenient_iff (fun _ _ => Json.asText_iff) rfl
  rw [readCoded_iff]
  constructor
  · rintro ⟨code, data, error, presents, coded, routed, told⟩
    obtain ⟨natural, small⟩ := readCode_iff.mp coded
    exact .openOcean presents natural small (routes.mp routed) (remarks.mp told)
  · rintro (_ | _ | ⟨presents, natural, small, offer, remark⟩)
    exact ⟨_, _, _, presents, readCode_iff.mpr ⟨natural, small⟩, routes.mpr offer,
      remarks.mpr remark⟩

theorem toQuote_iff_yields {coded : Coded} :
    coded.toQuote name request = outcome ↔ (Statement.reply coded).Yields name request outcome := by
  obtain ⟨code, route, remark⟩ := coded
  constructor
  · rintro rfl
    by_cases fine : code = 200
    · subst fine
      cases route with
      | none => exact .empty remark
      | some route => exact .reply route remark
    · rw [Coded.toQuote, if_pos fine]
      exact .failure fine route remark
  · intro yields
    cases yields with
    | failure failed => exact if_pos failed
    | empty | reply => rfl

/-- The quote that a body stands for is what it states. -/
theorem readBody_iff :
    readBody kind request json = some outcome ↔
      ∃ statement, States kind json statement ∧ statement.Yields kind.name request outcome := by
  cases kind with
  | oneInch =>
    simp only [readBody, Option.map_eq_some_iff, readNested_iff]
    constructor
    · rintro ⟨route, ⟨transaction, offer, inner⟩, rfl⟩
      exact ⟨_, .oneInch offer inner, .offer route⟩
    · rintro ⟨_, ⟨offer, inner⟩, ⟨route⟩⟩
      exact ⟨_, ⟨_, offer, inner⟩, rfl⟩
  | zeroEx =>
    simp only [readBody, Option.map_eq_some_iff, readFlat_iff]
    constructor
    · rintro ⟨route, offer, rfl⟩
      exact ⟨_, .zeroEx offer, .offer route⟩
    · rintro ⟨_, _ | ⟨offer⟩, ⟨route⟩⟩
      exact ⟨_, offer, rfl⟩
  | openOcean =>
    simp only [readBody, Option.map_eq_some_iff, readCoded_iff_states, toQuote_iff_yields]
    constructor
    · rintro ⟨coded, states, yields⟩
      exact ⟨_, states, yields⟩
    · rintro ⟨_, states, yields⟩
      cases states with
      | openOcean presents natural small offer remark =>
        exact ⟨_, .openOcean presents natural small offer remark, yields⟩

theorem Statement.exists_yields (name : String) (request : QuoteRequest) (statement : Statement) :
    ∃ outcome, statement.Yields name request outcome := by
  cases statement with
  | offer route => exact ⟨_, .offer route⟩
  | reply coded => exact ⟨_, toQuote_iff_yields.mp rfl⟩

theorem readBody_eq_none_iff :
    readBody kind request json = none ↔ ∀ statement, ¬ States kind json statement := by
  rw [Option.eq_none_iff_forall_ne_some]
  constructor
  · intro unread statement states
    obtain ⟨outcome, yields⟩ := statement.exists_yields kind.name request
    exact unread outcome (readBody_iff.mpr ⟨statement, states, yields⟩)
  · intro unread outcome read
    obtain ⟨statement, states, -⟩ := readBody_iff.mp read
    exact unread statement states

/-- The outcomes of one provider for a request: its failures are its own, and its quotes are for
what was asked. -/
def Attributed (name : String) (request : QuoteRequest) : Except QuoteFailure Quote → Prop
  | .ok quote => quote.provider = name ∧ quote.tokenIn = request.tokenIn ∧
      quote.tokenOut = request.tokenOut ∧ quote.amountIn = request.amountIn
  | .error failure => ∃ fault, failure = .provider name fault ∨ failure = .malformed name fault

theorem attributed_toQuote (route : Route) (name : String) (request : QuoteRequest) :
    Attributed name request (route.toQuote name request) := by
  cases read : route.read with
  | ok reading =>
    rw [Route.toQuote_of_read read]
    exact ⟨rfl, rfl, rfl, rfl⟩
  | error error =>
    rw [Route.toQuote_of_refused read]
    exact ⟨_, .inr rfl⟩

theorem Statement.Yields.attributed {statement : Statement}
    (yields : statement.Yields name request outcome) : Attributed name request outcome := by
  cases yields with
  | offer route | reply route => exact attributed_toQuote route name request
  | failure => exact ⟨_, .inl rfl⟩
  | empty => exact ⟨_, .inr rfl⟩

theorem Comes.attributed (comes : Comes kind request response outcome) :
    Attributed kind.name request outcome := by
  cases comes with
  | unreachable | refused => exact ⟨_, .inl rfl⟩
  | shapeless => exact ⟨_, .inr rfl⟩
  | stated _ _ _ yields => exact yields.attributed

theorem isSuccess_iff {status : Nat} :
    Http.isSuccess status = true ↔ 200 ≤ status ∧ status < 300 := by
  simp [Http.isSuccess]

theorem comes_readResponse (kind : AggregatorKind) (request : QuoteRequest)
    (response : Http.Response) :
    Comes kind request response (readResponse kind request response) := by
  cases response with
  | failed => exact .unreachable
  | answered status body =>
    rw [readResponse]
    split
    · next success =>
      have success := isSuccess_iff.mp success
      split
      · next outcome known =>
        obtain ⟨json, read, stated⟩ := Option.bind_eq_some_iff.mp known
        obtain ⟨statement, states, yields⟩ := readBody_iff.mp stated
        exact .stated success (Json.read_iff.mp read) states yields
      · next unknown =>
        refine .shapeless success fun json statement denotes states => ?_
        rw [Json.read_iff.mpr denotes, Option.bind_some] at unknown
        exact readBody_eq_none_iff.mp unknown statement states
    · next failed =>
      rw [isSuccess_iff] at failed
      exact .refused body (by omega)

theorem Comes.eq_readResponse (comes : Comes kind request response outcome) :
    readResponse kind request response = outcome := by
  cases comes with
  | unreachable => rfl
  | @refused status body unsuccessful =>
    have failed : ¬ Http.isSuccess status = true := by
      rw [isSuccess_iff]
      omega
    rw [readResponse, if_neg failed]
  | @shapeless status body success unread =>
    have none : (Json.read body).bind (readBody kind request) = none := by
      rw [Option.bind_eq_none_iff]
      intro json read
      exact readBody_eq_none_iff.mpr fun statement => unread json statement (Json.read_iff.mp read)
    rw [readResponse, if_pos (isSuccess_iff.mpr success), none]
  | stated success denotes states yields =>
    have read := Json.read_iff.mpr denotes
    have known := readBody_iff.mpr ⟨_, states, yields⟩
    rw [readResponse, if_pos (isSuccess_iff.mpr success), read, Option.bind_some, known]

/-- Every answer of an aggregator, whatever its status and its body, comes to one thing, and
`Comes` says to what. It is a failure in the name of the aggregator, or a quote of it for what was
asked. -/
theorem readResponse_classifies (kind : AggregatorKind) (request : QuoteRequest)
    (response : Http.Response) :
    (∀ outcome, readResponse kind request response = outcome ↔
      Comes kind request response outcome) ∧
    Attributed kind.name request (readResponse kind request response) := by
  have comes := comes_readResponse kind request response
  refine ⟨fun outcome => ⟨?_, Comes.eq_readResponse⟩, comes.attributed⟩
  rintro rfl
  exact comes

end VaultKeeper.Aggregator
