import VaultKeeper.Proofs.Quote.Route
import VaultKeeper.Proofs.Quote.Shape

/-! # The aggregators state routes alike

An answer in the shape of its aggregator comes to nothing but the route that it carries. So what a
route is worth does not depend on who states it, up to the name of the aggregator.
-/

namespace VaultKeeper

namespace Aggregator

/-- A body in the shape of its aggregator that carries the texts of a route. An answer with a code
may carry an error beside them, which is not looked at. -/
inductive Shows : AggregatorKind → Json → Route → Prop
  | oneInch {json transaction : Json} {route : Route}
      (offer : json.Holds
        [(["toTokenAmount", "toAmount"], some (.ofText route.amountOut)),
          (["tx"], some transaction)])
      (inner : transaction.Holds
        [(["to"], some (.ofText route.target)), (["data"], some (.ofText route.callData))]) :
      Shows .oneInch json route
  | zeroEx {json : Json} {route : Route}
      (offer : json.Holds
        [(["to"], some (.ofText route.target)), (["data"], some (.ofText route.callData)),
          (["buyAmount"], some (.ofText route.amountOut))]) :
      Shows .zeroEx json route
  | openOcean {json data : Json} {error : Option Json} {remark : Option String} {route : Route}
      (offer : json.Holds
        [(["code"], some (.number "200")), (["data"], some data), (["errorMsg", "error"], error)])
      (fits : lenient Json.asText error = some remark)
      (inner : data.Holds
        [(["to"], some (.ofText route.target)), (["data"], some (.ofText route.callData)),
          (["outAmount"], some (.ofText route.amountOut))]) :
      Shows .openOcean json route

/-- A successful answer of an aggregator that carries the texts of a route in its body. -/
def Carries (kind : AggregatorKind) (answer : Http.Response) (route : Route) : Prop :=
  ∃ status body json, answer = .answered status body ∧ Http.isSuccess status = true ∧
    Json.read body = some json ∧ Shows kind json route

section

variable {kind : AggregatorKind} {json : Json} {route : Route} {answer : Http.Response}

/-- A body comes to the route that it carries. -/
theorem readBody_of_shows (shown : Shows kind json route) (request : QuoteRequest) :
    readBody kind request json = some (route.toQuote kind.name request) := by
  cases shown with
  | oneInch offer inner =>
    rw [readBody, readNested_iff.mpr ⟨_, .inl offer, .inl inner⟩, Option.map_some]
  | zeroEx offer => rw [readBody, readFlat_iff.mpr (.inl offer), Option.map_some]
  | @openOcean _ data error remark _ offer fits inner =>
    have digits : "200".toNat? = some 200 := by
      simp [String.toNat?, String.Slice.toNat?, String.Slice.isNat]
    have code : readCode (.number "200") = some 200 := by
      simp [readCode, Json.asNatural, digits, UInt32.size]
    have routed : lenient (readFlat "outAmount") (some data) = some (some route) :=
      (lenient_iff (fun _ _ => readFlat_iff) rfl).mpr (.stated (.inl inner))
    have read : readCoded json = some ⟨200, some route, remark⟩ :=
      readCoded_iff.mpr ⟨_, _, _, .inl offer, code, routed, fits⟩
    rw [readBody, read, Option.map_some]
    rfl

/-- An answer comes to the route that it carries. -/
theorem readResponse_of_carries (carries : Carries kind answer route) (request : QuoteRequest) :
    readResponse kind request answer = route.toQuote kind.name request := by
  obtain ⟨status, body, json, rfl, success, read, shown⟩ := carries
  rw [readResponse, if_pos success, read, Option.bind_some, readBody_of_shows shown request]

/-- Whatever aggregator states a route: an address behind `0x` in digits of either case, calldata
behind at most one `0x` and an amount in decimal digits make the quote of just these. And whatever
the three texts are, all aggregators come to the same, a quote or a malformed answer, up to their
names. -/
theorem readResponse_agrees (request : QuoteRequest) :
    (∀ (target : Address) (callData : Bytes) (amount : Word) (route : Route) (count zeros : Nat),
      Hex.Marked 1 route.target target.toBytes →
      callData ≠ [] → count ≤ 1 → Hex.Marked count route.callData callData →
      route.amountOut = String.ofList (List.replicate zeros '0' ++ Nat.toDigits 10 amount.toNat) →
      ∀ kind answer, Carries kind answer route →
        readResponse kind request answer =
          .ok (request.quoted kind.name ⟨target, callData, amount⟩)) ∧
      ∀ route : Route,
        (∃ reading, ∀ kind answer, Carries kind answer route →
          readResponse kind request answer = .ok (request.quoted kind.name reading)) ∨
        ∃ reason, ∀ kind answer, Carries kind answer route →
          readResponse kind request answer = .error (.malformed kind.name reason) := by
  constructor
  · intro target callData amount route count zeros address present _ bytes decimal kind answer
      carries
    have fits : amount.toNat < 1 <<< 256 := amount.isLt
    have number : Text.readAmount (1 <<< 256) route.amountOut.toList = .ok amount.toNat := by
      rw [decimal, String.toList_ofList, Text.readAmount_toDigits fits]
    have read : route.read = .ok ⟨target, callData, amount⟩ :=
      Route.read_of_texts (Address.parse_iff.mpr ⟨1, Nat.le_refl 1, address⟩)
        (Route.readCallData_iff.mpr ⟨present, count, bytes⟩) number
    rw [readResponse_of_carries carries, Route.toQuote_of_read read]
  · intro route
    cases read : route.read with
    | ok reading =>
      refine .inl ⟨reading, fun kind answer carries => ?_⟩
      rw [readResponse_of_carries carries, Route.toQuote_of_read read]
    | error error =>
      refine .inr ⟨.told error.message, fun kind answer carries => ?_⟩
      rw [readResponse_of_carries carries, Route.toQuote_of_refused read]

end

/-- A route with letters in both cases, bare calldata and zeros before the amount. -/
def paddedRoute : Route :=
  ⟨"0x1111111254EEB25477b68fb85ed929f73A960582", "0Aff", "0099"⟩

/-- The target and the calldata of the route beside other members. -/
def paddedOffer (others : List (Json.Text × Json)) : Json :=
  .object ((some "to", .string (some "0x1111111254EEB25477b68fb85ed929f73A960582")) ::
    (some "data", .string (some "0Aff")) :: others)

/-- The route as each aggregator states it. -/
def paddedAnswer : AggregatorKind → Json
  | .oneInch => .object [(some "toAmount", .string (some "0099")),
    (some "tx", paddedOffer [(some "gas", .number "21000")])]
  | .zeroEx => paddedOffer [(some "buyAmount", .string (some "0099"))]
  | .openOcean => .object [(some "code", .number "200"),
    (some "data", paddedOffer [(some "outAmount", .string (some "0099"))])]

def nestedBody : String :=
  "\x7b\"toAmount\":\"0099\",\"tx\":\x7b\"to\":\"0x1111111254EEB25477b68fb85ed929f73A960582\""
    ++ ",\"data\":\"0Aff\",\"gas\":21000\x7d\x7d"

def flatBody : String :=
  "\x7b\"to\":\"0x1111111254EEB25477b68fb85ed929f73A960582\",\"data\":\"0Aff\""
    ++ ",\"buyAmount\":\"0099\"\x7d"

def codedBody : String :=
  "\x7b\"code\":200,\"data\":\x7b\"to\":\"0x1111111254EEB25477b68fb85ed929f73A960582\""
    ++ ",\"data\":\"0Aff\",\"outAmount\":\"0099\"\x7d\x7d"

/-- The texts of these answers. -/
def paddedBody : AggregatorKind → String
  | .oneInch => nestedBody
  | .zeroEx => flatBody
  | .openOcean => codedBody

theorem read_paddedBody (kind : AggregatorKind) :
    Json.read (paddedBody kind) = some (paddedAnswer kind) := by
  cases kind <;> decide +kernel

theorem shows_paddedAnswer (kind : AggregatorKind) :
    Shows kind (paddedAnswer kind) paddedRoute := by
  cases kind with
  | oneInch =>
    refine @Shows.oneInch _ (paddedOffer [(some "gas", .number "21000")]) _ ⟨_, rfl, ?_, ?_⟩
      ⟨_, rfl, ?_, ?_⟩ <;> simp [Json.membersNamed, paddedRoute, Json.ofText]
  | zeroEx =>
    refine .zeroEx ⟨_, rfl, ?_, ?_⟩ <;> simp [Json.membersNamed, paddedRoute, Json.ofText]
  | openOcean =>
    refine @Shows.openOcean _ (paddedOffer [(some "outAmount", .string (some "0099"))]) none none _
      ⟨_, rfl, ?_, ?_⟩ rfl ⟨_, rfl, ?_, ?_⟩ <;>
      simp [Json.membersNamed, paddedRoute, Json.ofText]

def paddedRequest : QuoteRequest :=
  ⟨0xaa, 0xbb, 1000, 0xcc, .default⟩

theorem readResponse_agrees_padded :
    (∀ kind, Carries kind (.answered 200 (paddedBody kind)) paddedRoute) ∧
      ∀ kind, readResponse kind paddedRequest (.answered 200 (paddedBody kind)) = .ok
        ⟨kind.name, 0xaa, 0xbb, 1000, 99, 0x1111111254eeb25477b68fb85ed929f73a960582,
          [0x0a, 0xff]⟩ := by
  have carries (kind : AggregatorKind) :
      Carries kind (.answered 200 (paddedBody kind)) paddedRoute :=
    ⟨200, _, _, rfl, by decide, read_paddedBody kind, shows_paddedAnswer kind⟩
  have address : Hex.Marked 1 paddedRoute.target
      (Address.toBytes 0x1111111254eeb25477b68fb85ed929f73a960582) :=
    ⟨"1111111254EEB25477b68fb85ed929f73A960582".toList, rfl, rfl⟩
  have callData : Hex.Marked 0 paddedRoute.callData [0x0a, 0xff] :=
    ⟨['0', 'A', 'f', 'f'], rfl, rfl⟩
  have decimal : paddedRoute.amountOut =
      String.ofList (List.replicate 2 '0' ++ Nat.toDigits 10 (99 : Word).toNat) := by
    decide +kernel
  refine ⟨carries, fun kind => ?_⟩
  exact (readResponse_agrees paddedRequest).1 _ [0x0a, 0xff] 99 paddedRoute 0 2 address
    (by decide) (by decide) callData decimal kind _ (carries kind)

end Aggregator

end VaultKeeper
