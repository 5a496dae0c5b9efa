import Mathlib.Data.List.Forall2
import Mathlib.Data.List.Induction
import VaultKeeper.Proofs.Program.Expansion
import VaultKeeper.Quote.Selection

/-! # Which quote wins

Every provider is asked once and with the same request. Of the quotes that come in time the largest
one wins, and among equals the one whose provider comes first; without any the failure explains for
each provider why it has none. Nothing else about the time of an answer matters.
-/

namespace VaultKeeper.QuoteService

open Program

/-- The leader of some quotes: larger than those before it, and no smaller than those after it. -/
inductive Leads : List Quote → Option Quote → Prop
  | nobody : Leads [] none
  | leader {before after : List Quote} {quote : Quote}
      (largest : ∀ earlier ∈ before, earlier.amountOut < quote.amountOut)
      (unbeaten : ∀ later ∈ after, later.amountOut ≤ quote.amountOut) :
      Leads (before ++ quote :: after) (some quote)

/-- One more quote takes the lead if it is larger than the leader, and only then. -/
theorem Leads.better {quotes : List Quote} {best : Option Quote} (leads : Leads quotes best)
    (next : Quote) : Leads (quotes ++ [next]) (better best next) := by
  cases leads with
  | nobody =>
    have sole : Leads ([] ++ [next]) (some next) := .leader (by simp) (by simp)
    exact sole
  | @leader before after quote largest unbeaten =>
    dsimp only [QuoteService.better]
    split
    · next beaten =>
      refine .leader ?_ (by simp)
      intro earlier member
      rcases List.mem_append.mp member with member | member
      · exact BitVec.lt_trans (largest earlier member) beaten
      · rcases List.mem_cons.mp member with rfl | member
        · exact beaten
        · exact Nat.lt_of_le_of_lt (unbeaten earlier member) beaten
    · next beaten =>
      rw [List.append_assoc, List.cons_append]
      refine .leader largest ?_
      intro later member
      rcases List.mem_append.mp member with member | member
      · exact unbeaten later member
      · obtain rfl := List.mem_singleton.mp member
        exact BitVec.not_lt.mp beaten

/-- The best of some quotes is their leader. -/
theorem leads_foldl_better (quotes : List Quote) : Leads quotes (quotes.foldl better none) := by
  induction quotes using List.reverseRecOn with
  | nil => exact .nobody
  | append_singleton quotes next ih =>
    rw [List.foldl_append]
    exact ih.better next

/-- The exchanges with the providers, in the order of their places. -/
abbrev Trace := List (Exchange Providers)

/-- What an exchange counts as. -/
def counted (timeout : Nat) (exchange : Exchange Providers) : Except QuoteFailure Quote :=
  outcomeOf timeout exchange.call.name exchange.answer

/-- The provider answers in time, with this quote. -/
inductive Offers (timeout : Nat) : Exchange Providers → Quote → Prop
  | inTime {call : Providers.Call} {delay : Nat} {quote : Quote} (inTime : delay ≤ timeout) :
      Offers timeout ⟨call, ⟨delay, .ok quote⟩⟩ quote

/-- Why the provider has no quote: it did not answer in time, or it told so itself. -/
inductive Explains (timeout : Nat) : Exchange Providers → String → Prop
  | late {call : Providers.Call} {delay : Nat} {outcome : Except QuoteFailure Quote}
      (late : timeout < delay) :
      Explains timeout ⟨call, ⟨delay, outcome⟩⟩ (QuoteFailure.timeout call.name timeout).message
  | refused {call : Providers.Call} {delay : Nat} {failure : QuoteFailure}
      (inTime : delay ≤ timeout) :
      Explains timeout ⟨call, ⟨delay, .error failure⟩⟩ failure.message

/-- The same provider gives the same answer in time, sooner or later, or in both cases none. -/
inductive Retimed (timeout : Nat) : Exchange Providers → Exchange Providers → Prop
  | inTime {call : Providers.Call} {outcome : Except QuoteFailure Quote} {delay delay' : Nat}
      (inTime : delay ≤ timeout) (inTime' : delay' ≤ timeout) :
      Retimed timeout ⟨call, ⟨delay, outcome⟩⟩ ⟨call, ⟨delay', outcome⟩⟩
  | late {call : Providers.Call} {outcome outcome' : Except QuoteFailure Quote}
      {delay delay' : Nat} (late : timeout < delay) (late' : timeout < delay') :
      Retimed timeout ⟨call, ⟨delay, outcome⟩⟩ ⟨call, ⟨delay', outcome'⟩⟩

section

variable {timeout delay : Nat} {call : Providers.Call} {outcome : Except QuoteFailure Quote}
  {exchange exchange' : Exchange Providers} {quote : Quote} {failure : QuoteFailure}

theorem counted_of_inTime (inTime : delay ≤ timeout) :
    counted timeout ⟨call, ⟨delay, outcome⟩⟩ = outcome :=
  if_neg (Nat.not_lt.mpr inTime)

theorem counted_of_late (late : timeout < delay) :
    counted timeout ⟨call, ⟨delay, outcome⟩⟩ = .error (.timeout call.name timeout) :=
  if_pos late

theorem offers_iff : Offers timeout exchange quote ↔ counted timeout exchange = .ok quote := by
  constructor
  · rintro ⟨inTime⟩
    exact counted_of_inTime inTime
  · intro counts
    obtain ⟨call, delay, outcome⟩ := exchange
    by_cases late : timeout < delay
    · cases (counted_of_late late).symm.trans counts
    · have inTime : delay ≤ timeout := Nat.not_lt.mp late
      rw [counted_of_inTime inTime] at counts
      subst counts
      exact .inTime inTime

theorem explains_of_counted (counts : counted timeout exchange = .error failure) :
    Explains timeout exchange failure.message := by
  obtain ⟨call, delay, outcome⟩ := exchange
  by_cases late : timeout < delay
  · cases (counted_of_late late).symm.trans counts
    exact .late late
  · have inTime : delay ≤ timeout := Nat.not_lt.mp late
    rw [counted_of_inTime inTime] at counts
    subst counts
    exact .refused inTime

/-- An answer in time counts for the same whenever it comes. -/
theorem Retimed.counted (retimed : Retimed timeout exchange exchange') :
    counted timeout exchange = counted timeout exchange' := by
  cases retimed with
  | inTime inTime inTime' => rw [counted_of_inTime inTime, counted_of_inTime inTime']
  | late late late' => rw [counted_of_late late, counted_of_late late']

end

/-- The exchange of the winner: its quote is larger than those before it, and no smaller than those
after it. -/
def Wins (timeout : Nat) (trace : Trace) (quote : Quote) : Prop :=
  ∃ before exchange after, trace = before ++ exchange :: after ∧ Offers timeout exchange quote ∧
    (∀ earlier ∈ before, ∀ other, Offers timeout earlier other →
      other.amountOut < quote.amountOut) ∧
    ∀ later ∈ after, ∀ other, Offers timeout later other → other.amountOut ≤ quote.amountOut

/-- The two ways in which a service can end: with the winner, or with the number of its providers
and one reason for each of them. -/
inductive Selects (service : QuoteService) (trace : Trace) : Except QuoteFailure Quote → Prop
  | winner {quote : Quote} (wins : Wins service.timeout trace quote) :
      Selects service trace (.ok quote)
  | nobody {reasons : List String}
      (explained : List.Forall₂ (Explains service.timeout) trace reasons) :
      Selects service trace (.error (.allFailed service.names.length reasons))

section

variable {timeout : Nat} {service : QuoteService} {trace trace' : Trace} {quote : Quote}
  {texts : List String} {result : Except QuoteFailure Quote}

/-- The quote that a provider offers in time. -/
def offered? (timeout : Nat) (exchange : Exchange Providers) : Option Quote :=
  (counted timeout exchange).toOption

theorem quotes_map_counted :
    quotes (trace.map (counted timeout)) = trace.filterMap (offered? timeout) :=
  List.filterMap_map

theorem offered?_eq_some_iff {exchange : Exchange Providers} :
    offered? timeout exchange = some quote ↔ Offers timeout exchange quote := by
  rw [offers_iff, offered?]
  cases counted timeout exchange <;> simp [Except.toOption]

/-- The leader of the quotes comes from the winner's exchange. -/
theorem wins_of_leads (leads : Leads (trace.filterMap (offered? timeout)) (some quote)) :
    Wins timeout trace quote := by
  generalize listed : trace.filterMap (offered? timeout) = quotes at leads
  cases leads with
  | leader largest unbeaten =>
    obtain ⟨early, late, rfl, rfl, rest⟩ := List.filterMap_eq_append_iff.mp listed
    obtain ⟨middle, exchange, after, rfl, none, offers, rfl⟩ := List.filterMap_eq_cons_iff.mp rest
    refine ⟨early ++ middle, exchange, after, (List.append_assoc _ _ _).symm,
      offered?_eq_some_iff.mp offers, ?_, ?_⟩
    · intro earlier member other offers
      have offered := offered?_eq_some_iff.mpr offers
      rcases List.mem_append.mp member with member | member
      · exact largest other (List.mem_filterMap.mpr ⟨earlier, member, offered⟩)
      · cases (none earlier member).symm.trans offered
    · intro later member other offers
      have offered := offered?_eq_some_iff.mpr offers
      exact unbeaten other (List.mem_filterMap.mpr ⟨later, member, offered⟩)

/-- Where nobody offers a quote, everybody explains why. -/
theorem explained_of_quotes (none : quotes (trace.map (counted timeout)) = []) :
    List.Forall₂ (Explains timeout) trace (reasons (trace.map (counted timeout))) := by
  induction trace with
  | nil => exact .nil
  | cons exchange trace ih =>
    rw [List.map_cons] at none ⊢
    generalize counts : counted timeout exchange = outcome at none ⊢
    cases outcome with
    | ok quote => cases none
    | error failure => exact .cons (explains_of_counted counts) (ih none)

theorem selects_select (all : trace.length = service.names.length) :
    Selects service trace (select (trace.map (counted service.timeout))) := by
  unfold select
  have leads := leads_foldl_better (quotes (trace.map (counted service.timeout)))
  generalize (quotes (trace.map (counted service.timeout))).foldl better none = best at leads ⊢
  cases best with
  | none =>
    generalize listed : quotes (trace.map (counted service.timeout)) = quotes at leads
    cases leads
    rw [List.length_map, all]
    exact .nobody (explained_of_quotes listed)
  | some quote =>
    rw [quotes_map_counted] at leads
    exact .winner (wins_of_leads leads)

/-- Who explains why there is no quote does not offer one. -/
theorem not_offers_of_explained (explained : List.Forall₂ (Explains timeout) trace texts) :
    ∀ exchange ∈ trace, ∀ quote, ¬ Offers timeout exchange quote := by
  induction explained with
  | nil => simp
  | cons explains _ ih =>
    refine List.forall_mem_cons.mpr ⟨fun quote offers => ?_, ih⟩
    cases explains with
    | late late =>
      cases offers with
      | inTime inTime => exact Nat.not_lt.mpr inTime late
    | refused => cases offers

/-- There is a winner exactly if somebody offers a quote. -/
theorem Selects.ok_iff (selects : Selects service trace result) :
    (∃ quote, result = .ok quote) ↔
      ∃ exchange ∈ trace, ∃ quote, Offers service.timeout exchange quote := by
  cases selects with
  | @winner quote wins =>
    obtain ⟨before, exchange, after, rfl, offers, -⟩ := wins
    have member : exchange ∈ before ++ exchange :: after :=
      List.mem_append_right _ List.mem_cons_self
    exact ⟨fun _ => ⟨exchange, member, quote, offers⟩, fun _ => ⟨quote, rfl⟩⟩
  | nobody explained =>
    constructor
    · rintro ⟨_, same⟩
      cases same
    · rintro ⟨exchange, member, quote, offers⟩
      exact absurd offers (not_offers_of_explained explained exchange member quote)

theorem map_counted_of_retimed (retimed : List.Forall₂ (Retimed timeout) trace trace') :
    trace.map (counted timeout) = trace'.map (counted timeout) := by
  induction retimed with
  | nil => rfl
  | cons head _ ih => rw [List.map_cons, List.map_cons, head.counted, ih]

end

/-- The providers are asked one after the other, from their place on. -/
theorem runs_askFrom {timeout place : Nat} {request : QuoteRequest} {names : List String}
    {trace : Trace} {outcomes : List (Except QuoteFailure Quote)}
    (run : Runs (askFrom timeout request place names) trace outcomes) :
    trace.map Exchange.call = names.mapIdx (fun index name => ⟨place + index, name, request⟩) ∧
      outcomes = trace.map (counted timeout) := by
  induction names generalizing place trace outcomes with
  | nil =>
    obtain ⟨rfl, rfl⟩ := runs_done_iff.mp run
    exact ⟨rfl, rfl⟩
  | cons name names ih =>
    obtain ⟨reply, rest, rfl, continued⟩ := runs_ask_bind_iff.mp run
    obtain ⟨others, asked, rfl⟩ := runs_bind_done_iff.mp continued
    obtain ⟨calls, rfl⟩ := ih asked
    refine ⟨?_, rfl⟩
    rw [List.map_cons, calls, List.mapIdx_cons]
    simp only [Nat.add_zero, Nat.add_assoc, Nat.add_comm 1]

/-- Each provider is asked once, in its place and with the same request. The winner is the earliest
of those with the largest quote in time. There is one exactly if some quote comes in time; otherwise
the failure has one reason for each provider. When an answer comes in makes no difference as long as
it is in time. -/
theorem best_selects {service : QuoteService} {tokenIn tokenOut requester : Address}
    {amountIn : Word} {trace : Trace} {result : Except QuoteFailure Quote}
    (run : Runs (service.best tokenIn tokenOut amountIn requester) trace result) :
    (trace.map Exchange.call = service.names.mapIdx fun place name =>
        ⟨place, name, tokenIn, tokenOut, amountIn, requester, service.settings⟩) ∧
      Selects service trace result ∧
      ((∃ quote, result = .ok quote) ↔
        ∃ exchange ∈ trace, ∃ quote, Offers service.timeout exchange quote) ∧
      ∀ trace' result', List.Forall₂ (Retimed service.timeout) trace trace' →
        Runs (service.best tokenIn tokenOut amountIn requester) trace' result' →
        result' = result := by
  obtain ⟨outcomes, asked, rfl⟩ := runs_bind_done_iff.mp run
  obtain ⟨calls, rfl⟩ := runs_askFrom asked
  have all : trace.length = service.names.length := by
    simpa using congrArg List.length calls
  have selects := selects_select all
  simp only [Nat.zero_add] at calls
  refine ⟨calls, selects, selects.ok_iff, ?_⟩
  intro trace' result' retimed run'
  obtain ⟨outcomes', asked', rfl⟩ := runs_bind_done_iff.mp run'
  obtain ⟨-, rfl⟩ := runs_askFrom asked'
  rw [map_counted_of_retimed retimed]

/-- Four providers, each of which has five seconds. -/
def bazaar : QuoteService :=
  ⟨["a", "b", "c", "d"], 5000, .default⟩

/-- What a provider quotes for a hundred. -/
def bid (provider : String) (amountOut : Word) : Quote :=
  ⟨provider, 1, 2, 100, amountOut, 3, [4]⟩

/-- The exchange with a provider of the bazaar. -/
def asked (place : Nat) (name : String) (reply : ProviderReply) : Exchange Providers :=
  ⟨⟨place, name, 1, 2, 100, 5, .default⟩, reply⟩

/-- The first provider is too late with the largest quote. The third one comes in before the second
with the same quote, and the fourth refuses. -/
def haggling : Trace :=
  [asked 0 "a" ⟨5001, .ok (bid "a" 900)⟩, asked 1 "b" ⟨5000, .ok (bid "b" 70)⟩,
    asked 2 "c" ⟨10, .ok (bid "c" 70)⟩, asked 3 "d" ⟨0, .error (.malformed "d" .badShape)⟩]

theorem best_selects_haggling :
    Runs (bazaar.best 1 2 100 5) haggling (.ok (bid "b" 70)) ∧
      (haggling.map Exchange.call = bazaar.names.mapIdx fun place name =>
        ⟨place, name, 1, 2, 100, 5, .default⟩) ∧
      Selects bazaar haggling (.ok (bid "b" 70)) ∧
      ((∃ quote, (.ok (bid "b" 70) : Except QuoteFailure Quote) = .ok quote) ↔
        ∃ exchange ∈ haggling, ∃ quote, Offers bazaar.timeout exchange quote) ∧
      ∀ trace' result', List.Forall₂ (Retimed bazaar.timeout) haggling trace' →
        Runs (bazaar.best 1 2 100 5) trace' result' → result' = .ok (bid "b" 70) := by
  have run : Runs (bazaar.best 1 2 100 5) haggling (.ok (bid "b" 70)) :=
    .call (.call (.call (.call (.done _))))
  exact ⟨run, best_selects run⟩

end VaultKeeper.QuoteService
