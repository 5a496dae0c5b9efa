import VaultKeeper.Proofs.Poll

/-! # Answers that make no difference

Some answers may be given in place of others without a program noticing: it goes on in the same way
after either of them. A program of which this is true wherever it asks is indifferent, and then two
of its runs that are answered alike but for such answers make the same calls and end alike.
-/

namespace VaultKeeper.Program

/-- Which answer may stand for which: after some exchanges, to a call, the second one for the
first. -/
abbrev Substitution (I : Interface) :=
  List (Exchange I) → (call : I.Call) → (answer substitute : I.Answer call) → Prop

variable {I : Interface} {α β : Type} {allows : Substitution I}
  {past trace trace' : List (Exchange I)}

/-- With the exchanges of `past` behind it, a program goes on after every answer as it goes on after
whatever may stand for that answer. -/
inductive Indifferent (allows : Substitution I) : List (Exchange I) → Program I α → Prop
  | done (past : List (Exchange I)) (a : α) : Indifferent allows past (.done a)
  | call {past : List (Exchange I)} {request : I.Call} {next : I.Answer request → Program I α}
      (alike : ∀ answer substitute, allows past request answer substitute →
        next substitute = next answer)
      (later : ∀ answer, Indifferent allows (past ++ [⟨request, answer⟩]) (next answer)) :
      Indifferent allows past (.call request next)

namespace Indifferent

theorem ask {request : I.Call} {f : I.Answer request → Program I β}
    (alike : ∀ answer substitute, allows past request answer substitute → f substitute = f answer)
    (later : ∀ answer, Indifferent allows (past ++ [⟨request, answer⟩]) (f answer)) :
    Indifferent allows past (ask request >>= f) :=
  .call alike later

theorem bind {p : Program I α} {f : α → Program I β} (first : Indifferent allows past p)
    (rest : ∀ trace a, Runs p trace a → Indifferent allows (past ++ trace) (f a)) :
    Indifferent allows past (p >>= f) := by
  induction first with
  | done past a =>
    have continued := rest [] a (.done a)
    rw [List.append_nil] at continued
    exact continued
  | @call past request next alike _ ih =>
    refine .call (fun answer substitute allowed => ?_) fun answer => ?_
    · exact congrArg (· >>= f) (alike answer substitute allowed)
    · refine ih answer fun trace a ran => ?_
      rw [List.append_assoc]
      exact rest _ a (.call ran)

/-- Polling is indifferent where its rounds are, if they keep what they need. -/
theorem pollUntil (holds : List (Exchange I) → Prop) {wait : Program I Unit}
    {check : Program I (Option α)}
    (waits : ∀ past, holds past → Indifferent allows past wait ∧
      ∀ trace, Runs wait trace () → holds (past ++ trace))
    (checks : ∀ past, holds past → Indifferent allows past check ∧
      ∀ trace found, Runs check trace found → holds (past ++ trace))
    {past : List (Exchange I)} (start : holds past) (rounds : Nat) :
    Indifferent allows past (pollUntil wait check rounds) := by
  match rounds with
  | 0 => exact .done past none
  | 1 => exact (checks past start).1
  | rounds + 2 =>
    obtain ⟨looks, kept⟩ := checks past start
    refine looks.bind fun look found looked => ?_
    cases found with
    | some value => exact .done _ (some value)
    | none =>
      obtain ⟨pauses, kept⟩ := waits _ (kept look none looked)
      refine pauses.bind fun pause _ waited => ?_
      exact pollUntil holds waits checks (kept pause waited) (rounds + 1)

end Indifferent

/-- Where two runs that have made the same calls make one more, the second of them gets the answer
of the first or one that may stand for it. -/
def AnsweredAlike (allows : Substitution I) (past trace trace' : List (Exchange I)) : Prop :=
  ∀ before call answer after before' answer' after',
    trace = before ++ ⟨call, answer⟩ :: after → trace' = before' ++ ⟨call, answer'⟩ :: after' →
    before'.map Exchange.call = before.map Exchange.call →
    answer' = answer ∨ allows (past ++ before) call answer answer'

/-- One list of exchanges with some of its answers substituted. -/
inductive Substituted (allows : Substitution I) : (past trace trace' : List (Exchange I)) → Prop
  | nil (past : List (Exchange I)) : Substituted allows past [] []
  | cons {past trace trace' : List (Exchange I)} {call : I.Call} {answer answer' : I.Answer call}
      (stands : answer' = answer ∨ allows past call answer answer')
      (later : Substituted allows (past ++ [⟨call, answer⟩]) trace trace') :
      Substituted allows past (⟨call, answer⟩ :: trace) (⟨call, answer'⟩ :: trace')

namespace Substituted

/-- Substituting answers changes no calls. -/
theorem calls (substituted : Substituted allows past trace trace') :
    trace'.map Exchange.call = trace.map Exchange.call := by
  induction substituted with
  | nil => rfl
  | cons _ _ ih => rw [List.map_cons, List.map_cons, ih]

/-- What is read off calls alone is the same after a substitution. -/
theorem filterMap {γ : Type} {read : Exchange I → Option γ}
    (substituted : Substituted allows past trace trace')
    (blind : ∀ call answer answer', read ⟨call, answer⟩ = read ⟨call, answer'⟩) :
    trace'.filterMap read = trace.filterMap read := by
  induction substituted with
  | nil => rfl
  | cons _ _ ih => rw [List.filterMap_cons, List.filterMap_cons, ih, blind]

theorem answeredAlike (substituted : Substituted allows past trace trace') :
    AnsweredAlike allows past trace trace' := by
  induction substituted with
  | nil => simp [AnsweredAlike]
  | cons stands _ ih =>
    intro before request reply after before' reply' after' first second same
    -- both splits are at the same place, since the calls before them are as many
    match before, before' with
    | [], [] =>
      cases first
      cases second
      rwa [List.append_nil]
    | [], _ :: _ | _ :: _, [] => simp at same
    | _ :: before, _ :: before' =>
      obtain ⟨rfl, rfl⟩ := List.cons.inj first
      obtain ⟨rfl, rfl⟩ := List.cons.inj second
      have further := ih before request reply after before' reply' after' rfl rfl
        (List.cons.inj same).2
      rwa [List.append_assoc] at further

end Substituted

theorem AnsweredAlike.head {call : I.Call} {answer answer' : I.Answer call}
    (alike : AnsweredAlike allows past (⟨call, answer⟩ :: trace) (⟨call, answer'⟩ :: trace')) :
    answer' = answer ∨ allows past call answer answer' := by
  have allowed := alike [] call answer trace [] answer' trace' rfl rfl rfl
  rwa [List.append_nil] at allowed

theorem AnsweredAlike.tail {call : I.Call} {answer answer' : I.Answer call}
    (alike : AnsweredAlike allows past (⟨call, answer⟩ :: trace) (⟨call, answer'⟩ :: trace')) :
    AnsweredAlike allows (past ++ [⟨call, answer⟩]) trace trace' := by
  rintro before request reply after before' reply' after' rfl rfl same
  rw [List.append_assoc]
  refine alike (⟨call, answer⟩ :: before) request reply after (⟨call, answer'⟩ :: before') reply'
    after' rfl rfl ?_
  rw [List.map_cons, List.map_cons, same]

/-- Two runs of an indifferent program that are answered alike differ in substituted answers at
most. -/
theorem Indifferent.agree {p : Program I α} {a a' : α} (indifferent : Indifferent allows past p)
    (ran : Runs p trace a) (again : Runs p trace' a')
    (alike : AnsweredAlike allows past trace trace') :
    Substituted allows past trace trace' ∧ a' = a := by
  induction ran generalizing past trace' with
  | done a =>
    obtain ⟨rfl, rfl⟩ := runs_done_iff.mp again
    exact ⟨.nil past, rfl⟩
  | @call request next answer trace a _ ih =>
    obtain ⟨answer', rest, rfl, continued⟩ := runs_call_iff.mp again
    obtain _ | ⟨unmoved, later⟩ := indifferent
    have stands := alike.head
    have same : next answer' = next answer := by
      rcases stands with rfl | allowed
      · rfl
      · exact unmoved answer answer' allowed
    obtain ⟨substituted, rfl⟩ := ih (later answer) (same ▸ continued) alike.tail
    exact ⟨.cons stands substituted, rfl⟩

/-- A run of an indifferent program remains one when some of its answers are substituted. -/
theorem Indifferent.substitute {p : Program I α} {a : α} (indifferent : Indifferent allows past p)
    (ran : Runs p trace a) (substituted : Substituted allows past trace trace') :
    Runs p trace' a := by
  induction ran generalizing past trace' with
  | done a =>
    cases substituted
    exact .done a
  | @call request next answer trace a _ ih =>
    obtain _ | ⟨unmoved, later⟩ := indifferent
    obtain _ | @⟨_, _, _, _, _, answer', stands, rest⟩ := substituted
    have same : next answer' = next answer := by
      rcases stands with rfl | allowed
      · rfl
      · exact unmoved answer answer' allowed
    exact .call (same ▸ ih (later answer) rest)

end VaultKeeper.Program
