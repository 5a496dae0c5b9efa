import Mathlib.Data.List.Basic
import VaultKeeper.Proofs.Program.Expansion
import VaultKeeper.Vault

/-! # Which strategies are found

The strategies of a vault are those that its splitter lists, just as it lists them, and behind them
the configured ones that are missing there. What is added is determined by its members and their
order alone, so the loop that adds one after the other has no say in it. The search asks for the
splitter first, and it ends without any targets at the first question that is not answered.
-/

namespace VaultKeeper

open Program

/-- The strategies that complete a list: those of `extras` that it lacks, each once and in the order
in which they first occur. -/
structure Completes (listed extras added : List Address) : Prop where
  mem_iff (strategy : Address) : strategy ∈ added ↔ strategy ∈ extras ∧ strategy ∉ listed
  ordered : added.Pairwise fun first second => extras.idxOf first < extras.idxOf second

namespace Completes

variable {listed rest extras added other : List Address} {extra : Address}

theorem nothing (listed : List Address) : Completes listed [] [] :=
  ⟨by simp, .nil⟩

/-- Behind another strategy the first occurrences of all others keep their order. -/
theorem pairwise_idxOf_cons (apart : extra ∉ added)
    (ordered : added.Pairwise fun first second => rest.idxOf first < rest.idxOf second) :
    added.Pairwise fun first second =>
      (extra :: rest).idxOf first < (extra :: rest).idxOf second := by
  refine ordered.imp_of_mem ?_
  intro first second atFirst atSecond before
  have firstNe : extra ≠ first := fun same => apart (same ▸ atFirst)
  have secondNe : extra ≠ second := fun same => apart (same ▸ atSecond)
  rw [List.idxOf_cons_ne rest firstNe, List.idxOf_cons_ne rest secondNe]
  exact Nat.succ_lt_succ before

/-- A strategy that is listed is not added. -/
theorem skip (present : extra ∈ listed) (completes : Completes listed rest added) :
    Completes listed (extra :: rest) added := by
  have apart : extra ∉ added := fun member => ((completes.mem_iff extra).mp member).2 present
  refine ⟨?_, pairwise_idxOf_cons apart completes.ordered⟩
  intro strategy
  rw [completes.mem_iff, List.mem_cons]
  constructor
  · rintro ⟨member, absent⟩
    exact ⟨.inr member, absent⟩
  · rintro ⟨rfl | member, absent⟩
    · exact (absent present).elim
    · exact ⟨member, absent⟩

/-- A strategy that is not listed is added, and from then on it counts as listed. -/
theorem add (absent : extra ∉ listed) (completes : Completes (listed ++ [extra]) rest added) :
    Completes listed (extra :: rest) (extra :: added) := by
  have apart : extra ∉ added := by
    intro member
    obtain ⟨-, unlisted⟩ := (completes.mem_iff extra).mp member
    exact unlisted (by simp)
  constructor
  · intro strategy
    rw [List.mem_cons, completes.mem_iff, List.mem_cons, List.mem_append, List.mem_singleton]
    by_cases same : strategy = extra
    · subst same
      simp [absent]
    · simp [same]
  · refine .cons ?_ (pairwise_idxOf_cons apart completes.ordered)
    intro later member
    have ne : extra ≠ later := fun same => apart (same ▸ member)
    rw [List.idxOf_cons_self, List.idxOf_cons_ne rest ne]
    exact Nat.succ_pos _

theorem nodup (completes : Completes listed extras added) : added.Nodup := by
  refine completes.ordered.imp ?_
  rintro strategy _ before rfl
  exact Nat.lt_irrefl _ before

/-- Only one list completes another. -/
theorem unique (completes : Completes listed extras added)
    (completes' : Completes listed extras other) : added = other := by
  have members : added.Perm other := by
    rw [List.perm_ext_iff_of_nodup completes.nodup completes'.nodup]
    intro strategy
    rw [completes.mem_iff, completes'.mem_iff]
  refine List.Perm.eq_of_pairwise ?_ completes.ordered completes'.ordered members
  intro first second _ _ before after
  exact (Nat.lt_asymm before after).elim

/-- Together with what is added every strategy is there, and nothing else. -/
theorem mem_append_iff (completes : Completes listed extras added) (strategy : Address) :
    strategy ∈ listed ++ added ↔ strategy ∈ listed ∨ strategy ∈ extras := by
  rw [List.mem_append, completes.mem_iff]
  by_cases present : strategy ∈ listed
  · simp [present]
  · simp [present]

/-- What is added repeats nothing, so the whole has repetitions only if the list has. -/
theorem nodup_append_iff (completes : Completes listed extras added) :
    (listed ++ added).Nodup ↔ listed.Nodup := by
  rw [List.nodup_append]
  constructor
  · exact And.left
  · intro distinct
    refine ⟨distinct, completes.nodup, ?_⟩
    intro first atListed second atAdded same
    exact ((completes.mem_iff second).mp atAdded).2 (same ▸ atListed)

end Completes

namespace Vault

variable {vault : Vault} {splitter : Option Address} {listed strategies extras : List Address}
  {targets : List Target} {trace : List (Exchange Registry)} {failure : Failure}

/-- Adding one strategy after the other completes the list. -/
theorem exists_appendMissing (listed extras : List Address) :
    ∃ added, appendMissing listed extras = listed ++ added ∧ Completes listed extras added := by
  induction extras generalizing listed with
  | nil => exact ⟨[], (List.append_nil listed).symm, .nothing listed⟩
  | cons extra rest ih =>
    rw [appendMissing]
    split
    · next present =>
      obtain ⟨added, appended, completes⟩ := ih listed
      exact ⟨added, appended, completes.skip (by simpa using present)⟩
    · next absent =>
      obtain ⟨added, appended, completes⟩ := ih (listed ++ [extra])
      refine ⟨extra :: added, ?_, completes.add (by simpa using absent)⟩
      rw [appended, List.append_assoc, List.singleton_append]

/-- The targets of a vault: one for each of some strategies, in their order, and each with all that
the vault gives to its targets. -/
structure Serves (vault : Vault) (splitter : Option Address) (strategies : List Address)
    (targets : List Target) : Prop where
  strategies_eq : targets.map Target.strategy = strategies
  origin : ∀ target ∈ targets, target.vaultName = vault.name ∧ target.vault = vault.address ∧
    target.splitter = splitter ∧ target.platform = vault.platform

theorem serves_iff :
    vault.Serves splitter strategies targets ↔ targets = strategies.map (vault.target splitter) := by
  constructor
  · rintro ⟨rfl, origin⟩
    rw [List.map_map]
    refine (List.map_id targets).symm.trans (List.map_congr_left ?_)
    rintro ⟨vaultName, address, source, strategy, platform⟩ member
    obtain ⟨rfl, rfl, rfl, rfl⟩ := origin _ member
    rfl
  · rintro rfl
    constructor
    · rw [List.map_map]
      exact List.map_id strategies
    · intro target member
      obtain ⟨strategy, -, rfl⟩ := List.mem_map.mp member
      exact ⟨rfl, rfl, rfl, rfl⟩

/-- What the chain answers about a vault: its splitter and the list of that, or that there is no
splitter, with nothing listed. -/
inductive Answered (vault : Vault) :
    List (Exchange Registry) → (splitter : Option Address) → (listed : List Address) → Prop
  | bare : Answered vault [⟨.splitterOf vault.address, .ok none⟩] none []
  | split (splitter : Address) (listed : List Address) :
      Answered vault [⟨.splitterOf vault.address, .ok (some splitter)⟩,
        ⟨.strategiesOf splitter, .ok listed⟩] (some splitter) listed

/-- One of the two questions about a vault fails, and none comes after it. -/
inductive Unanswered (vault : Vault) : List (Exchange Registry) → Failure → Prop
  | splitter (failure : Failure) :
      Unanswered vault [⟨.splitterOf vault.address, .error failure⟩] failure
  | strategies (splitter : Address) (failure : Failure) :
      Unanswered vault [⟨.splitterOf vault.address, .ok (some splitter)⟩,
        ⟨.strategiesOf splitter, .error failure⟩] failure

/-- A search comes to the targets of what was answered, or to the failure of a question. -/
theorem runs_discover_iff {result : Except Failure (List Target)} :
    Runs vault.discover trace result ↔
      (∃ splitter listed, vault.Answered trace splitter listed ∧
        result = .ok (vault.targets splitter listed)) ∨
      ∃ failure, vault.Unanswered trace failure ∧ result = .error failure := by
  constructor
  · intro run
    obtain ⟨answer, rest, rfl, continued⟩ := runs_ask_bind_iff.mp run
    match answer, continued with
    | .error failure, continued =>
      obtain ⟨rfl, rfl⟩ := runs_done_iff.mp continued
      exact .inr ⟨failure, .splitter failure, rfl⟩
    | .ok none, continued =>
      obtain ⟨rfl, rfl⟩ := runs_done_iff.mp continued
      exact .inl ⟨none, [], .bare, rfl⟩
    | .ok (some splitter), continued =>
      obtain ⟨list, rest, rfl, settled⟩ := runs_ask_bind_iff.mp continued
      match list, settled with
      | .error failure, settled =>
        obtain ⟨rfl, rfl⟩ := runs_done_iff.mp settled
        exact .inr ⟨failure, .strategies splitter failure, rfl⟩
      | .ok listed, settled =>
        obtain ⟨rfl, rfl⟩ := runs_done_iff.mp settled
        exact .inl ⟨some splitter, listed, .split splitter listed, rfl⟩
  · rintro (⟨splitter, listed, answered, rfl⟩ | ⟨failure, unanswered, rfl⟩)
    · cases answered with
      | bare => exact .call (.done _)
      | split => exact .call (.call (.done _))
    · cases unanswered with
      | splitter => exact .call (.done _)
      | strategies => exact .call (.call (.done _))

/-- Whatever the chain answers, a search succeeds exactly if no question fails, and then its targets
are the listed strategies followed by the ones that complete the list; a failure leaves no targets
at all. The completion always exists and is the only one. With it every listed and every configured
strategy is served, no configured one is served twice, and nothing is repeated that the list does
not repeat. -/
theorem discover_completes (vault : Vault) :
    (∀ trace result, Runs vault.discover trace result ↔
      (∃ splitter listed added targets, vault.Answered trace splitter listed ∧
        Completes listed vault.strategies added ∧
        vault.Serves splitter (listed ++ added) targets ∧ result = .ok targets) ∨
      ∃ failure, vault.Unanswered trace failure ∧ result = .error failure) ∧
    (∀ listed, ∃ added, Completes listed vault.strategies added ∧
      ∀ other, Completes listed vault.strategies other → other = added) ∧
    ∀ listed added, Completes listed vault.strategies added →
      (∀ strategy, strategy ∈ listed ++ added ↔
        strategy ∈ listed ∨ strategy ∈ vault.strategies) ∧
      added.Nodup ∧ (∀ strategy ∈ added, strategy ∉ listed) ∧
      ((listed ++ added).Nodup ↔ listed.Nodup) := by
  refine ⟨?_, ?_, ?_⟩
  · intro trace result
    rw [runs_discover_iff]
    refine or_congr ?_ Iff.rfl
    constructor
    · rintro ⟨splitter, listed, answered, rfl⟩
      obtain ⟨added, appended, completes⟩ := exists_appendMissing listed vault.strategies
      refine ⟨splitter, listed, added, _, answered, completes, serves_iff.mpr ?_, rfl⟩
      rw [targets, appended]
    · rintro ⟨splitter, listed, added, targets, answered, completes, serves, rfl⟩
      obtain ⟨added', appended, completes'⟩ := exists_appendMissing listed vault.strategies
      refine ⟨splitter, listed, answered, ?_⟩
      rw [serves_iff.mp serves, Vault.targets, appended, completes.unique completes']
  · intro listed
    obtain ⟨added, -, completes⟩ := exists_appendMissing listed vault.strategies
    exact ⟨added, completes, fun other completes' => completes'.unique completes⟩
  · intro listed added completes
    refine ⟨completes.mem_append_iff, completes.nodup, ?_, completes.nodup_append_iff⟩
    intro strategy member
    exact ((completes.mem_iff strategy).mp member).2

/-- A vault with three strategies of its own, one of them configured twice. -/
def crowded : Vault := ⟨"crowded", 1, .kyber, [33, 32, 33, 34]⟩

/-- Its splitter lists one of them. -/
def crowdedAnswers : List (Exchange Registry) :=
  [⟨.splitterOf 1, .ok (some 2)⟩, ⟨.strategiesOf 2, .ok [31, 32]⟩]

theorem discover_completes_crowded :
    Runs crowded.discover crowdedAnswers
        (.ok ([31, 32, 33, 34].map fun strategy => ⟨"crowded", 1, some 2, strategy, .kyber⟩)) ∧
      Completes [31, 32] crowded.strategies [33, 34] ∧
      (([31, 32] : List Address) ++ [33, 34]).Nodup := by
  have ran : Runs crowded.discover crowdedAnswers
      (.ok ([31, 32, 33, 34].map fun strategy => ⟨"crowded", 1, some 2, strategy, .kyber⟩)) :=
    .call (.call (.done _))
  obtain ⟨found, unique, distinct⟩ := discover_completes crowded
  obtain ⟨_, _, added, _, answered, completes, serves, same⟩ | ⟨_, _, impossible⟩ :=
    (found _ _).mp ran
  · cases answered
    cases same
    have lists : ([31, 32] ++ [33, 34] : List Address) = [31, 32] ++ added := serves.strategies_eq
    obtain rfl : [33, 34] = added := List.append_cancel_left lists
    obtain ⟨-, -, -, repeats⟩ := distinct _ _ completes
    exact ⟨ran, completes, repeats.mpr (by decide)⟩
  · cases impossible

end Vault

end VaultKeeper
