import Mathlib.Data.List.DropRight
import VaultKeeper.Journal

/-! # One alarm for each episode

What the journal remembers of a strategy is settled by the observations of that strategy alone, and
of these by the ones since it was last seen not to need a rebalance. The alarm of such an episode is
raised at the first observation that comes late enough after its beginning, and only then.
-/

namespace VaultKeeper

/-- Whether a strategy was seen to need a rebalance, and when. -/
structure Observation where
  strategy : Address
  needed : Bool
  now : UInt64
deriving DecidableEq, Repr

/-- The episode of a strategy that some observations leave open, oldest observation first: all that
was seen of the strategy since it was last seen to need nothing. -/
def openEpisode (strategy : Address) (past : List Observation) : List Observation :=
  (past.filter fun seen => seen.strategy == strategy).rtakeWhile Observation.needed

/-- When an episode began; one without any observation so far begins now. -/
def beginning (episode : List Observation) (now : UInt64) : UInt64 :=
  (episode.head?.map Observation.now).getD now

theorem beginning_concat (episode : List Observation) (seen : Observation) (now : UInt64) :
    beginning (episode ++ [seen]) now = beginning episode seen.now := by
  cases episode <;> rfl

namespace Journal

/-- The journal after some observations, oldest first. -/
def noting (alertAfter : UInt64) (journal : Journal) (past : List Observation) : Journal :=
  past.foldl (fun journal seen =>
    (journal.observe seen.strategy seen.needed seen.now alertAfter).2) journal

/-- The answer to an observation that comes after some others. -/
def alarm (alertAfter : UInt64) (journal : Journal) (past : List Observation)
    (seen : Observation) : Option UInt64 :=
  ((journal.noting alertAfter past).observe seen.strategy seen.needed seen.now alertAfter).1

/-- What is known of an episode: when it began, and whether an observation of it came late enough
for an alarm. -/
def known (alertAfter : UInt64) (episode : List Observation) (now : UInt64) : Episode :=
  let start := beginning episode now
  ⟨start, episode.any fun seen => alertAfter ≤ secondsSince seen.now start⟩

/-- What is remembered of a strategy; an episode that is not remembered begins now. -/
def remembered (journal : Journal) (strategy : Address) (now : UInt64) : Episode :=
  (journal.episode? strategy).getD ⟨now, false⟩

section

variable {strategy other : Address} {journal : Journal} {now alertAfter : UInt64} {needed : Bool}

theorem lookup_others (different : other ≠ strategy) :
    (journal.others strategy).lookup other = journal.episode? other := by
  rw [others, episode?]
  induction journal.episodes with
  | nil => rfl
  | cons entry entries ih =>
    obtain ⟨owner, episode⟩ := entry
    by_cases same : owner = strategy
    · have missed : (other == owner) = false := by simp [same, different]
      rw [List.filter_cons_of_neg (by simp [same]), ih, List.lookup_cons, missed]
    · rw [List.filter_cons_of_pos (by simp [same]), List.lookup_cons, List.lookup_cons, ih]

theorem lookup_others_self : (journal.others strategy).lookup strategy = none := by
  rw [others]
  induction journal.episodes with
  | nil => rfl
  | cons entry entries ih =>
    obtain ⟨owner, episode⟩ := entry
    by_cases same : owner = strategy
    · rw [List.filter_cons_of_neg (by simp [same]), ih]
    · have missed : (strategy == owner) = false := by simpa using Ne.symm same
      rw [List.filter_cons_of_pos (by simp [same]), List.lookup_cons, missed, ih]

/-- An observation says nothing about other strategies. -/
theorem episode?_observe_other (different : other ≠ strategy) :
    (journal.observe strategy needed now alertAfter).2.episode? other = journal.episode? other := by
  unfold observe
  split
  · have missed : (other == strategy) = false := by simp [different]
    rw [episode?, List.lookup_cons, missed]
    exact lookup_others different
  · exact lookup_others different

/-- A strategy that needs nothing has no episode. -/
theorem episode?_observe_unneeded :
    (journal.observe strategy false now alertAfter).2.episode? strategy = none :=
  lookup_others_self

theorem observe_needed :
    journal.observe strategy true now alertAfter =
      let episode := journal.remembered strategy now
      let age := secondsSince now episode.since
      (if alertAfter ≤ age ∧ episode.alerted = false then some age else none,
        { journal with
          episodes := (strategy, ⟨episode.since, episode.alerted || decide (alertAfter ≤ age)⟩) ::
            journal.others strategy }) := by
  unfold observe remembered
  dsimp only
  rw [if_pos rfl]
  cases ((journal.episode? strategy).getD ⟨now, false⟩).alerted <;> simp

/-- Seeing a need goes on with the episode of the strategy. -/
theorem remembered_observe_needed {episode : List Observation} {seen : Observation}
    (same : journal.remembered seen.strategy seen.now = known alertAfter episode seen.now) :
    (journal.observe seen.strategy true seen.now alertAfter).2.remembered seen.strategy now =
      known alertAfter (episode ++ [seen]) now := by
  rw [observe_needed, same, remembered, episode?]
  dsimp only
  rw [List.lookup_cons_self, known, known, beginning_concat, List.any_append]
  simp

end

section

variable {strategy : Address} {past : List Observation} {seen : Observation}
  {cycle : UInt64} {lastRebalance : Option UInt64} {alertAfter : UInt64}

/-- An observation goes on with the episode of its strategy or ends it, and leaves all others as
they are. -/
theorem openEpisode_concat :
    openEpisode strategy (past ++ [seen]) =
      if seen.strategy = strategy then
        if seen.needed then openEpisode strategy past ++ [seen] else []
      else openEpisode strategy past := by
  unfold openEpisode
  split
  · next same =>
    rw [List.filter_append, List.filter_cons_of_pos (by simpa using same), List.filter_nil,
      List.rtakeWhile_concat]
  · next different =>
    rw [List.filter_append, List.filter_cons_of_neg (by simpa using different), List.filter_nil,
      List.append_nil]

/-- The journal remembers what is known of the open episode of every strategy. -/
theorem remembered_noting (past : List Observation) (strategy : Address) (now : UInt64) :
    (noting alertAfter ⟨cycle, lastRebalance, []⟩ past).remembered strategy now =
      known alertAfter (openEpisode strategy past) now := by
  induction past using List.reverseRecOn generalizing strategy now with
  | nil => rfl
  | append_singleton past seen ih =>
    rw [openEpisode_concat, noting, List.foldl_append]
    change (observe (noting alertAfter ⟨cycle, lastRebalance, []⟩ past) seen.strategy seen.needed
      seen.now alertAfter).2.remembered strategy now = _
    split
    · next same =>
      subst same
      cases seen.needed with
      | true => exact remembered_observe_needed (ih seen.strategy seen.now)
      | false =>
        rw [remembered, episode?_observe_unneeded]
        rfl
    · next different =>
      rw [remembered, episode?_observe_other (Ne.symm different)]
      exact ih strategy now

theorem alerted_known_iff {episode : List Observation} {now : UInt64} :
    (known alertAfter episode now).alerted = false ↔
      ∀ earlier ∈ episode, secondsSince earlier.now (beginning episode now) < alertAfter := by
  simp [known, List.any_eq_false]

/-- An observation raises an alarm exactly if it is the first of its episode that comes late
enough. -/
theorem alarm_iff {age : UInt64} :
    alarm alertAfter ⟨cycle, lastRebalance, []⟩ past seen = some age ↔
      seen.needed = true ∧
      let episode := openEpisode seen.strategy past
      let start := beginning episode seen.now
      age = secondsSince seen.now start ∧ alertAfter ≤ age ∧
        ∀ earlier ∈ episode, secondsSince earlier.now start < alertAfter := by
  unfold alarm
  cases seen.needed with
  | false => simp [observe]
  | true =>
    rw [observe_needed, remembered_noting]
    dsimp only
    rw [Option.ite_none_right_eq_some, alerted_known_iff]
    constructor
    · rintro ⟨⟨late, first⟩, same⟩
      obtain rfl := Option.some.inj same
      exact ⟨rfl, rfl, late, first⟩
    · rintro ⟨-, rfl, late, first⟩
      exact ⟨⟨late, first⟩, rfl⟩

/-- While a strategy is seen to need a rebalance its episode goes on. -/
theorem openEpisode_append {more : List Observation}
    (needed : ∀ seen ∈ more, seen.strategy = strategy → seen.needed = true) :
    openEpisode strategy (past ++ more) =
      openEpisode strategy past ++ more.filter fun seen => seen.strategy == strategy := by
  induction more using List.reverseRecOn with
  | nil => simp
  | append_singleton more seen ih =>
    have earlier := ih fun seen member => needed seen (List.mem_append_left _ member)
    rw [← List.append_assoc, openEpisode_concat, earlier, List.filter_append]
    split
    · next same =>
      have wanted := needed seen (List.mem_append_right _ (List.mem_singleton_self _)) same
      rw [if_pos wanted, List.filter_cons_of_pos (by simpa using same), List.filter_nil,
        List.append_assoc]
    · next different =>
      rw [List.filter_cons_of_neg (by simpa using different), List.filter_nil, List.append_nil]

/-- Between two alarms of a strategy it is seen to need nothing. -/
theorem unneeded_between {later : Observation} {between : List Observation} {age age' : UInt64}
    (raised : alarm alertAfter ⟨cycle, lastRebalance, []⟩ past seen = some age)
    (again : alarm alertAfter ⟨cycle, lastRebalance, []⟩ (past ++ seen :: between) later =
      some age')
    (same : later.strategy = seen.strategy) :
    ∃ other ∈ between, other.strategy = seen.strategy ∧ other.needed = false := by
  by_contra absent
  obtain ⟨wanted, rfl, late, -⟩ := alarm_iff.mp raised
  obtain ⟨-, -, -, first⟩ := alarm_iff.mp again
  have needed : ∀ other ∈ seen :: between, other.strategy = seen.strategy → other.needed = true :=
    List.forall_mem_cons.mpr ⟨fun _ => wanted, fun other member own =>
      Bool.of_not_eq_false fun unneeded => absent ⟨other, member, own, unneeded⟩⟩
  -- the first alarm came late in an episode that has not ended since, so it forestalls the second
  have episode : openEpisode seen.strategy (past ++ seen :: between) = _ :=
    openEpisode_append needed
  rw [List.filter_cons_of_pos (by simp)] at episode
  rw [same, episode] at first
  have start : ∀ rest : List Observation,
      beginning (openEpisode seen.strategy past ++ seen :: rest) later.now =
        beginning (openEpisode seen.strategy past) seen.now := by
    intro rest
    cases openEpisode seen.strategy past <;> rfl
  have early := first seen (List.mem_append_right _ List.mem_cons_self)
  rw [start] at early
  exact UInt64.lt_irrefl _ (UInt64.lt_of_lt_of_le early late)

/-- Only what was seen of a strategy itself decides about its alarms. -/
theorem alarm_eq_of_filter {past' : List Observation}
    (alike : (past.filter fun other => other.strategy == seen.strategy) =
      past'.filter fun other => other.strategy == seen.strategy) :
    alarm alertAfter ⟨cycle, lastRebalance, []⟩ past seen =
      alarm alertAfter ⟨cycle, lastRebalance, []⟩ past' seen := by
  have episode : openEpisode seen.strategy past = openEpisode seen.strategy past' := by
    rw [openEpisode, openEpisode, alike]
  refine Option.ext fun age => ?_
  rw [alarm_iff, alarm_iff, episode]

end

/-- An alarm is raised exactly at the first observation of an episode that comes late enough after
its beginning, with the time that has passed since; the next alarm of a strategy comes after it was
seen to need nothing, and other strategies have no part in it. -/
theorem one_alarm_each (cycle : UInt64) (lastRebalance : Option UInt64) (alertAfter : UInt64) :
    (∀ past seen age, alarm alertAfter ⟨cycle, lastRebalance, []⟩ past seen = some age ↔
      seen.needed = true ∧
      let episode := openEpisode seen.strategy past
      let start := beginning episode seen.now
      age = secondsSince seen.now start ∧ alertAfter ≤ age ∧
        ∀ earlier ∈ episode, secondsSince earlier.now start < alertAfter) ∧
    (∀ past seen between later age age',
      alarm alertAfter ⟨cycle, lastRebalance, []⟩ past seen = some age →
      alarm alertAfter ⟨cycle, lastRebalance, []⟩ (past ++ seen :: between) later = some age' →
      later.strategy = seen.strategy →
      ∃ other ∈ between, other.strategy = seen.strategy ∧ other.needed = false) ∧
    ∀ past past' seen,
      (past.filter fun other => other.strategy == seen.strategy) =
        (past'.filter fun other => other.strategy == seen.strategy) →
      alarm alertAfter ⟨cycle, lastRebalance, []⟩ past seen =
        alarm alertAfter ⟨cycle, lastRebalance, []⟩ past' seen :=
  ⟨fun _ _ _ => alarm_iff, fun _ _ _ _ _ _ raised again same => unneeded_between raised again same,
    fun _ _ _ alike => alarm_eq_of_filter alike⟩

/-- An observation of the strategy 3. -/
def sighting (needed : Bool) (now : UInt64) : Observation := ⟨3, needed, now⟩

/-- What is seen between two alarms of the strategy 3; another one is in need all the time. -/
def lull : List Observation :=
  [⟨5, true, 110⟩, sighting true 120, sighting false 130, sighting true 100, ⟨5, true, 150⟩]

/-- The strategy 3 is reported after ten seconds, and after it has recovered once more, though the
clock has been set back. -/
theorem one_alarm_each_lull :
    alarm 10 Journal.empty [sighting true 100] (sighting true 110) = some 10 ∧
      alarm 10 Journal.empty ([sighting true 100] ++ sighting true 110 :: lull)
        (sighting true 112) = some 12 ∧
      ∃ other ∈ lull, other.strategy = 3 ∧ other.needed = false := by
  obtain ⟨raised, apart, -⟩ := one_alarm_each 0 none 10
  have first : alarm 10 Journal.empty [sighting true 100] (sighting true 110) = some 10 :=
    (raised _ _ _).mpr (by decide)
  have second : alarm 10 Journal.empty ([sighting true 100] ++ sighting true 110 :: lull)
      (sighting true 112) = some 12 :=
    (raised _ _ _).mpr (by decide)
  exact ⟨first, second, apart _ _ _ _ _ _ first second rfl⟩

end Journal

end VaultKeeper
