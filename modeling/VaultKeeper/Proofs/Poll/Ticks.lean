import Mathlib.Algebra.Order.Field.Rat
import Mathlib.Data.List.Induction
import Mathlib.Tactic.NormNum.Ineq
import VaultKeeper.Poll
import VaultKeeper.Proofs.Program.Expansion

/-! # What a poller does tick after tick

A poller is ticked again and again while time goes by, and at some moment a stop may be requested.
`Elapses` is a clock that answers for this, with moments in milliseconds that may lie between two of
them; `Polling` is any sequence of ticks on it. `Course` tells what one tick can do. By induction on
the sequence the number of attempts is what the poller counts and what its waits amount to.
-/

namespace VaultKeeper

open Program

namespace Timer

variable {stop : Option ℚ} {now later : ℚ}

/-- A stop has been requested by now. -/
def StoppedBy (stop : Option ℚ) (now : ℚ) : Prop :=
  ∃ moment, stop = some moment ∧ moment ≤ now

theorem StoppedBy.mono (stopped : StoppedBy stop now) (order : now ≤ later) :
    StoppedBy stop later := by
  obtain ⟨moment, requested, early⟩ := stopped
  exact ⟨moment, requested, early.trans order⟩

/-- What a timer answers as time goes by. A sleep goes by in whole if no stop is requested before
its end, and is cut short by a stop that is; where both fall together either may happen. -/
inductive Elapses (stop : Option ℚ) : ℚ → List (Exchange Timer) → ℚ → Prop
  | nil (now : ℚ) : Elapses stop now [] now
  | look {now finish : ℚ} {stopped : Bool} {rest : List (Exchange Timer)}
      (seen : stopped = true ↔ StoppedBy stop now) (others : Elapses stop now rest finish) :
      Elapses stop now (⟨.stopRequested, stopped⟩ :: rest) finish
  | slept {now finish : ℚ} {span : Nat} {rest : List (Exchange Timer)}
      (whole : ∀ moment, stop = some moment → now + span ≤ moment)
      (others : Elapses stop (now + span) rest finish) :
      Elapses stop now (⟨.sleep span, true⟩ :: rest) finish
  | cut {now finish moment : ℚ} {span : Nat} {rest : List (Exchange Timer)}
      (requested : stop = some moment) (early : moment ≤ now + span)
      (others : Elapses stop (max now moment) rest finish) :
      Elapses stop now (⟨.sleep span, false⟩ :: rest) finish

section

variable {finish : ℚ} {span : Nat} {stopped : Bool} {rest : List (Exchange Timer)}

theorem elapses_look_iff : Elapses stop now (⟨.stopRequested, stopped⟩ :: rest) finish ↔
    (stopped = true ↔ StoppedBy stop now) ∧ Elapses stop now rest finish := by
  constructor
  · rintro (_ | ⟨seen, others⟩)
    exact ⟨seen, others⟩
  · exact fun ⟨seen, others⟩ => .look seen others

theorem elapses_slept_iff : Elapses stop now (⟨.sleep span, true⟩ :: rest) finish ↔
    (∀ moment, stop = some moment → now + span ≤ moment) ∧
      Elapses stop (now + span) rest finish := by
  constructor
  · rintro (_ | _ | ⟨whole, others⟩)
    exact ⟨whole, others⟩
  · exact fun ⟨whole, others⟩ => .slept whole others

theorem elapses_cut_iff : Elapses stop now (⟨.sleep span, false⟩ :: rest) finish ↔
    ∃ moment, stop = some moment ∧ moment ≤ now + span ∧
      Elapses stop (max now moment) rest finish := by
  constructor
  · rintro (_ | _ | _ | ⟨requested, early, others⟩)
    exact ⟨_, requested, early, others⟩
  · exact fun ⟨moment, requested, early, others⟩ => .cut requested early others

end

end Timer

namespace Poller

open Timer

/-- One tick of a poller with the time that it takes. -/
structure Tick where
  start : ℚ
  before : Poller
  trace : List (Exchange Timer)
  step : PollStep
  after : Poller
  finish : ℚ

namespace Tick

/-- The tick is one that the poller can make from its start on. -/
structure Happens (stop : Option ℚ) (tick : Tick) : Prop where
  runs : Runs tick.before.tick tick.trace (tick.step, tick.after)
  elapses : Elapses stop tick.start tick.trace tick.finish

/-- The sleeps of the tick, with what came of them. -/
def sleeps (tick : Tick) : List (Exchange Timer) :=
  tick.trace.filter fun exchange => exchange.call ≠ .stopRequested

/-- The number of the attempt, if the tick leads to one. -/
def number? (tick : Tick) : Option UInt32 :=
  match tick.step with
  | .attempt number => some number
  | .exhausted | .cancelled => none

end Tick

/-- What a tick can do: from a poller and a start to the sleeps, the step, the poller after it and
the end. -/
inductive Course (stop : Option ℚ) (poller : Poller) (start : ℚ) :
    List (Exchange Timer) → PollStep → Poller → ℚ → Prop
  | stopped (requested : StoppedBy stop start) : Course stop poller start [] .cancelled poller start
  | exhausted (running : ¬ StoppedBy stop start) (limit : poller.isExhausted = true) :
      Course stop poller start [] .exhausted poller start
  | first (running : ¬ StoppedBy stop start) (below : poller.isExhausted = false)
      (fresh : poller.attempts = 0) :
      Course stop poller start [] poller.count.1 poller.count.2 start
  | next (running : ¬ StoppedBy stop start) (below : poller.isExhausted = false)
      (used : poller.attempts ≠ 0)
      (whole : ∀ moment, stop = some moment → start + poller.policy.interval ≤ moment) :
      Course stop poller start [⟨.sleep poller.policy.interval, true⟩] poller.count.1
        poller.count.2 (start + poller.policy.interval)
  | cut {moment : ℚ} (below : poller.isExhausted = false) (used : poller.attempts ≠ 0)
      (requested : stop = some moment) (ahead : start < moment)
      (early : moment ≤ start + poller.policy.interval) :
      Course stop poller start [⟨.sleep poller.policy.interval, false⟩] .cancelled poller moment

section

variable {stop : Option ℚ} {policy : PollPolicy} {poller : Poller} {start now finish : ℚ}
  {tick : Tick} {ticks earlier later : List Tick}

/-- Every tick takes one of these courses. -/
theorem Tick.Happens.course (happens : tick.Happens stop) :
    Course stop tick.before tick.start tick.sleeps tick.step tick.after tick.finish := by
  obtain ⟨start, poller, trace, step, after, finish⟩ := tick
  obtain ⟨run, elapses⟩ := happens
  dsimp only at run elapses ⊢
  obtain ⟨stopped, _, rfl, continued⟩ := runs_ask_bind_iff.mp run
  obtain ⟨seen, behind⟩ := elapses_look_iff.mp elapses
  cases stopped with
  | true =>
    obtain ⟨rfl, same⟩ := runs_done_iff.mp continued
    cases same
    cases behind
    exact .stopped (seen.mp rfl)
  | false =>
    have running : ¬ StoppedBy stop start := fun requested => nomatch seen.mpr requested
    simp only [Bool.false_eq_true, if_false] at continued
    split at continued
    · next limit =>
      obtain ⟨rfl, same⟩ := runs_done_iff.mp continued
      cases same
      cases behind
      exact .exhausted running limit
    · next limit =>
      have below : poller.isExhausted = false := Bool.eq_false_iff.mpr limit
      split at continued
      · next fresh =>
        obtain ⟨rfl, same⟩ := runs_done_iff.mp continued
        cases same
        cases behind
        exact .first running below fresh
      · next used =>
        obtain ⟨completed, _, rfl, ended⟩ := runs_ask_bind_iff.mp continued
        obtain ⟨rfl, same⟩ := runs_done_iff.mp ended
        cases completed with
        | true =>
          cases same
          obtain ⟨whole, done⟩ := elapses_slept_iff.mp behind
          cases done
          exact .next running below used whole
        | false =>
          cases same
          obtain ⟨moment, requested, early, done⟩ := elapses_cut_iff.mp behind
          have ahead : start < moment :=
            lt_of_not_ge fun past => running ⟨moment, requested, past⟩
          rw [max_eq_right ahead.le] at done
          cases done
          exact .cut below used requested ahead early

/-- At any time a tick has a course to take. -/
theorem exists_course (stop : Option ℚ) (poller : Poller) (start : ℚ) :
    ∃ slept step after finish, Course stop poller start slept step after finish := by
  by_cases requested : StoppedBy stop start
  · exact ⟨_, _, _, _, .stopped requested⟩
  cases limit : poller.isExhausted with
  | true => exact ⟨_, _, _, _, .exhausted requested limit⟩
  | false =>
    by_cases fresh : poller.attempts = 0
    · exact ⟨_, _, _, _, .first requested limit fresh⟩
    by_cases whole : ∀ moment, stop = some moment → start + poller.policy.interval ≤ moment
    · exact ⟨_, _, _, _, .next requested limit fresh whole⟩
    · push Not at whole
      obtain ⟨moment, asked, early⟩ := whole
      have ahead : start < moment := lt_of_not_ge fun past => requested ⟨moment, asked, past⟩
      exact ⟨_, _, _, _, .cut limit fresh asked ahead early.le⟩

namespace Course

variable {slept : List (Exchange Timer)} {step : PollStep} {after : Poller} {moment : ℚ}

/-- Every course can be taken. -/
theorem happens (course : Course stop poller start slept step after finish) :
    ∃ stopped, (⟨start, poller, ⟨.stopRequested, stopped⟩ :: slept, step, after, finish⟩ :
      Tick).Happens stop := by
  have seen (running : ¬ StoppedBy stop start) : false = true ↔ StoppedBy stop start :=
    iff_of_false nofun running
  cases course with
  | stopped requested =>
    exact ⟨true, .call (.done _), .look (iff_of_true rfl requested) (.nil _)⟩
  | exhausted running limit =>
    refine ⟨false, runs_ask_bind_iff.mpr ⟨false, _, rfl, ?_⟩, .look (seen running) (.nil _)⟩
    simp [limit]
  | first running below fresh =>
    refine ⟨false, runs_ask_bind_iff.mpr ⟨false, _, rfl, ?_⟩, .look (seen running) (.nil _)⟩
    simp [below, fresh]
  | next running below used whole =>
    refine ⟨false, runs_ask_bind_iff.mpr ⟨false, _, rfl, ?_⟩,
      .look (seen running) (.slept whole (.nil _))⟩
    simp only [Bool.false_eq_true, if_false, below, if_neg used]
    exact .call (.done _)
  | cut below used requested ahead early =>
    have running : ¬ StoppedBy stop start := by
      rintro ⟨_, same, past⟩
      cases requested.symm.trans same
      exact absurd ahead past.not_gt
    refine ⟨false, runs_ask_bind_iff.mpr ⟨false, _, rfl, ?_⟩,
      .look (seen running) (.cut requested early ?_)⟩
    · simp only [Bool.false_eq_true, if_false, below, if_neg used]
      exact .call (.done _)
    · rw [max_eq_right ahead.le]
      exact .nil _

/-- A tick that begins after a stop. -/
theorem of_stopped (course : Course stop poller start slept step after finish)
    (requested : StoppedBy stop start) : step = .cancelled ∧ slept = [] ∧ after = poller := by
  cases course with
  | stopped => exact ⟨rfl, rfl, rfl⟩
  | exhausted running | first running | next running => exact absurd requested running
  | cut _ _ asked ahead =>
    obtain ⟨_, same, past⟩ := requested
    cases asked.symm.trans same
    exact absurd ahead past.not_gt

/-- A tick that begins with no attempt left. -/
theorem of_exhausted (course : Course stop poller start slept step after finish)
    (running : ¬ StoppedBy stop start) (limit : poller.isExhausted = true) :
    step = .exhausted ∧ slept = [] ∧ after = poller := by
  cases course with
  | stopped requested => exact absurd requested running
  | exhausted => exact ⟨rfl, rfl, rfl⟩
  | first _ below | next _ below | cut below => exact absurd limit (by simp [below])

/-- A tick that is stopped while it waits. -/
theorem of_cut (course : Course stop poller start slept step after finish)
    (requested : stop = some moment) (waits : slept ≠ [])
    (early : moment < start + poller.policy.interval) : step = .cancelled ∧ after = poller := by
  cases course with
  | stopped | exhausted | first => exact absurd rfl waits
  | next _ _ _ whole => exact absurd early (whole moment requested).not_gt
  | cut => exact ⟨rfl, rfl⟩

/-- A tick that nothing keeps from its attempt. -/
theorem of_running (course : Course stop poller start slept step after finish)
    (running : ¬ StoppedBy stop start) (below : poller.isExhausted = false)
    (uncut : slept ≠ [] → ∀ moment, stop = some moment → start + poller.policy.interval < moment) :
    step = .attempt (poller.attempts + 1) := by
  cases course with
  | stopped requested => exact absurd requested running
  | exhausted _ limit => exact absurd limit (by simp [below])
  | first | next => rfl
  | cut _ _ requested _ early =>
    exact absurd early (uncut (List.cons_ne_nil _ _) _ requested).not_ge

end Course

/-- A poller can be ticked at any time. -/
theorem exists_happens (stop : Option ℚ) (poller : Poller) (start : ℚ) :
    ∃ tick : Tick, tick.before = poller ∧ tick.start = start ∧ tick.Happens stop := by
  obtain ⟨slept, step, after, finish, course⟩ := exists_course stop poller start
  obtain ⟨stopped, happens⟩ := course.happens
  exact ⟨_, rfl, rfl, happens⟩

theorem Tick.Happens.start_le_finish (happens : tick.Happens stop) : tick.start ≤ tick.finish := by
  have course := happens.course
  generalize tick.sleeps = slept, tick.step = step, tick.after = after, tick.finish = finish
    at course
  cases course with
  | stopped | exhausted | first => exact le_rfl
  | next => exact le_add_of_nonneg_right (Nat.cast_nonneg _)
  | cut _ _ _ ahead => exact ahead.le

/-- A tick leads to an attempt and counts it, or it leads to none and counts nothing. -/
theorem Tick.Happens.counts (happens : tick.Happens stop) :
    (tick.number? = none ∧ tick.after = tick.before ∧
      (tick.sleeps = [] ∨ StoppedBy stop tick.finish)) ∨
    (tick.number? = some (tick.before.attempts + 1) ∧
      tick.after = ⟨tick.before.policy, tick.before.attempts + 1⟩ ∧
      ¬ StoppedBy stop tick.start ∧ tick.before.isExhausted = false ∧
      tick.sleeps = if tick.before.attempts = 0 then []
        else [⟨.sleep tick.before.policy.interval, true⟩]) := by
  have course := happens.course
  unfold Tick.number?
  generalize tick.sleeps = slept, tick.step = step, tick.after = after, tick.finish = finish
    at course ⊢
  cases course with
  | stopped | exhausted => exact .inl ⟨rfl, rfl, .inl rfl⟩
  | cut _ _ requested => exact .inl ⟨rfl, rfl, .inr ⟨_, requested, le_rfl⟩⟩
  | first running below fresh => exact .inr ⟨rfl, rfl, running, below, (if_pos fresh).symm⟩
  | next running below used => exact .inr ⟨rfl, rfl, running, below, (if_neg used).symm⟩

/-- The attempts that ticks lead to. -/
def numbers (ticks : List Tick) : List UInt32 :=
  ticks.filterMap Tick.number?

/-- All sleeps of some ticks. -/
def sleepsOf (ticks : List Tick) : List (Exchange Timer) :=
  ticks.flatMap Tick.sleeps

/-- Ticks of a poller one after another, from its start on, each at any time after the one
before. -/
inductive Polling (stop : Option ℚ) (policy : PollPolicy) : ℚ → Poller → List Tick → Prop
  | start (now : ℚ) : Polling stop policy now (Poller.start policy) []
  | tick {now : ℚ} {ticks : List Tick} {tick : Tick}
      (past : Polling stop policy now tick.before ticks) (later : now ≤ tick.start)
      (happens : tick.Happens stop) : Polling stop policy tick.finish tick.after (ticks ++ [tick])

/-- What a poller knows of the ticks behind it: their attempts, in 32 bits, and as long as no stop
has been requested their sleeps. -/
structure Counted (stop : Option ℚ) (policy : PollPolicy) (now : ℚ) (poller : Poller)
    (ticks : List Tick) : Prop where
  obeys : poller.policy = policy
  /-- Without a limit this may start again at 0. -/
  attempts : poller.attempts = UInt32.ofNat (numbers ticks).length
  limited : ∀ limit, policy.maxAttempts = some limit → (numbers ticks).length ≤ limit.toNat
  numbered : numbers ticks =
    (List.range (numbers ticks).length).map fun made => UInt32.ofNat (made + 1)
  /-- A sleep that was cut short is the last one, for it takes a stop. -/
  waited : (numbers ticks).length < UInt32.size → StoppedBy stop now ∨
    sleepsOf ticks =
      List.replicate ((numbers ticks).length - 1) ⟨.sleep policy.interval, true⟩

/-- Below the limit, as far as there is one. -/
theorem isExhausted_eq_false_iff : poller.isExhausted = false ↔
    ∀ limit, poller.policy.maxAttempts = some limit → poller.attempts < limit := by
  unfold isExhausted
  cases poller.policy.maxAttempts <;> simp

theorem numbers_concat (ticks : List Tick) (tick : Tick) :
    numbers (ticks ++ [tick]) = numbers ticks ++ tick.number?.toList := by
  rw [numbers, List.filterMap_append, ← numbers]
  cases number : tick.number? <;> simp [number]

theorem sleepsOf_concat (ticks : List Tick) (tick : Tick) :
    sleepsOf (ticks ++ [tick]) = sleepsOf ticks ++ tick.sleeps := by
  rw [sleepsOf, List.flatMap_append, ← sleepsOf, List.flatMap_singleton]

namespace Counted

/-- As long as the count has not started again, it is the number of attempts. -/
theorem toNat_attempts (counted : Counted stop policy now poller ticks)
    (small : (numbers ticks).length < UInt32.size) :
    poller.attempts.toNat = (numbers ticks).length := by
  rw [counted.attempts]
  exact UInt32.toNat_ofNat_of_lt small

theorem attempts_succ (counted : Counted stop policy now poller ticks) :
    poller.attempts + 1 = UInt32.ofNat ((numbers ticks).length + 1) := by
  rw [counted.attempts, UInt32.ofNat_add]
  rfl

/-- Under a limit the count never starts again. -/
theorem limited_lt_size (counted : Counted stop policy now poller ticks) {limit : UInt32}
    (given : policy.maxAttempts = some limit) : (numbers ticks).length < UInt32.size :=
  (counted.limited limit given).trans_lt limit.toNat_lt_size

/-- What is left of the limit can be told from the attempts. -/
theorem below_iff (counted : Counted stop policy now poller ticks) :
    poller.isExhausted = false ↔
      ∀ limit, policy.maxAttempts = some limit → (numbers ticks).length < limit.toNat := by
  rw [isExhausted_eq_false_iff, counted.obeys]
  refine forall₂_congr fun limit given => ?_
  rw [UInt32.lt_iff_toNat_lt, counted.toNat_attempts (counted.limited_lt_size given)]

theorem initial (now : ℚ) : Counted stop policy now (Poller.start policy) [] where
  obeys := rfl
  attempts := rfl
  limited := fun _ _ => Nat.zero_le _
  numbered := rfl
  waited := fun _ => .inr rfl

/-- A tick that leads to no attempt. -/
theorem idle (counted : Counted stop policy now tick.before ticks) (order : now ≤ tick.finish)
    (unnumbered : tick.number? = none) (unchanged : tick.after = tick.before)
    (rested : tick.sleeps = [] ∨ StoppedBy stop tick.finish) :
    Counted stop policy tick.finish tick.after (ticks ++ [tick]) := by
  have listed : numbers (ticks ++ [tick]) = numbers ticks := by
    rw [numbers_concat, unnumbered, Option.toList_none, List.append_nil]
  rw [unchanged]
  refine ⟨counted.obeys, ?_, ?_, ?_, fun small => ?_⟩
  · rw [listed]
    exact counted.attempts
  · rw [listed]
    exact counted.limited
  · rw [listed]
    exact counted.numbered
  · rw [listed] at small ⊢
    rw [sleepsOf_concat]
    obtain rest | stopped := rested
    · rw [rest, List.append_nil]
      exact (counted.waited small).imp_left fun stopped => stopped.mono order
    · exact .inl stopped

/-- The sleeps up to an attempt are one less than the attempts. -/
theorem sleepsOf_attempt (counted : Counted stop policy now tick.before ticks)
    (small : (numbers ticks).length + 1 < UInt32.size) (running : ¬ StoppedBy stop now)
    (waits : tick.sleeps = if tick.before.attempts = 0 then []
      else [⟨.sleep tick.before.policy.interval, true⟩]) :
    sleepsOf (ticks ++ [tick]) =
      List.replicate (numbers ticks).length ⟨.sleep policy.interval, true⟩ := by
  have few := Nat.lt_of_succ_lt small
  have count := counted.toNat_attempts few
  have slept := (counted.waited few).resolve_left running
  rw [sleepsOf_concat, slept, waits, counted.obeys]
  cases made : (numbers ticks).length with
  | zero =>
    rw [made] at count
    rw [if_pos (UInt32.toNat_inj.mp count)]
    rfl
  | succ made' =>
    rw [if_neg, List.replicate_succ', Nat.add_sub_cancel]
    intro fresh
    rw [fresh, made] at count
    exact Nat.succ_ne_zero _ count.symm

/-- A tick that leads to an attempt. -/
theorem attempt (counted : Counted stop policy now tick.before ticks)
    (numbered : tick.number? = some (tick.before.attempts + 1))
    (counts : tick.after = ⟨tick.before.policy, tick.before.attempts + 1⟩)
    (running : ¬ StoppedBy stop now) (below : tick.before.isExhausted = false)
    (waits : tick.sleeps = if tick.before.attempts = 0 then []
      else [⟨.sleep tick.before.policy.interval, true⟩]) :
    Counted stop policy tick.finish tick.after (ticks ++ [tick]) := by
  have next := counted.attempts_succ
  have listed : numbers (ticks ++ [tick]) =
      numbers ticks ++ [UInt32.ofNat ((numbers ticks).length + 1)] := by
    rw [numbers_concat, numbered, Option.toList_some, next]
  have longer : (numbers (ticks ++ [tick])).length = (numbers ticks).length + 1 := by
    rw [listed, List.length_append, List.length_singleton]
  rw [counts]
  refine ⟨counted.obeys, ?_, fun limit given => ?_, ?_, fun small => .inr ?_⟩
  · rw [longer]
    exact next
  · rw [longer]
    exact counted.below_iff.mp below limit given
  · rw [longer, listed, List.range_succ, List.map_append, ← counted.numbered]
    rfl
  · rw [longer] at small ⊢
    exact counted.sleepsOf_attempt small running waits

end Counted

theorem Polling.counted (polling : Polling stop policy now poller ticks) :
    Counted stop policy now poller ticks := by
  induction polling with
  | start now => exact .initial now
  | tick past later happens ih =>
    obtain ⟨unnumbered, unchanged, rested⟩ | ⟨numbered, counts, running, below, waits⟩ :=
      happens.counts
    · exact ih.idle (later.trans happens.start_le_finish) unnumbered unchanged rested
    · exact ih.attempt numbered counts (fun stopped => running (stopped.mono later)) below waits

/-- The last tick of several begins after the others. -/
theorem Polling.last (polling : Polling stop policy finish poller (ticks ++ [tick])) :
    ∃ now, Polling stop policy now tick.before ticks ∧ now ≤ tick.start ∧ tick.Happens stop := by
  generalize split : ticks ++ [tick] = all at polling
  cases polling with
  | start => simp at split
  | tick past later happens =>
    obtain ⟨rfl, same⟩ := List.append_inj' split rfl
    cases same
    exact ⟨_, past, later, happens⟩

/-- The first ticks of several are ticks of the poller by themselves. -/
theorem Polling.front (polling : Polling stop policy finish poller (earlier ++ later)) :
    ∃ now before, Polling stop policy now before earlier := by
  induction later using List.reverseRecOn generalizing finish poller with
  | nil => exact ⟨finish, poller, by simpa using polling⟩
  | append_singleton later tick ih =>
    rw [← List.append_assoc] at polling
    obtain ⟨now, past, -, -⟩ := polling.last
    exact ih past

/-- What holds of a tick that comes after others. -/
structure Tick.InOrder (stop : Option ℚ) (policy : PollPolicy) (earlier : List Tick) (tick : Tick) :
    Prop where
  /-- An attempt has the next number, and the sleeps so far are one less. -/
  attempt : ∀ number, tick.step = .attempt number →
    (numbers earlier).length + 1 < UInt32.size →
    number.toNat = (numbers earlier).length + 1 ∧
      sleepsOf (earlier ++ [tick]) =
        List.replicate (number.toNat - 1) ⟨.sleep policy.interval, true⟩
  /-- After the last attempt there is no sleep and no attempt. -/
  exhausted : ∀ limit, policy.maxAttempts = some limit →
    (numbers earlier).length = limit.toNat → ¬ StoppedBy stop tick.start →
    tick.step = .exhausted ∧ tick.sleeps = [] ∧ tick.after = tick.before
  /-- After a stop there is none either. -/
  stopped : StoppedBy stop tick.start →
    tick.step = .cancelled ∧ tick.sleeps = [] ∧ tick.after = tick.before
  /-- A stop during the sleep is in time. -/
  cut : ∀ moment, stop = some moment → tick.sleeps ≠ [] →
    moment < tick.start + policy.interval → tick.step = .cancelled ∧ tick.after = tick.before
  /-- Nothing else stands in the way of an attempt. -/
  due : ¬ StoppedBy stop tick.start →
    (∀ limit, policy.maxAttempts = some limit → (numbers earlier).length < limit.toNat) →
    (tick.sleeps ≠ [] → ∀ moment, stop = some moment → tick.start + policy.interval < moment) →
    tick.step = .attempt (UInt32.ofNat ((numbers earlier).length + 1))

theorem Polling.inOrder (polling : Polling stop policy finish poller (earlier ++ tick :: later)) :
    tick.InOrder stop policy earlier := by
  rw [List.append_cons] at polling
  obtain ⟨_, _, whole⟩ := polling.front
  obtain ⟨now, past, order, happens⟩ := whole.last
  have counted := past.counted
  have course := happens.course
  refine ⟨fun number step small => ?_, fun limit given all running => ?_, fun requested => ?_,
    fun moment requested waits early => ?_, fun running below uncut => ?_⟩
  · obtain ⟨unnumbered, -, -⟩ | ⟨numbered, -, running, -, waits⟩ := happens.counts
    · simp [Tick.number?, step] at unnumbered
    · have next : number = tick.before.attempts + 1 := by simpa [Tick.number?, step] using numbered
      have count : number.toNat = (numbers earlier).length + 1 := by
        rw [next, counted.attempts_succ]
        exact UInt32.toNat_ofNat_of_lt small
      rw [count, Nat.add_sub_cancel]
      have before : ¬ StoppedBy stop now := fun stopped => running (stopped.mono order)
      exact ⟨rfl, counted.sleepsOf_attempt small before waits⟩
  · refine course.of_exhausted running ?_
    by_contra below
    exact (counted.below_iff.mp (Bool.eq_false_iff.mpr below) limit given).ne all
  · exact course.of_stopped requested
  · rw [← counted.obeys] at early
    exact course.of_cut requested waits early
  · rw [← counted.obeys] at uncut
    rw [← counted.attempts_succ]
    exact course.of_running running (counted.below_iff.mpr below) uncut

/-- Attempts are numbered from 1 on without gaps. -/
theorem Counted.map_toNat_numbers (counted : Counted stop policy now poller ticks)
    (small : (numbers ticks).length < UInt32.size) :
    (numbers ticks).map UInt32.toNat = List.range' 1 (numbers ticks).length := by
  have whole : ∀ made ∈ List.range (numbers ticks).length,
      (UInt32.toNat ∘ fun made => UInt32.ofNat (made + 1)) made = 1 + made := by
    intro made before
    have below : made + 1 < UInt32.size := by
      have order := List.mem_range.mp before
      omega
    exact (UInt32.toNat_ofNat_of_lt below).trans (Nat.add_comm made 1)
  rw [List.range'_eq_map_range, ← List.map_congr_left whole, ← List.map_map, ← counted.numbered]

/-- Whenever a poller is ticked and whenever a stop is requested, the attempts are numbered from 1
on without gaps as far as 32 bits go, their count is what the poller counts, and it never exceeds
the limit. Every tick is in order with those before it, and at any later time there can be one
more. -/
theorem ticks_inOrder (polling : Polling stop policy now poller ticks) :
    ((numbers ticks).length < UInt32.size →
      (numbers ticks).map UInt32.toNat = List.range' 1 (numbers ticks).length ∧
        poller.attempts.toNat = (numbers ticks).length) ∧
    (∀ limit, policy.maxAttempts = some limit → (numbers ticks).length ≤ limit.toNat) ∧
    (∀ earlier tick later, ticks = earlier ++ tick :: later → tick.InOrder stop policy earlier) ∧
    ∀ start, now ≤ start → ∃ tick : Tick, tick.start = start ∧
      Polling stop policy tick.finish tick.after (ticks ++ [tick]) := by
  have counted := polling.counted
  refine ⟨fun small => ⟨counted.map_toNat_numbers small, counted.toNat_attempts small⟩,
    counted.limited, ?_, fun start order => ?_⟩
  · rintro earlier tick later rfl
    exact polling.inOrder
  · obtain ⟨tick, rfl, rfl, happens⟩ := exists_happens stop poller start
    exact ⟨tick, rfl, .tick polling order happens⟩

end

/-- A poller with a limit of three attempts, one second apart, after some of them. -/
def upToThree (attempts : UInt32) : Poller :=
  ⟨⟨1000, some 3⟩, attempts⟩

/-- Its first tick, which does not wait. -/
def firstTick : Tick :=
  ⟨0, upToThree 0, [⟨.stopRequested, false⟩], .attempt 1, upToThree 1, 0⟩

/-- Its second tick, which waits. -/
def secondTick : Tick :=
  ⟨100, upToThree 1, [⟨.stopRequested, false⟩, ⟨.sleep 1000, true⟩], .attempt 2, upToThree 2, 1100⟩

/-- Its third tick, which is stopped after one and a half seconds. -/
def thirdTick : Tick :=
  ⟨1200, upToThree 2, [⟨.stopRequested, false⟩, ⟨.sleep 1000, false⟩], .cancelled, upToThree 2,
    1500⟩

theorem polling_stopped :
    Polling (some 1500) ⟨1000, some 3⟩ 1500 (upToThree 2) [firstTick, secondTick, thirdTick] := by
  have running {now : ℚ} (early : now < 1500) : false = true ↔ StoppedBy (some 1500) now := by
    simp [StoppedBy, early]
  have whole : Elapses (some 1500) 100 [⟨.sleep 1000, true⟩] 1100 := by
    refine .slept ?_ ?_
    · rintro _ ⟨⟩
      norm_num
    · norm_num
      exact .nil _
  have cut : Elapses (some 1500) 1200 [⟨.sleep 1000, false⟩] 1500 := by
    refine .cut rfl ?_ ?_
    · norm_num
    · norm_num
      exact .nil _
  have first : firstTick.Happens (some 1500) :=
    ⟨.call (.done _), .look (running (by norm_num [firstTick])) (.nil _)⟩
  have second : secondTick.Happens (some 1500) :=
    ⟨.call (.call (.done _)), .look (running (by norm_num [secondTick])) whole⟩
  have third : thirdTick.Happens (some 1500) :=
    ⟨.call (.call (.done _)), .look (running (by norm_num [thirdTick])) cut⟩
  have one : Polling (some 1500) ⟨1000, some 3⟩ 0 (upToThree 1) [firstTick] :=
    (Polling.start 0).tick le_rfl first
  have two : Polling (some 1500) ⟨1000, some 3⟩ 1100 (upToThree 2) [firstTick, secondTick] :=
    one.tick (by norm_num [secondTick]) second
  exact two.tick (by norm_num [thirdTick]) third

theorem ticks_inOrder_stopped :
    Polling (some 1500) ⟨1000, some 3⟩ 1500 (upToThree 2) [firstTick, secondTick, thirdTick] ∧
      (numbers [firstTick, secondTick, thirdTick]).map UInt32.toNat = [1, 2] ∧
      thirdTick.InOrder (some 1500) ⟨1000, some 3⟩ [firstTick, secondTick] := by
  obtain ⟨numbered, -, each, -⟩ := ticks_inOrder polling_stopped
  exact ⟨polling_stopped, (numbered (by decide)).1, each _ _ [] rfl⟩

end Poller

end VaultKeeper
