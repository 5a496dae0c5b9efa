import Mathlib.Data.List.Induction
import VaultKeeper.Alert

/-! # One sending for each window

The memory of a chat is pruned whenever a message comes, and pruned entries never come back. As long
as the clock does not go back this makes no difference to what is decided: a message is held back
exactly if the same message went out less than a window before. So what is held back has no effect on
anything that comes later, and neither has any other message.
-/

namespace VaultKeeper

namespace Sent

/-- What is remembered after some messages, oldest first. -/
def remembered (window : Nat) (past : List Sent) : List Sent :=
  past.foldl (fun recent call => (accept window recent call.message call.time).2) []

/-- Is a message that comes after some others sent? -/
def goesOut (window : Nat) (past : List Sent) (call : Sent) : Bool :=
  (accept window (remembered window past) call.message call.time).1

/-- One of some messages was sent when it came. -/
def WentOut (window : Nat) (past : List Sent) (entry : Sent) : Prop :=
  ∃ before between, past = before ++ entry :: between ∧ goesOut window before entry = true

/-- No message comes at a time before that of an earlier one. -/
def Ordered (calls : List Sent) : Prop :=
  calls.Pairwise fun first second => first.time ≤ second.time

section

variable {window now : Nat} {past past' before between : List Sent} {call entry suppressed : Sent}
  {message : String}

theorem isRecent_iff : entry.isRecent window now = true ↔ now - entry.time < window :=
  decide_eq_true_iff

/-- What has left the window stays outside of it. -/
theorem isRecent_of_le {later : Nat} (le : now ≤ later)
    (recent : entry.isRecent window later = true) : entry.isRecent window now = true := by
  rw [isRecent_iff] at recent ⊢
  omega

theorem ordered_concat_iff :
    Ordered (past ++ [call]) ↔ Ordered past ∧ ∀ earlier ∈ past, earlier.time ≤ call.time := by
  simp [Ordered, List.pairwise_append]

/-- Messages stay in order if one of them is left out. -/
theorem Ordered.remove (ordered : Ordered (before ++ suppressed :: between ++ [call])) :
    Ordered (before ++ between ++ [call]) :=
  ordered.sublist (((List.sublist_cons_self suppressed between).append_left before).append_right _)

/-- Messages stay in order if all others than some are left out. -/
theorem Ordered.filter (ordered : Ordered (past ++ [call])) :
    Ordered ((past.filter fun other => other.message == message) ++ [call]) :=
  ordered.sublist (List.filter_sublist.append_right _)

theorem goesOut_eq_false_iff :
    goesOut window past call = false ↔
      ∃ entry ∈ remembered window past, entry.isRecent window call.time = true ∧
        entry.message = call.message := by
  unfold goesOut accept
  dsimp only
  split
  · next same =>
    obtain ⟨entry, kept, same⟩ := List.any_eq_true.mp same
    obtain ⟨member, recent⟩ := List.mem_filter.mp kept
    exact iff_of_true rfl ⟨entry, member, recent, by simpa using same⟩
  · next fresh =>
    refine iff_of_false nofun ?_
    rintro ⟨entry, member, recent, same⟩
    exact fresh (List.any_eq_true.mpr
      ⟨entry, List.mem_filter.mpr ⟨member, recent⟩, by simpa using same⟩)

theorem accept_remembered_snd :
    (accept window (remembered window past) call.message call.time).2 =
      remembered window (past ++ [call]) := by
  simp [remembered]

/-- A call leaves what is recent, and itself if it is sent. -/
theorem remembered_concat :
    remembered window (past ++ [call]) =
      (remembered window past).filter (isRecent window call.time) ++
        if goesOut window past call then [call] else [] := by
  rw [← accept_remembered_snd, goesOut]
  unfold accept
  dsimp only
  split
  · exact (List.append_nil _).symm
  · rfl

theorem wentOut_concat_iff :
    WentOut window (past ++ [call]) entry ↔
      WentOut window past entry ∨ entry = call ∧ goesOut window past call = true := by
  constructor
  · rintro ⟨before, between, split, sent⟩
    rcases List.eq_nil_or_concat between with rfl | ⟨middle, last, rfl⟩
    · obtain ⟨rfl, same⟩ := List.append_inj' split rfl
      cases same
      exact .inr ⟨rfl, sent⟩
    · rw [List.concat_eq_append, ← List.cons_append, ← List.append_assoc] at split
      obtain ⟨rfl, -⟩ := List.append_inj' split rfl
      exact .inl ⟨before, middle, rfl, sent⟩
  · rintro (⟨before, between, rfl, sent⟩ | ⟨rfl, sent⟩)
    · exact ⟨before, between ++ [call], by simp, sent⟩
    · exact ⟨past, [], rfl, sent⟩

theorem WentOut.mem (wentOut : WentOut window past entry) : entry ∈ past := by
  obtain ⟨before, between, rfl, -⟩ := wentOut
  simp

/-- Of the messages that were sent, the memory holds those that are recent: whatever was pruned
would not be recent by now. -/
theorem mem_remembered_iff (ordered : Ordered past) (latest : ∀ earlier ∈ past, earlier.time ≤ now)
    (recent : entry.isRecent window now = true) :
    entry ∈ remembered window past ↔ WentOut window past entry := by
  induction past using List.reverseRecOn generalizing now with
  | nil =>
    refine iff_of_false List.not_mem_nil ?_
    intro wentOut
    exact List.not_mem_nil wentOut.mem
  | append_singleton past call ih =>
    obtain ⟨earlier, monotone⟩ := ordered_concat_iff.mp ordered
    have atCall : entry.isRecent window call.time = true :=
      isRecent_of_le (latest call (by simp)) recent
    rw [remembered_concat, List.mem_append, List.mem_filter, wentOut_concat_iff,
      ih earlier monotone atCall]
    refine or_congr (and_iff_left atCall) ?_
    cases goesOut window past call with
    | true => simp
    | false => simp

/-- A message is sent unless the same one went out less than a window before. -/
theorem goesOut_iff (ordered : Ordered (past ++ [call])) :
    goesOut window past call = true ↔
      ∀ earlier, WentOut window past earlier → earlier.message = call.message →
        window ≤ call.time - earlier.time := by
  obtain ⟨earlier, monotone⟩ := ordered_concat_iff.mp ordered
  rw [← Bool.not_eq_false, goesOut_eq_false_iff]
  constructor
  · intro fresh entry wentOut same
    refine Nat.le_of_not_lt fun recent => fresh ?_
    have within := isRecent_iff.mpr recent
    exact ⟨entry, (mem_remembered_iff earlier monotone within).mpr wentOut, within, same⟩
  · rintro apart ⟨entry, member, within, same⟩
    have late := apart entry ((mem_remembered_iff earlier monotone within).mp member) same
    exact Nat.not_lt.mpr late (isRecent_iff.mp within)

/-- Only what went out of the same message decides about it. -/
theorem goesOut_congr (ordered : Ordered (past ++ [call])) (ordered' : Ordered (past' ++ [call]))
    (alike : ∀ earlier, earlier.message = call.message →
      (WentOut window past earlier ↔ WentOut window past' earlier)) :
    goesOut window past call = goesOut window past' call := by
  rw [Bool.eq_iff_iff, goesOut_iff ordered, goesOut_iff ordered']
  constructor
  · intro apart earlier wentOut same
    exact apart earlier ((alike earlier same).mpr wentOut) same
  · intro apart earlier wentOut same
    exact apart earlier ((alike earlier same).mp wentOut) same

/-- Without a message that is held back, the same ones go out. -/
theorem wentOut_remove_iff (ordered : Ordered (before ++ suppressed :: between))
    (silent : goesOut window before suppressed = false) :
    WentOut window (before ++ suppressed :: between) entry ↔
      WentOut window (before ++ between) entry := by
  induction between using List.reverseRecOn generalizing entry with
  | nil => simp [wentOut_concat_iff, silent]
  | append_singleton between call ih =>
    rw [← List.cons_append, ← List.append_assoc] at ordered ⊢
    have earlier := (ordered_concat_iff.mp ordered).1
    have same : goesOut window (before ++ suppressed :: between) call =
        goesOut window (before ++ between) call :=
      goesOut_congr ordered ordered.remove fun _ _ => ih earlier
    rw [← List.append_assoc, wentOut_concat_iff, wentOut_concat_iff, ih earlier, same]

/-- Without all other messages, the same ones go out. -/
theorem wentOut_filter_iff (ordered : Ordered past) :
    WentOut window (past.filter fun other => other.message == message) entry ↔
      WentOut window past entry ∧ entry.message = message := by
  induction past using List.reverseRecOn generalizing entry with
  | nil =>
    constructor
    · intro wentOut
      exact (List.not_mem_nil wentOut.mem).elim
    · rintro ⟨wentOut, -⟩
      exact (List.not_mem_nil wentOut.mem).elim
  | append_singleton past call ih =>
    have earlier := (ordered_concat_iff.mp ordered).1
    rw [List.filter_append, wentOut_concat_iff]
    by_cases own : call.message = message
    · have same : goesOut window (past.filter fun other => other.message == message) call =
          goesOut window past call := by
        refine goesOut_congr ordered.filter ordered fun other sameMessage => ?_
        rw [ih earlier, and_iff_left (sameMessage.trans own)]
      rw [List.filter_cons_of_pos (by simpa using own), List.filter_nil, wentOut_concat_iff,
        ih earlier, same, or_and_right]
      refine or_congr Iff.rfl ?_
      constructor
      · rintro ⟨rfl, sent⟩
        exact ⟨⟨rfl, sent⟩, own⟩
      · exact And.left
    · rw [List.filter_cons_of_neg (by simpa using own), List.filter_nil, List.append_nil,
        ih earlier, or_and_right]
      refine (or_iff_left ?_).symm
      rintro ⟨⟨rfl, -⟩, same⟩
      exact own same

/-- No message is remembered twice. -/
theorem nodup_remembered (window : Nat) (past : List Sent) :
    ((remembered window past).map Sent.message).Nodup := by
  induction past using List.reverseRecOn with
  | nil => exact .nil
  | append_singleton past call ih =>
    have kept : (((remembered window past).filter (isRecent window call.time)).map
        Sent.message).Nodup := ih.sublist (List.filter_sublist.map _)
    rw [remembered_concat]
    cases fresh : goesOut window past call with
    | false => simpa using kept
    | true =>
      rw [if_pos rfl, List.map_append, List.nodup_append]
      refine ⟨kept, by simp, ?_⟩
      rintro text old other new rfl
      obtain ⟨entry, member, same⟩ := List.mem_map.mp old
      obtain ⟨member, recent⟩ := List.mem_filter.mp member
      have held : goesOut window past call = false :=
        goesOut_eq_false_iff.mpr ⟨entry, member, recent, same.trans (by simpa using new)⟩
      rw [held] at fresh
      cases fresh

end

end Sent

/-- A chat after some messages, oldest first. -/
def Chat.hearing (chat : Chat) (past : List Sent) : Chat :=
  past.foldl (fun chat call => (chat.notify call.message call.time).2) chat

/-- A chat that starts out with no memory remembers what is remembered of the messages, and nothing
else about it changes. -/
theorem Chat.hearing_eq (chat : Chat) (fresh : chat.recent = []) (past : List Sent) :
    chat.hearing past = { chat with recent := Sent.remembered chat.window past } := by
  induction past using List.reverseRecOn with
  | nil =>
    cases chat
    cases fresh
    rfl
  | append_singleton past call ih =>
    have step : chat.hearing (past ++ [call]) =
        ((chat.hearing past).notify call.message call.time).2 := by
      simp [hearing]
    rw [step, ih, ← Sent.accept_remembered_snd]
    rfl

/-- A message that comes after some others goes out exactly if the same message did not go out less
than a window before. Messages that were held back might as well not have come, and so might all
other messages. Afterwards the memory holds what went out less than a window before, and the
message itself if it went out, each message once. A chat makes a request exactly for what goes
out. -/
theorem Sent.goesOut_once (window : Nat) (past : List Sent) (call : Sent)
    (ordered : Ordered (past ++ [call])) :
    (goesOut window past call = true ↔
      ∀ before earlier between, past = before ++ earlier :: between →
        goesOut window before earlier = true → earlier.message = call.message →
        ¬call.time - earlier.time < window) ∧
    (∀ before suppressed between, past = before ++ suppressed :: between →
      goesOut window before suppressed = false →
      goesOut window (before ++ between) call = goesOut window past call) ∧
    goesOut window (past.filter fun other => other.message == call.message) call =
      goesOut window past call ∧
    (∀ entry, entry ∈ remembered window (past ++ [call]) ↔
      entry = call ∧ goesOut window past call = true ∨
      WentOut window past entry ∧ call.time - entry.time < window) ∧
    ((remembered window (past ++ [call])).map Sent.message).Nodup ∧
    ∀ chat : Chat, chat.window = window → chat.recent = [] →
      ((chat.hearing past).notify call.message call.time).1 =
        if goesOut window past call then some (chat.request call.message) else none := by
  obtain ⟨earlier, monotone⟩ := ordered_concat_iff.mp ordered
  refine ⟨?_, ?_, ?_, ?_, nodup_remembered window _, ?_⟩
  · rw [goesOut_iff ordered]
    constructor
    · intro apart before entry between split sent same
      exact Nat.not_lt.mpr (apart entry ⟨before, between, split, sent⟩ same)
    · rintro apart entry ⟨before, between, split, sent⟩ same
      exact Nat.not_lt.mp (apart before entry between split sent same)
  · rintro before suppressed between rfl silent
    refine goesOut_congr ordered.remove ordered fun entry _ => ?_
    exact (wentOut_remove_iff earlier silent).symm
  · refine goesOut_congr ordered.filter ordered fun entry same => ?_
    rw [wentOut_filter_iff earlier, and_iff_left same]
  · intro entry
    rw [remembered_concat, List.mem_append, List.mem_filter, or_comm]
    refine or_congr ?_ ?_
    · cases goesOut window past call with
      | true => simp
      | false => simp
    · rw [isRecent_iff, and_congr_left]
      intro within
      exact mem_remembered_iff earlier monotone (isRecent_iff.mpr within)
  · rintro chat rfl fresh
    rw [Chat.hearing_eq chat fresh]
    rfl

/-- An alarm is raised twice, with another one at the same time as its repetition. -/
def Sent.flurry : List Sent := [⟨"fuse", 0⟩, ⟨"fuse", 30⟩, ⟨"pause", 30⟩]

/-- The alarm is sent again as soon as the window has passed since it was sent, though not since it
was repeated, and then the memory has forgotten the first time. -/
theorem Sent.goesOut_once_flurry :
    Ordered (flurry ++ [⟨"fuse", 60⟩]) ∧ goesOut 60 flurry ⟨"fuse", 60⟩ = true ∧
      goesOut 60 flurry ⟨"fuse", 59⟩ = false ∧
      goesOut 60 [⟨"fuse", 0⟩, ⟨"pause", 30⟩] ⟨"fuse", 60⟩ = true ∧
      ⟨"fuse", 0⟩ ∉ remembered 60 (flurry ++ [⟨"fuse", 60⟩]) ∧
      (((Chat.ofBot "token" "42").hearing flurry).notify "fuse" 60).1 = none := by
  have ordered : Ordered (flurry ++ [⟨"fuse", 60⟩]) := by
    simp [Ordered, flurry]
  obtain ⟨-, removed, -, memory, -, -⟩ := goesOut_once 60 flurry ⟨"fuse", 60⟩ ordered
  obtain ⟨-, -, -, -, -, requested⟩ := goesOut_once 300000 flurry ⟨"fuse", 60⟩ ordered
  have sent : goesOut 60 flurry ⟨"fuse", 60⟩ = true := by decide
  refine ⟨ordered, sent, by decide, ?_, ?_, ?_⟩
  · exact (removed [⟨"fuse", 0⟩] ⟨"fuse", 30⟩ [⟨"pause", 30⟩] rfl (by decide)).trans sent
  · rw [memory]
    rintro (⟨same, -⟩ | ⟨-, within⟩)
    · exact absurd same (by decide)
    · exact absurd within (by decide)
  · exact (requested (Chat.ofBot "token" "42") rfl rfl).trans (if_neg (by decide))

end VaultKeeper
