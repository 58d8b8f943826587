import GameClient.Proofs.ChatViews
import Mathlib.Data.List.Pairwise

/-!
# Which messages count as new

A view says how many of its messages came since the view before. What it counts are the messages
after the scroll anchor of that view (`Chat.View.pastAnchor`), which is the number of its last
message. If the backend sends its messages in order, this is the highest number there, and the
messages that are counted are those that are newer than the whole view (`Chat.View.newerThan`).

Nothing makes the backend do so. If the last message does not have the highest number, then a
message in between counts as new although a newer one was shown before. No message that is newer
than the whole view is ever missed. The main statement is `new_messages_are_counted_past_anchor`.
-/

namespace GameClient

namespace Chat

namespace View

variable {before view : View}

/-- The messages that come after the scroll anchor of the view before. -/
def pastAnchor (view before : View) : List Message :=
  view.entries.filter (isNew before.scrollAnchor)

/-- A message has a higher number than all messages of the view before. -/
def allBefore (before : View) (message : Message) : Bool :=
  before.entries.all fun old => old.sequence < message.sequence

/-- The messages that are newer than the whole view before. -/
def newerThan (view before : View) : List Message :=
  view.entries.filter before.allBefore

/-- The anchor is the number of a message of the view. -/
theorem isNew_of_allBefore {message : Message}
    (anchored : before.scrollAnchor = lastSequence? before.entries)
    (newer : before.allBefore message) : isNew before.scrollAnchor message := by
  rw [anchored, lastSequence?]
  cases last : before.entries.getLast? with
  | none => rfl
  | some old => exact List.all_eq_true.mp newer old (List.mem_of_getLast? last)

/-- Where the numbers do not fall, the last one is the highest. -/
theorem allBefore_of_isNew {message : Message}
    (anchored : before.scrollAnchor = lastSequence? before.entries)
    (ordered : (before.entries.map Message.sequence).Pairwise (· ≤ ·))
    (past : isNew before.scrollAnchor message) : before.allBefore message := by
  rw [anchored, lastSequence?] at past
  rcases List.eq_nil_or_concat before.entries with none | ⟨earlier, last, split⟩
  · rw [allBefore, none]
    rfl
  · rw [List.concat_eq_append] at split
    rw [split, List.getLast?_concat] at past
    have past : last.sequence < message.sequence := by simpa [isNew] using past
    rw [split, List.map_append, List.pairwise_append] at ordered
    obtain ⟨-, -, below⟩ := ordered
    rw [allBefore, split, List.all_eq_true]
    intro old mem
    rw [decide_eq_true_iff]
    rcases List.mem_append.mp mem with first | same
    · have le := below _ (List.mem_map_of_mem first) last.sequence (by simp)
      exact UInt64.lt_of_le_of_lt le past
    · rwa [List.mem_singleton.mp same]

theorem newerThan_eq_filter_pastAnchor
    (anchored : before.scrollAnchor = lastSequence? before.entries) :
    view.newerThan before = (view.pastAnchor before).filter before.allBefore := by
  rw [pastAnchor, List.filter_filter, newerThan]
  refine List.filter_congr fun message _ => ?_
  rw [Bool.eq_iff_iff, Bool.and_eq_true]
  exact (and_iff_left_of_imp (isNew_of_allBefore anchored)).symm

end View

namespace Feed

variable {δ : Type} [DecidableEq δ] {digest : List Message → δ}

theorem anchor_applyAll (digest : List Message → δ) (scrollback : Nat)
    (snapshots : List (List Message)) :
    ((new scrollback).applyAll digest snapshots).view.scrollAnchor =
      lastSequence? ((new scrollback).applyAll digest snapshots).view.entries := by
  by_cases given : snapshots = []
  · rw [given]
    rfl
  · obtain ⟨snapshot, last⟩ := exists_last_applied digest scrollback given
    exact (shows_applyAll last).anchor

theorem newSinceLast_of_takenOver {feed : Feed δ} {snapshot : List Message}
    (anchored : feed.view.scrollAnchor = lastSequence? feed.view.entries)
    (takenOver : (feed.applySnapshot digest snapshot).2 = true) :
    let view := (feed.applySnapshot digest snapshot).1.view
    view.newSinceLast = (view.pastAnchor feed.view).length := by
  intro view
  have shown : view = feed.viewOf snapshot := view_of_takenOver takenOver
  rw [shown, View.pastAnchor, anchored, ← List.countP_eq_length_filter]
  rfl

end Feed

end Chat

/-! ## The main statement -/

open Chat (Message Digest Feed View)

/-- What a view says of the messages that came since the view before. -/
structure Chat.View.CountsNew (before view : View) : Prop where
  counted : view.newSinceLast = (view.pastAnchor before).length
  /-- No message that is newer than the whole view before is missed. -/
  complete : (view.newerThan before).Sublist (view.pastAnchor before)
  /-- They alone are counted exactly if no other message comes after the anchor. -/
  exact : view.newSinceLast = (view.newerThan before).length ↔
    ∀ message ∈ view.pastAnchor before, ∀ old ∈ before.entries, old.sequence < message.sequence

theorem Chat.View.countsNew {before view : View}
    (anchored : before.scrollAnchor = Chat.lastSequence? before.entries)
    (counted : view.newSinceLast = (view.pastAnchor before).length) : before.CountsNew view where
  counted := counted
  complete := by
    rw [newerThan_eq_filter_pastAnchor anchored]
    exact List.filter_sublist
  exact := by
    rw [counted, newerThan_eq_filter_pastAnchor anchored, eq_comm,
      List.length_filter_eq_length_iff]
    simp only [allBefore, List.all_eq_true, decide_eq_true_iff]

/-- **New messages.** Whenever a feed takes a snapshot over, the messages that count as new are
those after the scroll anchor of the view before. If the numbers of the snapshot before did not
fall, these are the messages that are newer than the whole view before. -/
theorem new_messages_are_counted_past_anchor (scrollback : Nat) (snapshots : List (List Message))
    (snapshot : List Message) :
    let feed : Feed Digest := (Feed.new scrollback).applyAll Digest.ofSnapshot snapshots
    let next := feed.applySnapshot Digest.ofSnapshot snapshot
    next.2 = true →
      feed.view.CountsNew next.1.view ∧
        ∀ last, ((Feed.new scrollback).applied Digest.ofSnapshot snapshots).getLast? = some last →
          (last.map Message.sequence).Pairwise (· ≤ ·) →
            next.1.view.newSinceLast = (next.1.view.newerThan feed.view).length := by
  intro feed next takenOver
  have anchored := Feed.anchor_applyAll Digest.ofSnapshot scrollback snapshots
  have counts := View.countsNew anchored (Feed.newSinceLast_of_takenOver anchored takenOver)
  refine ⟨counts, fun last applied ordered => counts.exact.mpr ?_⟩
  have shown := (Feed.shows_applyAll applied).inOrder.map Message.sequence
  intro message mem
  have newer := View.allBefore_of_isNew anchored (ordered.sublist shown) (List.mem_filter.mp mem).2
  simpa [View.allBefore] using newer

def orderedThenLate : List Message × List Message :=
  ([⟨1, "Ada", "hi"⟩, ⟨2, "Bob", "hey"⟩, ⟨2, "Bob", "again"⟩, ⟨3, "Ada", "yo"⟩],
    [⟨3, "Ada", "yo"⟩, ⟨5, "Cleo", "news"⟩, ⟨1, "Ada", "hi"⟩, ⟨4, "Bob", "late"⟩])

/-- Of the three messages that there is room for, two are newer than the view before. -/
theorem two_messages_after_third_are_new :
    let feed : Feed Digest :=
      (Feed.new 3).applyAll Digest.ofSnapshot [orderedThenLate.1]
    let next := feed.applySnapshot Digest.ofSnapshot orderedThenLate.2
    next.2 = true ∧
      next.1.view.newSinceLast = (next.1.view.newerThan feed.view).length ∧
        next.1.view.newerThan feed.view = [⟨5, "Cleo", "news"⟩, ⟨4, "Bob", "late"⟩] := by
  intro feed next
  have takenOver : next.2 = true := by decide +kernel
  have applied : ((Feed.new 3).applied Digest.ofSnapshot [orderedThenLate.1]).getLast? =
      some orderedThenLate.1 := rfl
  obtain ⟨-, inOrder⟩ :=
    new_messages_are_counted_past_anchor 3 [orderedThenLate.1] orderedThenLate.2 takenOver
  exact ⟨takenOver, inOrder _ applied (by decide), by decide +kernel⟩

def outOfOrder : List Message := [⟨5, "Ada", "late"⟩, ⟨1, "Bob", "early"⟩]

/-- The third message lies between the two that were shown before, and counts as new; so does the
first one, which is there for the second time. -/
theorem message_below_highest_counts_as_new :
    let feed : Feed Digest :=
      (Feed.new Feed.defaultScrollback).applyAll Digest.ofSnapshot [outOfOrder]
    let next := feed.applySnapshot Digest.ofSnapshot (outOfOrder ++ [⟨3, "Cleo", "between"⟩])
    next.2 = true ∧ next.1.view.newSinceLast = 2 ∧ next.1.view.newerThan feed.view = [] := by
  decide +kernel

end GameClient
