import GameClient.Proofs.SnapshotDigests
import Mathlib.Data.Finset.Card
import Mathlib.Data.List.DropRight

/-!
# What the chat shows

A feed reads a snapshot from its start and remembers the numbers that it has met. What this leaves
are the messages of the snapshot, of several with one number the first (`Chat.firsts`), and of these
the view has the last ones for which there is room. Since a repetition is dropped before the rest is
cut, it takes no room.

So a view is told by the snapshot that was taken over last, whatever came before it
(`Chat.View.Shows`). A feed that was given any snapshot has taken one over, for it starts without a
digest. The main statement is `chat_shows_last_snapshot`.
-/

namespace GameClient

namespace Chat

/-! ## The first message of each number -/

/-- The messages of a snapshot, of several with one number the first. -/
def firsts (snapshot : List Message) : List Message :=
  snapshot.eraseDupsBy fun message other => message.sequence == other.sequence

variable {seen : List UInt64} {messages : List Message}

/-- To pass over the numbers that were met is to drop them first. -/
theorem firstOfEach_eq_firsts (seen : List UInt64) (messages : List Message) :
    firstOfEach seen messages =
      firsts (messages.filter fun message => message.sequence ∉ seen) := by
  induction messages generalizing seen with
  | nil => rfl
  | cons message rest ih =>
      unfold firstOfEach
      split
      · next old => rw [List.filter_cons_of_neg (by simpa using old), ih]
      · next new =>
          rw [List.filter_cons_of_pos (by simpa using new), firsts, List.eraseDupsBy_cons,
            List.filter_filter, ih]
          refine congrArg (fun later => message :: firsts later) (List.filter_congr ?_)
          intro later _
          simp

theorem firstOfEach_nil_eq_firsts (snapshot : List Message) :
    firstOfEach [] snapshot = firsts snapshot := by
  rw [firstOfEach_eq_firsts]
  simp

theorem firstOfEach_sublist (seen : List UInt64) (messages : List Message) :
    (firstOfEach seen messages).Sublist messages := by
  induction messages generalizing seen with
  | nil => exact .slnil
  | cons message rest ih =>
      unfold firstOfEach
      split
      · exact (ih seen).cons message
      · exact (ih _).cons_cons message

/-- Every number stays that was not met before. -/
theorem mem_sequences_firstOfEach {number : UInt64} :
    number ∈ (firstOfEach seen messages).map Message.sequence ↔
      number ∈ messages.map Message.sequence ∧ number ∉ seen := by
  induction messages generalizing seen with
  | nil => simp [firstOfEach]
  | cons message rest ih =>
      unfold firstOfEach
      split
      · next old =>
          rw [ih, List.map_cons, List.mem_cons]
          refine ⟨fun ⟨mem, new⟩ => ⟨.inr mem, new⟩, ?_⟩
          rintro ⟨rfl | mem, new⟩
          · exact absurd old new
          · exact ⟨mem, new⟩
      · next new =>
          rw [List.map_cons, List.mem_cons, ih, List.map_cons, List.mem_cons, List.mem_cons]
          by_cases same : number = message.sequence
          · simp [same, new]
          · simp [same]

theorem nodup_sequences_firstOfEach (seen : List UInt64) (messages : List Message) :
    ((firstOfEach seen messages).map Message.sequence).Nodup := by
  induction messages generalizing seen with
  | nil => exact List.nodup_nil
  | cons message rest ih =>
      unfold firstOfEach
      split
      · exact ih seen
      · refine List.nodup_cons.mpr ⟨fun again => ?_, ih _⟩
        exact (mem_sequences_firstOfEach.mp again).2 List.mem_cons_self

theorem length_firstOfEach (snapshot : List Message) :
    (firstOfEach [] snapshot).length = (snapshot.map Message.sequence).toFinset.card := by
  have same : ((firstOfEach [] snapshot).map Message.sequence).toFinset =
      (snapshot.map Message.sequence).toFinset := by
    ext number
    rw [List.mem_toFinset, List.mem_toFinset, mem_sequences_firstOfEach]
    simp
  rw [← same, List.toFinset_card_of_nodup (nodup_sequences_firstOfEach _ _), List.length_map]

/-! ## The view of a snapshot -/

/-- A view shows the last messages of a snapshot, as many as there is room for. -/
structure View.Shows (view : View) (room : Nat) (snapshot : List Message) : Prop where
  entries : view.entries = (firsts snapshot).rtake room
  distinct : (view.entries.map Message.sequence).Nodup
  /-- The room is used up, unless there are fewer numbers. -/
  length : view.entries.length = min room (snapshot.map Message.sequence).toFinset.card
  inOrder : view.entries.Sublist snapshot
  anchor : view.scrollAnchor = view.entries.getLast?.map Message.sequence
  unanchored : view.scrollAnchor = none ↔ snapshot = []
  newOnes : view.newSinceLast ≤ view.entries.length

namespace Feed

variable {δ : Type} {feed : Feed δ} {snapshot : List Message}

theorem entriesOf_sublist (feed : Feed δ) (snapshot : List Message) :
    (feed.entriesOf snapshot).Sublist (firstOfEach [] snapshot) :=
  List.drop_sublist _ _

theorem length_entriesOf (feed : Feed δ) (snapshot : List Message) :
    (feed.entriesOf snapshot).length =
      min feed.scrollback (snapshot.map Message.sequence).toFinset.card := by
  show (List.drop _ _).length = _
  rw [List.length_drop, length_firstOfEach]
  omega

/-- Nothing is shown of nothing alone. -/
theorem entriesOf_eq_nil_iff (room : 0 < feed.scrollback) :
    feed.entriesOf snapshot = [] ↔ snapshot = [] := by
  rw [← List.length_eq_zero_iff, length_entriesOf, Nat.min_eq_zero_iff, Finset.card_eq_zero,
    List.toFinset_eq_empty_iff, List.map_eq_nil_iff]
  exact or_iff_right (Nat.ne_of_gt room)

theorem shows_viewOf (room : 0 < feed.scrollback) (snapshot : List Message) :
    (feed.viewOf snapshot).Shows feed.scrollback snapshot where
  entries := congrArg (lastOf feed.scrollback) (firstOfEach_nil_eq_firsts snapshot)
  distinct :=
    (nodup_sequences_firstOfEach [] snapshot).sublist ((feed.entriesOf_sublist snapshot).map _)
  length := feed.length_entriesOf snapshot
  inOrder := (feed.entriesOf_sublist snapshot).trans (firstOfEach_sublist [] snapshot)
  anchor := rfl
  unanchored := by
    show Option.map _ _ = none ↔ _
    rw [Option.map_eq_none_iff, List.getLast?_eq_none_iff, entriesOf_eq_nil_iff room]
  newOnes := List.countP_le_length

/-! ## The view after snapshots -/

variable [DecidableEq δ] {digest : List Message → δ} {scrollback : Nat}
  {snapshots : List (List Message)}

theorem view_of_takenOver (takenOver : (feed.applySnapshot digest snapshot).2 = true) :
    (feed.applySnapshot digest snapshot).1.view = feed.viewOf snapshot := by
  unfold applySnapshot at takenOver ⊢
  split at takenOver
  · cases takenOver
  · next other => rw [if_neg other]

theorem scrollback_applyAll (digest : List Message → δ) (scrollback : Nat)
    (snapshots : List (List Message)) :
    ((new scrollback).applyAll digest snapshots).scrollback = max scrollback 1 := by
  induction snapshots using List.reverseRecOn with
  | nil => rfl
  | append_singleton snapshots snapshot ih =>
      rw [applyAll_concat]
      unfold applySnapshot
      split <;> exact ih

/-- A feed shows the snapshot that it took over last. -/
theorem shows_applyAll
    (last : ((new scrollback).applied digest snapshots).getLast? = some snapshot) :
    ((new scrollback).applyAll digest snapshots).view.Shows (max scrollback 1) snapshot := by
  induction snapshots using List.reverseRecOn with
  | nil => cases last
  | append_singleton snapshots next ih =>
      rw [applied_concat] at last
      rw [applyAll_concat]
      split at last
      · next takenOver =>
          rw [List.getLast?_concat] at last
          obtain rfl := Option.some.inj last
          have room := scrollback_applyAll digest scrollback snapshots
          rw [view_of_takenOver takenOver, ← room]
          exact shows_viewOf (by rw [room]; exact Nat.le_max_right _ _) next
      · next passedOver =>
          rw [Bool.not_eq_true] at passedOver
          rw [List.append_nil] at last
          rw [eq_of_passedOver passedOver]
          exact ih last

/-- The first snapshot is always taken over. -/
theorem exists_last_applied (digest : List Message → δ) (scrollback : Nat)
    (given : snapshots ≠ []) :
    ∃ snapshot, ((new scrollback).applied digest snapshots).getLast? = some snapshot := by
  obtain ⟨first, rest, rfl⟩ := List.exists_cons_of_ne_nil given
  have opens : (new scrollback).applied digest (first :: rest) =
      first :: ((new scrollback).applySnapshot digest first).1.applied digest rest := rfl
  rw [opens]
  exact ⟨_, List.getLast?_eq_some_getLast (List.cons_ne_nil _ _)⟩

end Feed

/-- The view is that of the snapshot that a new feed takes over last of some snapshots. -/
def View.ShowsLast (view : View) (scrollback : Nat) (snapshots : List (List Message)) : Prop :=
  ∃ snapshot,
    ((Feed.new scrollback).applied Digest.ofSnapshot snapshots).getLast? = some snapshot ∧
      view.Shows (max scrollback 1) snapshot

theorem Feed.showsLast {scrollback : Nat} {snapshots : List (List Message)}
    (given : snapshots ≠ []) :
    ((Feed.new scrollback).applyAll Digest.ofSnapshot snapshots).view.ShowsLast scrollback
      snapshots :=
  let ⟨snapshot, last⟩ := exists_last_applied Digest.ofSnapshot scrollback given
  ⟨snapshot, last, shows_applyAll last⟩

end Chat

/-! ## The main statement -/

open Chat (Message Digest Feed)

/-- **What the chat shows.** As soon as a feed was given a snapshot, it shows the last messages of
the one that it took over last, as many as there is room for, each number once. In every run, the
chat of a client shows the same of the snapshots that were pushed. -/
theorem chat_shows_last_snapshot :
    (∀ scrollback snapshots, snapshots ≠ [] →
      ((Feed.new scrollback).applyAll Digest.ofSnapshot snapshots).view.ShowsLast scrollback
        snapshots) ∧
    ∀ config client, Client.new config = .ok client →
      ∀ steps, Client.chatPushes steps ≠ [] →
        (client.run steps).core.chat.value.ShowsLast config.chat.scrollback.toNat
          (Client.chatPushes steps) := by
  refine ⟨fun _ _ given => Feed.showsLast given, fun config client new steps given => ?_⟩
  have shows := Client.showsFeed_of_run new steps
  have start : client.core.feed = Feed.new config.chat.scrollback.toNat := by
    rw [Client.eq_fresh_of_new new]
    rfl
  rw [shows.shown, shows.feed, start]
  exact Feed.showsLast given

/-- Two snapshots, of which the second one is out of order and repeats two numbers. -/
def unorderedSnapshots : List (List Message) :=
  [[⟨9, "Ada", "hi"⟩],
    [⟨5, "Ada", "one"⟩, ⟨1, "Bob", "two"⟩, ⟨5, "Eve", "again"⟩, ⟨7, "Cleo", "three"⟩,
      ⟨1, "Eve", "again"⟩]]

/-- Where there is room for two messages, the last two of the three numbers are shown. -/
theorem repetitions_take_no_room :
    let entries : List Message := [⟨1, "Bob", "two"⟩, ⟨7, "Cleo", "three"⟩]
    let config : Config := { chat := { scrollback := 2 } }
    let steps := unorderedSnapshots.map Client.Step.pushChat
    ((Feed.new 2).applyAll Digest.ofSnapshot unorderedSnapshots).view.entries = entries ∧
      ((Client.fresh config).run steps).core.chat.value.entries = entries := by
  intro entries config steps
  obtain ⟨feeds, clients⟩ := chat_shows_last_snapshot
  have last : ((Feed.new 2).applied Digest.ofSnapshot unorderedSnapshots).getLast? =
      unorderedSnapshots.getLast? := by decide +kernel
  constructor
  · obtain ⟨snapshot, found, shows⟩ := feeds 2 unorderedSnapshots (by decide)
    obtain rfl := Option.some.inj (last.symm.trans found)
    exact shows.entries.trans (by decide)
  · obtain ⟨snapshot, found, shows⟩ := clients config (.fresh config) rfl steps nofun
    obtain rfl := Option.some.inj (last.symm.trans found)
    exact shows.entries.trans (by decide)

end GameClient
