import GameClient.Proofs.Ownership
import Mathlib.Data.List.Destutter

/-!
# Digests in the place of snapshots

A feed passes over a snapshot that it took over last. It does not keep that snapshot, only its
digest: the length and a hash. A feed whose digests are the snapshots themselves keeps it and
compares it in full. As long as the hash tells the snapshots of one length apart
(`Chat.TellsApart`), the two feeds do the same with every snapshot: what the first one holds is what
the second one holds, with the snapshot that is kept replaced by its digest
(`Chat.Feed.applyAll_digested`).

A snapshot that is given twice in a row is passed over the second time, whatever the hash is: equal
snapshots have equal digests. So leaving out such repetitions changes nothing
(`Chat.Feed.applyAll_destutter`).

In a run of the client the feed is given the snapshots that are pushed, and the chat shows what the
feed does. The main statement is `digest_feed_compares_snapshots`.
-/

namespace GameClient

namespace Chat

/-- The hash tells the snapshots of one length apart. -/
def TellsApart (snapshots : List (List Message)) : Prop :=
  ∀ first ∈ snapshots, ∀ second ∈ snapshots, first.length = second.length →
    sipHash (snapshotBytes first) = sipHash (snapshotBytes second) → first = second

theorem TellsApart.eq_of_ofSnapshot_eq {snapshots : List (List Message)}
    (apart : TellsApart snapshots) {first second : List Message} (mem : first ∈ snapshots)
    (otherMem : second ∈ snapshots)
    (same : Digest.ofSnapshot first = Digest.ofSnapshot second) : first = second := by
  obtain ⟨length, hash⟩ := Digest.mk.inj same
  exact apart first mem second otherMem length hash

namespace Feed

variable {δ : Type} [DecidableEq δ] {digest : List Message → δ} {feed : Feed δ}
  {snapshot : List Message}

/-! ## One snapshot -/

/-- A snapshot is passed over exactly if its digest is remembered. -/
theorem passedOver_iff :
    (feed.applySnapshot digest snapshot).2 = false ↔ feed.lastDigest = some (digest snapshot) := by
  unfold applySnapshot
  split <;> simp_all

theorem eq_of_passedOver (passedOver : (feed.applySnapshot digest snapshot).2 = false) :
    (feed.applySnapshot digest snapshot).1 = feed := by
  have kept := passedOver_iff.mp passedOver
  rw [applySnapshot, if_pos kept]

/-- Taken over or passed over, the digest of the snapshot is remembered afterwards. -/
theorem lastDigest_applySnapshot (digest : List Message → δ) (feed : Feed δ)
    (snapshot : List Message) :
    (feed.applySnapshot digest snapshot).1.lastDigest = some (digest snapshot) := by
  unfold applySnapshot
  split
  · next kept => exact kept
  · rfl

/-- A snapshot that is given again is passed over. -/
theorem applySnapshot_again (digest : List Message → δ) (feed : Feed δ)
    (snapshot : List Message) :
    (feed.applySnapshot digest snapshot).1.applySnapshot digest snapshot =
      ((feed.applySnapshot digest snapshot).1, false) := by
  have again := passedOver_iff.mpr (lastDigest_applySnapshot digest feed snapshot)
  exact Prod.ext (eq_of_passedOver again) again

/-! ## Snapshots one after the other -/

/-- The feed after snapshots, one after the other. -/
def applyAll (digest : List Message → δ) (feed : Feed δ) (snapshots : List (List Message)) :
    Feed δ :=
  snapshots.foldl (fun feed snapshot => (feed.applySnapshot digest snapshot).1) feed

/-- The snapshots that are taken over, of those that a feed is given. -/
def applied (digest : List Message → δ) (feed : Feed δ) : List (List Message) → List (List Message)
  | [] => []
  | snapshot :: rest =>
    let turn := feed.applySnapshot digest snapshot
    if turn.2 then snapshot :: turn.1.applied digest rest else turn.1.applied digest rest

theorem applyAll_cons (digest : List Message → δ) (feed : Feed δ) (snapshot : List Message)
    (rest : List (List Message)) :
    feed.applyAll digest (snapshot :: rest) =
      (feed.applySnapshot digest snapshot).1.applyAll digest rest :=
  rfl

theorem applyAll_concat (digest : List Message → δ) (feed : Feed δ)
    (snapshots : List (List Message)) (snapshot : List Message) :
    feed.applyAll digest (snapshots ++ [snapshot]) =
      ((feed.applyAll digest snapshots).applySnapshot digest snapshot).1 :=
  List.foldl_concat ..

theorem applyAll_append (digest : List Message → δ) (feed : Feed δ)
    (first second : List (List Message)) :
    feed.applyAll digest (first ++ second) =
      (feed.applyAll digest first).applyAll digest second :=
  List.foldl_append

theorem applied_concat (digest : List Message → δ) (feed : Feed δ)
    (snapshots : List (List Message)) (snapshot : List Message) :
    feed.applied digest (snapshots ++ [snapshot]) =
      feed.applied digest snapshots ++
        if ((feed.applyAll digest snapshots).applySnapshot digest snapshot).2 then [snapshot]
        else [] := by
  induction snapshots generalizing feed with
  | nil => rfl
  | cons first rest ih =>
      simp only [List.cons_append, applied, applyAll_cons, ih]
      split <;> rfl

theorem applied_sublist (digest : List Message → δ) (feed : Feed δ)
    (snapshots : List (List Message)) : (feed.applied digest snapshots).Sublist snapshots := by
  induction snapshots generalizing feed with
  | nil => exact .slnil
  | cons snapshot rest ih =>
      simp only [applied]
      split
      · exact (ih _).cons_cons snapshot
      · exact (ih _).cons snapshot

/-- What is remembered is the digest of the snapshot that was taken over last. -/
theorem lastDigest_applyAll (digest : List Message → δ) (scrollback : Nat)
    (snapshots : List (List Message)) :
    ((new scrollback : Feed δ).applyAll digest snapshots).lastDigest =
      ((new scrollback : Feed δ).applied digest snapshots).getLast?.map digest := by
  induction snapshots using List.reverseRecOn with
  | nil => rfl
  | append_singleton snapshots snapshot ih =>
      rw [applyAll_concat, applied_concat]
      split
      · rw [lastDigest_applySnapshot, List.getLast?_concat, Option.map_some]
      · next passedOver =>
          rw [Bool.not_eq_true] at passedOver
          rw [eq_of_passedOver passedOver, List.append_nil, ih]

/-- Leaving out every snapshot that equals the one right before it changes nothing. -/
theorem applyAll_destutter (digest : List Message → δ) (feed : Feed δ)
    (snapshots : List (List Message)) :
    feed.applyAll digest (snapshots.destutter (· ≠ ·)) = feed.applyAll digest snapshots := by
  cases snapshots with
  | nil => rfl
  | cons first rest =>
      rw [List.destutter_cons']
      induction rest generalizing feed first with
      | nil => rfl
      | cons second rest ih =>
          rw [List.destutter'_cons]
          split
          · rw [applyAll_cons, ih, ← applyAll_cons]
          · next same =>
              rw [not_ne_iff] at same
              subst same
              rw [ih, applyAll_cons, applyAll_cons, applyAll_cons, applySnapshot_again]

/-! ## Keeping the digest of a snapshot and keeping the snapshot -/

/-- The feed that remembers the digest of the snapshot that another one remembers. -/
def digested (digest : List Message → δ) (reference : Feed (List Message)) : Feed δ :=
  ⟨reference.view, reference.scrollback, reference.lastDigest.map digest⟩

/-- Both do the same with a snapshot, if its digest is not that of another one that is remembered.
-/
theorem applySnapshot_digested {reference : Feed (List Message)}
    (apart : ∀ last, reference.lastDigest = some last → digest last = digest snapshot →
      last = snapshot) :
    (reference.digested digest).applySnapshot digest snapshot =
      ((reference.applySnapshot id snapshot).1.digested digest,
        (reference.applySnapshot id snapshot).2) := by
  have same : (reference.digested digest).lastDigest = some (digest snapshot) ↔
      reference.lastDigest = some (id snapshot) := by
    show reference.lastDigest.map digest = _ ↔ _
    rw [Option.map_eq_some_iff]
    constructor
    · rintro ⟨last, kept, equal⟩
      rw [kept, apart last kept equal, id]
    · intro kept
      exact ⟨snapshot, kept, rfl⟩
  unfold applySnapshot
  by_cases kept : reference.lastDigest = some (id snapshot)
  · rw [if_pos kept, if_pos (same.mpr kept)]
  · rw [if_neg kept, if_neg (mt same.mp kept)]
    rfl

/-- A feed that remembers snapshots remembers one that it was given. -/
theorem mem_of_remembered {scrollback : Nat} {snapshots : List (List Message)}
    {last : List Message}
    (kept : ((new scrollback).applyAll id snapshots).lastDigest = some last) :
    last ∈ snapshots := by
  rw [lastDigest_applyAll, Option.map_id_fun, id] at kept
  exact (applied_sublist id _ snapshots).subset (List.mem_of_getLast? kept)

section TellsApart

variable (scrollback : Nat) {before after snapshots : List (List Message)}
  (apart : ∀ first ∈ snapshots, ∀ second ∈ snapshots,
    digest first = digest second → first = second)

include apart

theorem applySnapshot_digested_of_split (split : snapshots = before ++ snapshot :: after) :
    (((new scrollback).applyAll id before).digested digest).applySnapshot digest snapshot =
      ((((new scrollback).applyAll id before).applySnapshot id snapshot).1.digested digest,
        (((new scrollback).applyAll id before).applySnapshot id snapshot).2) := by
  refine applySnapshot_digested fun last kept => apart last ?_ snapshot ?_
  · rw [split]
    exact List.mem_append_left _ (mem_of_remembered kept)
  · rw [split]
    exact List.mem_append_right _ List.mem_cons_self

/-- So they do the same with snapshots that the digest tells apart. -/
theorem applyAll_digested (split : snapshots = before ++ after) :
    (new scrollback : Feed δ).applyAll digest before =
      ((new scrollback).applyAll id before).digested digest := by
  induction before using List.reverseRecOn generalizing after with
  | nil => rfl
  | append_singleton before snapshot ih =>
      have split : snapshots = before ++ snapshot :: after := by simp [split]
      rw [applyAll_concat, applyAll_concat, ih split,
        applySnapshot_digested_of_split scrollback apart split]

theorem applied_digested (split : snapshots = before ++ after) :
    (new scrollback : Feed δ).applied digest before = (new scrollback).applied id before := by
  induction before using List.reverseRecOn generalizing after with
  | nil => rfl
  | append_singleton before snapshot ih =>
      have split : snapshots = before ++ snapshot :: after := by simp [split]
      rw [applied_concat, applied_concat, ih split, applyAll_digested scrollback apart split,
        applySnapshot_digested_of_split scrollback apart split]

end TellsApart

/-- A feed that remembers digests does with a snapshot what a feed does that remembers the snapshot
which was taken over last, and compares it in full. -/
structure DoesAs (digest : List Message → δ) (feed : Feed δ) (reference : Feed (List Message))
    (last : Option (List Message)) (snapshot : List Message) : Prop where
  remembers : reference.lastDigest = last
  /-- So far both have come to the same. -/
  alike : feed = reference.digested digest
  /-- They come to the same with the snapshot. -/
  next : (feed.applySnapshot digest snapshot).1 =
    (reference.applySnapshot id snapshot).1.digested digest
  answer : (feed.applySnapshot digest snapshot).2 = (reference.applySnapshot id snapshot).2
  /-- It is passed over exactly if it is the one that was taken over last; the first one never is.
  -/
  passedOver : (feed.applySnapshot digest snapshot).2 = false ↔ last = some snapshot
  unchanged : (feed.applySnapshot digest snapshot).2 = false →
    (feed.applySnapshot digest snapshot).1 = feed

theorem doesAs {scrollback : Nat} {before after snapshots : List (List Message)}
    (apart : ∀ first ∈ snapshots, ∀ second ∈ snapshots,
      digest first = digest second → first = second)
    (split : snapshots = before ++ snapshot :: after) :
    DoesAs digest ((new scrollback).applyAll digest before) ((new scrollback).applyAll id before)
      ((new scrollback : Feed δ).applied digest before).getLast? snapshot := by
  have alike := applyAll_digested scrollback apart split
  have step := applySnapshot_digested_of_split scrollback apart split
  have remembers : ((new scrollback).applyAll id before).lastDigest =
      ((new scrollback : Feed δ).applied digest before).getLast? := by
    rw [lastDigest_applyAll, Option.map_id_fun, id, applied_digested scrollback apart split]
  have answer := congrArg Prod.snd step
  rw [← alike] at step answer
  refine ⟨remembers, alike, congrArg Prod.fst step, answer, ?_, eq_of_passedOver⟩
  rw [answer, passedOver_iff, remembers, id]

end Feed

end Chat

/-! ## The chat of a client -/

open Chat (Message Feed Digest)

namespace Core

variable {core : Core} {messages : List Message}

theorem pushChat_of_takenOver
    (takenOver : (core.feed.applySnapshot Digest.ofSnapshot messages).2 = true) :
    (core.pushChat messages).value = true ∧
      (core.pushChat messages).core.feed =
        (core.feed.applySnapshot Digest.ofSnapshot messages).1 ∧
      (core.pushChat messages).core.chat =
        core.chat.set (core.feed.applySnapshot Digest.ofSnapshot messages).1.view := by
  rcases applied : core.feed.applySnapshot Digest.ofSnapshot messages with ⟨feed, told⟩
  rw [applied] at takenOver
  obtain rfl : told = true := takenOver
  simp only [pushChat, applied, and_self]

theorem pushChat_of_passedOver
    (passedOver : (core.feed.applySnapshot Digest.ofSnapshot messages).2 = false) :
    (core.pushChat messages).value = false ∧ (core.pushChat messages).core = core := by
  rcases applied : core.feed.applySnapshot Digest.ofSnapshot messages with ⟨feed, told⟩
  rw [applied] at passedOver
  obtain rfl : told = false := passedOver
  simp only [pushChat, applied, and_self]

end Core

namespace Client

variable {client : Client} {step : Step}

/-- The snapshots of the chat that are pushed in a run. -/
def chatPushes (steps : List Step) : List (List Message) :=
  steps.filterMap fun step =>
    match step with
    | .pushChat messages => some messages
    | _ => none

/-- What the chat shows after a run, and what the next step makes of it. -/
structure ShowsFeed (client : Client) (steps : List Step) : Prop where
  /-- The feed is what the snapshots make of it that were pushed. -/
  feed : (client.run steps).core.feed =
    client.core.feed.applyAll Digest.ofSnapshot (chatPushes steps)
  shown : (client.run steps).core.chat.value = (client.run steps).core.feed.view
  /-- The host is told whether the feed takes the snapshot over. -/
  told : ∀ messages, ((client.run steps).step (.pushChat messages)).2.outcome =
    .pushedChat ((client.run steps).core.feed.applySnapshot Digest.ofSnapshot messages).2
  /-- If so, the version of the chat grows by one; otherwise, and in all other steps, the chat is
  left alone. -/
  raised : ∀ step, ((client.run steps).step step).2.outcome = .pushedChat true →
    ((client.run steps).step step).1.core.chat.version =
      (client.run steps).core.chat.version + 1
  kept : ∀ step, ((client.run steps).step step).2.outcome ≠ .pushedChat true →
    ((client.run steps).step step).1.core.chat = (client.run steps).core.chat

/-- A step that pushes no chat leaves the feed and the chat alone. -/
theorem chat_of_other (numbered : client.Numbered) (other : ∀ messages, step ≠ .pushChat messages) :
    (client.step step).1.core.feed = client.core.feed ∧
      (client.step step).1.core.chat = client.core.chat := by
  by_contra changed
  rw [← Prod.mk.injEq] at changed
  obtain ⟨moment, mem, shown, changes⟩ :=
    Core.replays_chat.moment_of_change numbered id changed
  obtain ⟨messages, rfl⟩ := Moment.of_chat_changed changes
  exact other messages (step_of_pushedChat mem)

theorem outcome_of_other (other : ∀ messages, step ≠ .pushChat messages) (applied : Bool) :
    (client.step step).2.outcome ≠ .pushedChat applied := by
  have stepped := client.stepped step
  generalize client.moments step = moments, (client.step step).1 = after,
    (client.step step).2.outcome = outcome at *
  cases stepped with
  | pushedChat => exact absurd rfl (other _)
  | _ => nofun

theorem outcome_pushChat (client : Client) (messages : List Message) :
    (client.step (.pushChat messages)).2.outcome =
      .pushedChat (client.core.feed.applySnapshot Digest.ofSnapshot messages).2 := by
  show Outcome.pushedChat (client.core.pushChat messages).value = _
  cases takenOver : (client.core.feed.applySnapshot Digest.ofSnapshot messages).2 with
  | true => rw [(Core.pushChat_of_takenOver takenOver).1]
  | false => rw [(Core.pushChat_of_passedOver takenOver).1]

/-- A step pushes a snapshot that is taken over, and then the chat shows it; or it leaves the feed
and the chat alone. -/
theorem chat_step_cases (numbered : client.Numbered) (step : Step) :
    (∃ messages, step = .pushChat messages ∧
      (client.step step).2.outcome = .pushedChat true ∧
      (client.step step).1.core.feed =
        (client.core.feed.applySnapshot Digest.ofSnapshot messages).1 ∧
      (client.step step).1.core.chat =
        client.core.chat.set (client.core.feed.applySnapshot Digest.ofSnapshot messages).1.view) ∨
    (client.step step).2.outcome ≠ .pushedChat true ∧
      (client.step step).1.core.feed = client.core.feed ∧
      (client.step step).1.core.chat = client.core.chat ∧
      client.core.feed.applyAll Digest.ofSnapshot (chatPushes [step]) = client.core.feed := by
  by_cases pushes : ∃ messages, step = .pushChat messages
  · obtain ⟨messages, rfl⟩ := pushes
    rw [outcome_pushChat]
    show _ ∨ _ ∧ (client.core.pushChat messages).core.feed = _ ∧
      (client.core.pushChat messages).core.chat = _ ∧
      (client.core.feed.applySnapshot Digest.ofSnapshot messages).1 = _
    cases takenOver : (client.core.feed.applySnapshot Digest.ofSnapshot messages).2 with
    | true =>
        obtain ⟨-, feed, chat⟩ := Core.pushChat_of_takenOver takenOver
        exact .inl ⟨messages, rfl, rfl, feed, chat⟩
    | false =>
        rw [(Core.pushChat_of_passedOver takenOver).2]
        exact .inr ⟨nofun, rfl, rfl, Feed.eq_of_passedOver takenOver⟩
  · have other := not_exists.mp pushes
    obtain ⟨feed, chat⟩ := chat_of_other numbered other
    have none : chatPushes [step] = [] := by
      cases step with
      | pushChat messages => exact absurd rfl (other messages)
      | _ => rfl
    rw [none]
    exact .inr ⟨outcome_of_other other true, feed, chat, rfl⟩

theorem feed_of_run (numbered : client.Numbered) (steps : List Step) :
    (client.run steps).core.feed =
      client.core.feed.applyAll Digest.ofSnapshot (chatPushes steps) := by
  induction steps generalizing client with
  | nil => rfl
  | cons step steps ih =>
      have split : chatPushes (step :: steps) = chatPushes [step] ++ chatPushes steps :=
        List.filterMap_append (l := [step])
      show ((client.step step).1.run steps).core.feed = _
      rw [ih (numbered_step numbered step), split, Feed.applyAll_append]
      congr 1
      rcases chat_step_cases numbered step with ⟨messages, rfl, -, feed, -⟩ | ⟨-, feed, -, kept⟩
      · exact feed
      · rw [feed, kept]

theorem shown_run (numbered : client.Numbered)
    (shown : client.core.chat.value = client.core.feed.view) (steps : List Step) :
    (client.run steps).core.chat.value = (client.run steps).core.feed.view := by
  induction steps generalizing client with
  | nil => exact shown
  | cons step steps ih =>
      apply ih (numbered_step numbered step)
      rcases chat_step_cases numbered step with ⟨_, -, -, feed, chat⟩ | ⟨-, feed, chat, -⟩
      · rw [feed, chat, Cell.value_set]
      · rw [feed, chat, shown]

theorem showsFeed_of_run {config : Config} (new : Client.new config = .ok client)
    (steps : List Step) : client.ShowsFeed steps := by
  have start := numbered_of_new new
  have numbered := numbered_run start steps
  refine ⟨feed_of_run start steps, shown_run start ?_ steps, outcome_pushChat _, ?_, ?_⟩
  · rw [eq_fresh_of_new new]
    rfl
  · intro step told
    rcases chat_step_cases numbered step with ⟨_, -, -, -, chat⟩ | ⟨silent, -⟩
    · rw [chat, Cell.version_set]
    · exact absurd told silent
  · intro step silent
    rcases chat_step_cases numbered step with ⟨_, -, told, -⟩ | ⟨-, -, chat, -⟩
    · exact absurd told silent
    · exact chat

end Client

/-! ## The main statement -/

/-- **Digests do for snapshots.** While the hash tells the snapshots of one length apart, a feed
that remembers digests does with each snapshot what a feed does that remembers the snapshots
themselves. Whatever the hash, repetitions can be left out. And the chat of a client shows the feed
of the snapshots that were pushed. -/
theorem digest_feed_compares_snapshots (scrollback : Nat) (snapshots : List (List Message)) :
    (Chat.TellsApart snapshots →
      ∀ before snapshot after, snapshots = before ++ snapshot :: after →
        Feed.DoesAs Digest.ofSnapshot ((Feed.new scrollback).applyAll Digest.ofSnapshot before)
          ((Feed.new scrollback).applyAll id before)
          ((Feed.new scrollback).applied Digest.ofSnapshot before).getLast? snapshot) ∧
    (Feed.new scrollback).applyAll Digest.ofSnapshot (snapshots.destutter (· ≠ ·)) =
      (Feed.new scrollback).applyAll Digest.ofSnapshot snapshots ∧
    ∀ config client, Client.new config = .ok client →
      client.core.feed = Feed.new config.chat.scrollback.toNat ∧
        ∀ steps, client.ShowsFeed steps := by
  refine ⟨fun apart before snapshot after split => ?_, Feed.applyAll_destutter _ _ _, ?_⟩
  · apply Feed.doesAs _ split
    intro first mem second otherMem same
    exact apart.eq_of_ofSnapshot_eq mem otherMem same
  · intro config client new
    refine ⟨?_, Client.showsFeed_of_run new⟩
    rw [Client.eq_fresh_of_new new]
    rfl

/-- After one snapshot and another one of the same length, the first one is taken over again; but
not once more right after that. -/
theorem earlier_snapshot_is_taken_over_again :
    let first : List Message := [⟨1, "Ada", "hi"⟩]
    let second : List Message := [⟨1, "Ada", "ho"⟩]
    let feed : Feed Digest := (Feed.new 2).applyAll Digest.ofSnapshot [first, second]
    let again : Feed Digest := (Feed.new 2).applyAll Digest.ofSnapshot [first, second, first]
    (feed.applySnapshot Digest.ofSnapshot first).2 = true ∧
      (again.applySnapshot Digest.ofSnapshot first).2 = false ∧
      Client.ShowsFeed (.fresh {}) [.pushChat first, .pushChat second] := by
  intro first second feed again
  have apart : Chat.TellsApart [first, second, first, first] := by
    unfold Chat.TellsApart
    decide +kernel
  obtain ⟨compares, -, chat⟩ := digest_feed_compares_snapshots 2 [first, second, first, first]
  have third := compares apart [first, second] first [first] rfl
  have fourth := compares apart [first, second, first] first [] rfl
  refine ⟨?_, fourth.passedOver.mpr (by decide +kernel), (chat {} _ Client.new_default).2 _⟩
  rw [← Bool.not_eq_false, third.passedOver]
  decide +kernel

end GameClient
