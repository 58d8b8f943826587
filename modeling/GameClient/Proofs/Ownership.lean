import GameClient.Proofs.Abandoning
import GameClient.Proofs.Atomicity
import GameClient.Proofs.LostUpdates

/-!
# Who changes what

Each part of the core has its owners, and no step of another kind changes it, however late an answer
comes and whatever has happened since its call. The known games are the host's. Which of them is
selected is decided by the host, by a deselect and by a switch that is done; which ticket is held is
decided by a create, a join or a finalize that succeeds. The purchase form is changed by its own two
actions, the chat by the host. A future that is dropped takes its flag along, and nothing else.

What a step changes one of its moments changes (`Replays.moment_of_change`), and what a moment makes
of each part is told by the replays. The main statement is `each_part_has_its_owners`.
-/

namespace GameClient

open Session (Phase)

/-! ## Flags -/

/-- The session with the flag of an action set so, if it is one of its flags. -/
def Session.withFlag (session : Session) (shown : Bool) : Action → Session
  | .createOrJoin => { session with creating := shown }
  | .finalize => { session with finalizing := shown }
  | .switch => { session with switching := shown }
  | _ => session

/-- The purchase form with the flag of an action set so, if it is one of its flags. -/
def Purchase.withFlag (purchase : Purchase) (shown : Bool) : Action → Purchase
  | .loadPurchaseSchema => { purchase with loadingSchema := shown }
  | .purchaseOffer => { purchase with submitting := shown }
  | _ => purchase

namespace Core

theorem session_release_eq (core : Core) (action : Action) :
    (core.release action).session.value = core.session.value.withFlag false action := by
  cases action <;> rfl

theorem purchase_release_eq (core : Core) (action : Action) :
    (core.release action).purchase.value = core.purchase.value.withFlag false action := by
  cases action <;> rfl

end Core

/-! ## The purchase form and the chat after a turn -/

namespace Moment

/-- What a moment makes of the purchase form. -/
def purchaseAfter (purchase : Purchase) : Moment → Purchase
  | ended command result =>
    if Core.isTurnedAway result then purchase else purchase.withFlag false command.action
  | called pending => purchase.withFlag true pending.action
  | answered .schemaLoad (.ok schema) _ =>
    { purchase with loadingSchema := false, schema := some schema }
  | answered (.offering _) (.ok _) _ =>
    { purchase with submitting := false, offersSent := Purchase.countOne purchase.offersSent }
  | answered pending _ _ => purchase.withFlag false pending.action
  | dropped pending => purchase.withFlag false pending.action
  | _ => purchase

/-- What a moment makes of the feed and of the chat. -/
def chatAfter (shown : Chat.Feed Chat.Digest × Cell Chat.View) :
    Moment → Chat.Feed Chat.Digest × Cell Chat.View
  | pushedChat messages =>
    match shown.1.applySnapshot Chat.Digest.ofSnapshot messages with
    | (_, false) => shown
    | (feed, true) => (feed, shown.2.set feed.view)
  | _ => shown

end Moment

namespace Core

theorem replays_purchase :
    Replays (fun core => core.purchase.value)
      (fun purchase moment => moment.purchaseAfter purchase) where
  ended := by
    intro core after command result started
    cases started with
    | turnedAway => rfl
    | refused _ refuses =>
        rw [purchase_release_eq]
        cases refuses <;> rfl
    | deselected free =>
        rw [purchase_deselect free]
        rfl
    | _ => rfl
  called started := by cases started <;> rfl
  answered settled := by
    cases settled with
    | switched known =>
        simp only [Core.switched, known]
        rfl
    | vanished unknown =>
        simp only [Core.switched, unknown]
        rfl
    | _ => rfl
  dropped core pending := purchase_release_eq core pending.action
  pushedRegistry _ _ := rfl
  pushedChat core messages := by
    rw [purchase_pushChat]
    rfl

theorem replays_chat :
    Replays (fun core => (core.feed, core.chat)) (fun shown moment => moment.chatAfter shown) where
  ended := by
    intro core after command result started
    cases started with
    | refused => cases command <;> rfl
    | deselected free =>
        simp only [deselect, acquire_of_free free]
        rfl
    | _ => rfl
  called started := by cases started <;> rfl
  answered settled := by
    cases settled with
    | switched known =>
        simp only [Core.switched, known]
        rfl
    | vanished unknown =>
        simp only [Core.switched, unknown]
        rfl
    | _ => rfl
  dropped core pending := by cases pending <;> rfl
  pushedRegistry _ _ := rfl
  pushedChat core messages := by
    rcases applied : core.feed.applySnapshot Chat.Digest.ofSnapshot messages with ⟨feed, _ | _⟩
    · simp only [pushChat, Moment.chatAfter, applied]
    · simp only [pushChat, Moment.chatAfter, applied]

end Core

/-! ## Moments that change something -/

/-- Where a step changes a part of what is replayed, one of its moments does. -/
theorem Replays.moment_of_change {α β : Type} {view : Core → α} {replay : α → Moment → α}
    (replays : Replays view replay) {client : Client} (numbered : client.Numbered)
    {step : Client.Step} (part : α → β)
    (changed : part (view (client.step step).1.core) ≠ part (view client.core)) :
    ∃ moment ∈ client.moments step, ∃ a, part (replay a moment) ≠ part a := by
  by_contra none
  apply changed
  rw [replays.of_step numbered step]
  generalize client.moments step = moments, view client.core = first at none
  induction moments generalizing first with
  | nil => rfl
  | cons moment moments ih =>
      rw [List.foldl_cons, ih _ fun ⟨later, mem, changes⟩ =>
        none ⟨later, List.mem_cons_of_mem _ mem, changes⟩]
      by_contra changes
      exact none ⟨moment, List.mem_cons_self, first, changes⟩

theorem Registry.games_setActive {registry selected : Registry} {key : Option String}
    (known : registry.setActive key = .ok selected) : selected.games = registry.games := by
  unfold setActive at known
  split at known
  · obtain rfl := Except.ok.inj known
    rfl
  · split at known
    · obtain rfl := Except.ok.inj known
      rfl
    · split at known
      · obtain rfl := Except.ok.inj known
        rfl
      · cases known

theorem Core.games_select (target : String) (registry : Registry) :
    (select target registry).1.games = registry.games := by
  unfold select
  split
  · next known => exact Registry.games_setActive known
  · rfl

namespace Moment

variable {moment : Moment}

theorem of_games_changed {registry : Registry}
    (changes : (moment.registryAfter registry).games ≠ registry.games) :
    ∃ snapshot, moment = .pushedRegistry snapshot := by
  unfold registryAfter at changes
  split at changes
  · exact ⟨_, rfl⟩
  · exact absurd rfl changes
  · exact absurd (Core.games_select _ _) changes
  · exact absurd rfl changes

theorem of_active_changed {registry : Registry}
    (changes : (moment.registryAfter registry).active ≠ registry.active) :
    (∃ snapshot, moment = .pushedRegistry snapshot) ∨
      ∃ target, moment.switchesTo? = some target := by
  unfold registryAfter at changes
  split at changes
  · exact .inl ⟨_, rfl⟩
  · exact .inr ⟨_, rfl⟩
  · exact .inr ⟨_, rfl⟩
  · exact absurd rfl changes

theorem of_ticket_changed {held : Option Session.Ticket}
    (changes : moment.ticketAfter held ≠ held) :
    ∃ pending answer result, moment = .answered pending answer result ∧ answer.isOk = true ∧
      (pending.action = .createOrJoin ∨ pending.action = .finalize) := by
  unfold ticketAfter at changes
  split at changes
  · exact ⟨_, _, _, rfl, rfl, .inl rfl⟩
  · exact ⟨_, _, _, rfl, rfl, .inl rfl⟩
  · exact ⟨_, _, _, rfl, rfl, .inr rfl⟩
  · exact absurd rfl changes

/-- A moment that is not about creating, joining or finalizing moves the phase only by a switch. -/
theorem of_phase_changed {phase : Phase} (changes : moment.phaseAfter phase ≠ phase)
    (createsNot : moment.action? ≠ some .createOrJoin)
    (finalizesNot : moment.action? ≠ some .finalize) :
    ∃ target, moment.switchesTo? = some target := by
  unfold phaseAfter at changes
  split at changes
  · exact absurd rfl createsNot
  · exact absurd rfl finalizesNot
  · exact absurd rfl createsNot
  · exact absurd rfl createsNot
  · exact absurd rfl createsNot
  · exact absurd rfl finalizesNot
  · exact absurd rfl finalizesNot
  · exact ⟨_, rfl⟩
  · exact ⟨_, rfl⟩
  · exact absurd rfl changes

theorem of_purchase_changed {purchase : Purchase}
    (changes : moment.purchaseAfter purchase ≠ purchase) :
    moment.action? = some .loadPurchaseSchema ∨ moment.action? = some .purchaseOffer := by
  -- The other actions have no flag in the form.
  have of_withFlag {shown : Bool} {action : Action}
      (changes : purchase.withFlag shown action ≠ purchase) :
      action = .loadPurchaseSchema ∨ action = .purchaseOffer := by
    cases action with
    | loadPurchaseSchema => exact .inl rfl
    | purchaseOffer => exact .inr rfl
    | _ => exact absurd rfl changes
  unfold purchaseAfter at changes
  simp only [action?]
  split at changes
  · split at changes
    · exact absurd rfl changes
    · simpa using of_withFlag changes
  · simpa using of_withFlag changes
  · exact .inl rfl
  · exact .inr rfl
  · simpa using of_withFlag changes
  · simpa using of_withFlag changes
  · exact absurd rfl changes

theorem of_chat_changed {shown : Chat.Feed Chat.Digest × Cell Chat.View}
    (changes : moment.chatAfter shown ≠ shown) : ∃ messages, moment = .pushedChat messages := by
  unfold chatAfter at changes
  split at changes
  · exact ⟨_, rfl⟩
  · exact absurd rfl changes

end Moment

/-! ## Steps and their actions -/

namespace Client

variable {client : Client} {step : Step} {moment : Moment}

/-- The action that a step starts, asks for or drops; none for a snapshot of the host. -/
def actionOf? (client : Client) : Step → Option Action
  | .start command _ => some command.action
  | .poll number _ | .drop number => (client.task? number).map fun task => task.pending.action
  | .pushRegistry _ | .pushChat _ => none

theorem action_of_mem (mem : moment ∈ client.moments step) :
    moment.action? = client.actionOf? step := by
  have stepped := client.stepped step
  generalize client.moments step = moments, (client.step step).1 = after,
    (client.step step).2.outcome = outcome at *
  cases stepped with
  | called started =>
      rw [List.mem_singleton.mp mem]
      exact congrArg some started.action_of_suspended
  | answeredAtOnce started =>
      rcases List.mem_pair.mp mem with rfl | rfl
      · exact congrArg some started.action_of_suspended
      · exact congrArg some started.action_of_suspended
  | answered found =>
      rw [List.mem_singleton.mp mem, actionOf?, found]
      rfl
  | dropped found =>
      rw [List.mem_singleton.mp mem, actionOf?, found]
      rfl
  | unanswered => cases mem
  | nonePolled => cases mem
  | noneDropped => cases mem
  | _ =>
      rw [List.mem_singleton.mp mem]
      rfl

/-- A snapshot is taken over in the step that pushes it. -/
theorem step_of_pushedRegistry {snapshot : RegistrySnapshot}
    (mem : .pushedRegistry snapshot ∈ client.moments step) : step = .pushRegistry snapshot := by
  have stepped := client.stepped step
  generalize client.moments step = moments, (client.step step).1 = after,
    (client.step step).2.outcome = outcome at *
  cases stepped with
  | pushedRegistry =>
      obtain rfl := Moment.pushedRegistry.inj (List.mem_singleton.mp mem)
      rfl
  | _ => simp at mem

theorem step_of_pushedChat {messages : List Chat.Message}
    (mem : .pushedChat messages ∈ client.moments step) : step = .pushChat messages := by
  have stepped := client.stepped step
  generalize client.moments step = moments, (client.step step).1 = after,
    (client.step step).2.outcome = outcome at *
  cases stepped with
  | pushedChat =>
      obtain rfl := Moment.pushedChat.inj (List.mem_singleton.mp mem)
      rfl
  | _ => simp at mem

theorem dropped_of_mem {number : Nat} (mem : moment ∈ client.moments (.drop number)) :
    ∃ pending, moment = .dropped pending := by
  cases found : client.task? number with
  | none => simp [moments, found] at mem
  | some task => exact ⟨task.pending, by simpa [moments, found] using mem⟩

/-! ## What a step may change -/

/-- A deselect is done in a step. -/
def Deselects (client : Client) (step : Step) : Prop :=
  .ended (.switch "") (.ok .done) ∈ client.moments step

/-- A switch to a game is done in a step. -/
def GoesOver (client : Client) (step : Step) : Prop :=
  ∃ target, target ≠ "" ∧ .answered (.switching target) (.ok ()) (.ok .done) ∈ client.moments step

/-- A create, a join or a finalize is done in a step. -/
def Succeeds (client : Client) (step : Step) : Prop :=
  ∃ pending answer success, .answered pending answer (.ok success) ∈ client.moments step ∧
    (pending.action = .createOrJoin ∨ pending.action = .finalize)

/-- A step that goes on with no create, join or finalize: it belongs to another action or to the
host, or it drops a future. -/
def StandsBy (client : Client) (step : Step) : Prop :=
  (∃ number, step = .drop number) ∨
    client.actionOf? step ≠ some .createOrJoin ∧ client.actionOf? step ≠ some .finalize

end Client

/-- What the drop of a future leaves: every value, but for the flag of its action. -/
structure Core.Hides (core after : Core) (action : Action) : Prop where
  registry : after.registry = core.registry
  feed : after.feed = core.feed
  chat : after.chat = core.chat
  session : after.session.value = core.session.value.withFlag false action
  purchase : after.purchase.value = core.purchase.value.withFlag false action

theorem Core.hides_abandon (core : Core) (pending : Pending) :
    core.Hides (core.abandon pending) pending.action where
  registry := registry_release core _
  feed := (Prod.mk.inj (replays_chat.dropped core pending)).1
  chat := (Prod.mk.inj (replays_chat.dropped core pending)).2
  session := session_release_eq core _
  purchase := purchase_release_eq core _

/-- What a step changes belongs to what the step is. -/
structure Client.RespectsOwners (client : Client) (step : Step) : Prop where
  games : (client.step step).1.core.registry.value.games ≠ client.core.registry.value.games →
    ∃ snapshot, step = .pushRegistry snapshot
  active : (client.step step).1.core.registry.value.active ≠ client.core.registry.value.active →
    (∃ snapshot, step = .pushRegistry snapshot) ∨ client.Deselects step ∨ client.GoesOver step
  ticket : (client.step step).1.core.session.value.ticket ≠ client.core.session.value.ticket →
    client.Succeeds step
  /-- The other steps change the phase only where they change the selection. -/
  phase : client.StandsBy step →
    (client.step step).1.core.session.value.phase ≠ client.core.session.value.phase →
      client.Deselects step ∧ client.core.session.value.phase = .active ∧
          (client.step step).1.core.session.value.phase = .idle ∨
        client.GoesOver step ∧ client.core.session.value.phase = .idle ∧
          (client.step step).1.core.session.value.phase = .active
  /-- So they never change the phase of a create or finalize that is under way, nor of a game that
  waits to be finalized. -/
  guarded : client.StandsBy step →
    client.core.session.value.phase ∈ [.creating, .awaitingFinalization, .finalizing] →
      (client.step step).1.core.session.value.phase = client.core.session.value.phase
  purchase : (client.step step).1.core.purchase.value ≠ client.core.purchase.value →
    client.actionOf? step = some .loadPurchaseSchema ∨
      client.actionOf? step = some .purchaseOffer
  chat : (client.step step).1.core.chat ≠ client.core.chat → ∃ messages, step = .pushChat messages
  dropped : ∀ number task, step = .drop number → client.task? number = some task →
    client.core.Hides (client.step step).1.core task.pending.action

namespace Client.InRun

variable {config : Config} {past : List Moment} {client : Client} {step : Step} {moment : Moment}
  {target : String}

/-- A switch that is done is a deselect if its key is empty, and goes over to a game otherwise. -/
theorem deselects_or_goesOver (runs : InRun config past client)
    (mem : moment ∈ client.moments step) (switches : moment.switchesTo? = some target) :
    client.Deselects step ∧ target = "" ∨ client.GoesOver step ∧ target ≠ "" := by
  unfold Moment.switchesTo? at switches
  split at switches
  · next key success =>
      obtain rfl := Option.some.inj switches
      obtain ⟨after, started, -⟩ := started_of_ended mem
      cases started with
      | deselected => exact .inl ⟨mem, rfl⟩
  · next key answer success =>
      obtain rfl := Option.some.inj switches
      obtain ⟨core, settled, origin⟩ := settled_of_answered mem
      have named : key ≠ "" := by
        rcases origin with ⟨-, waits⟩ | ⟨command, started⟩
        · exact named_of_reached runs.reached waits
        · exact started.named_of_suspended
      generalize (client.step step).1.core = after at settled
      cases settled with
      | switched => exact .inr ⟨⟨key, named, mem⟩, named⟩
  · cases switches

/-- Who stands by changes the phase by a switch alone. -/
theorem phase_of_standsBy (runs : InRun config past client) (standsBy : client.StandsBy step)
    (changed : (client.step step).1.core.session.value.phase ≠ client.core.session.value.phase) :
    client.Deselects step ∧ client.core.session.value.phase = .active ∧
        (client.step step).1.core.session.value.phase = .idle ∨
      client.GoesOver step ∧ client.core.session.value.phase = .idle ∧
        (client.step step).1.core.session.value.phase = .active := by
  obtain ⟨moment, mem, phase, changes⟩ :=
    Core.replays_phase.moment_of_change runs.numbered id changed
  -- A future that is dropped leaves the phase alone, so that a switch is all that is left.
  have switches : ∃ target, moment.switchesTo? = some target := by
    rcases standsBy with ⟨number, rfl⟩ | ⟨createsNot, finalizesNot⟩
    · obtain ⟨pending, rfl⟩ := dropped_of_mem mem
      exact absurd rfl changes
    · rw [← action_of_mem mem] at createsNot finalizesNot
      exact Moment.of_phase_changed changes createsNot finalizesNot
  obtain ⟨target, switches⟩ := switches
  have after := (runs.switches mem switches).phase
  rw [after] at changed ⊢
  split at changed
  · next fit =>
      rw [if_pos fit]
      rcases runs.deselects_or_goesOver mem switches with ⟨deselects, rfl⟩ | ⟨goes, named⟩
      · refine .inl ⟨deselects, ?_, rfl⟩
        cases before : client.core.session.value.phase with
        | active => rfl
        | idle => exact absurd before.symm changed
        | _ => simp [before, Phase.canSwitch] at fit
      · have selects : phaseFor target = .active := if_neg named
        rw [selects] at changed ⊢
        refine .inr ⟨goes, ?_, rfl⟩
        cases before : client.core.session.value.phase with
        | idle => rfl
        | active => exact absurd before.symm changed
        | _ => simp [before, Phase.canSwitch] at fit
  · exact absurd rfl changed

theorem succeeds_of_ticket_changed (runs : InRun config past client)
    (changed : (client.step step).1.core.session.value.ticket ≠ client.core.session.value.ticket) :
    client.Succeeds step := by
  obtain ⟨moment, mem, held, changes⟩ :=
    Core.replays_ticket.moment_of_change runs.numbered id changed
  obtain ⟨pending, answer, result, rfl, granted, action⟩ := Moment.of_ticket_changed changes
  obtain ⟨core, settled, -⟩ := settled_of_answered mem
  generalize (client.step step).1.core = after at settled
  cases settled with
  | created | joined | finalized => exact ⟨_, _, _, mem, action⟩
  | creationFailed | finalizationFailed => cases granted
  | _ => simp [Pending.action] at action

end Client.InRun

/-- **Ownership.** In every state of every run, each part of the core is changed only by the steps
that own it, and a future that is dropped changes nothing but its flag. -/
theorem each_part_has_its_owners {config : Config} {client : Client}
    (new : Client.new config = .ok client) (steps : List Client.Step) (step : Client.Step) :
    (client.run steps).RespectsOwners step := by
  have runs := Client.inRun_of_new new steps
  generalize client.run steps = client at runs ⊢
  refine ⟨?_, ?_, runs.succeeds_of_ticket_changed, runs.phase_of_standsBy, ?_, ?_, ?_, ?_⟩
  · intro changed
    obtain ⟨moment, mem, registry, changes⟩ :=
      Core.replays_registry.moment_of_change runs.numbered Registry.games changed
    obtain ⟨snapshot, rfl⟩ := Moment.of_games_changed changes
    exact ⟨snapshot, Client.step_of_pushedRegistry mem⟩
  · intro changed
    obtain ⟨moment, mem, registry, changes⟩ :=
      Core.replays_registry.moment_of_change runs.numbered Registry.active changed
    rcases Moment.of_active_changed changes with ⟨snapshot, rfl⟩ | ⟨target, switches⟩
    · exact .inl ⟨snapshot, Client.step_of_pushedRegistry mem⟩
    · exact .inr ((runs.deselects_or_goesOver mem switches).imp And.left And.left)
  · intro standsBy busy
    by_contra changed
    rcases runs.phase_of_standsBy standsBy changed with ⟨-, before, -⟩ | ⟨-, before, -⟩
    · simp [before] at busy
    · simp [before] at busy
  · intro changed
    obtain ⟨moment, mem, purchase, changes⟩ :=
      Core.replays_purchase.moment_of_change runs.numbered id changed
    rw [← Client.action_of_mem mem]
    exact Moment.of_purchase_changed changes
  · intro changed
    obtain ⟨moment, mem, shown, changes⟩ :=
      Core.replays_chat.moment_of_change runs.numbered Prod.snd changed
    obtain ⟨messages, rfl⟩ := Moment.of_chat_changed fun same => changes (congrArg Prod.snd same)
    exact ⟨messages, Client.step_of_pushedChat mem⟩
  · rintro number task rfl found
    rw [Client.drop_eq found]
    exact client.core.hides_abandon task.pending

/-- A switch is done while a create is under way: the selection is the new one, and the phase that
of the create. -/
theorem switch_stands_by_create :
    let client := (Client.fresh {}).run
      [.pushRegistry twoGames, .switch "k2" .silent, .create .silent]
    (client.step (.poll 0 .willing)).1.core.registry.value.active = some "k2" ∧
      (client.step (.poll 0 .willing)).1.core.session.value.phase = .creating := by
  intro client
  have owners := each_part_has_its_owners Client.new_default
    [.pushRegistry twoGames, .switch "k2" .silent, .create .silent] (.poll 0 .willing)
  exact ⟨rfl, owners.guarded (.inr ⟨by decide, by decide⟩) (by decide)⟩

end GameClient
