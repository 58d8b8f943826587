import GameClient.Proofs.Exclusion
import GameClient.Proofs.KnownGames
import GameClient.Proofs.Replay

/-!
# The game that is selected

The registry is written by a snapshot, by a deselect and by a switch that succeeds, and by nothing
else (`Core.replays_registry`). A switch asks for a game that is known when it starts; when its call
is answered the game may be gone, and then the switch fails and the registry stays as it is.

A deselect holds. It is only done while no switch is under way, so no answer that is still to come
can undo it: a game is selected again by a snapshot that loads one, or by a switch that was started
later (`Reselects`). The main statement is `switch_selects_known_game`.
-/

namespace GameClient

/-! ## The registry after a turn -/

namespace Moment

/-- What a moment makes of the registry. -/
def registryAfter (registry : Registry) : Moment → Registry
  | pushedRegistry snapshot => registry.applySnapshot snapshot
  | ended (.switch _) (.ok _) => registry.clearActive.1
  | answered (.switching target) _ (.ok _) => (Core.select target registry).1
  | _ => registry

/-- A switch, or a deselect, is refused, fails or is dropped. -/
def failsToSwitch : Moment → Bool
  | ended (.switch _) (.error _) => true
  | answered (.switching _) _ (.error _) => true
  | dropped (.switching _) => true
  | _ => false

theorem registryAfter_of_failsToSwitch {moment : Moment} (registry : Registry)
    (fails : moment.failsToSwitch = true) : moment.registryAfter registry = registry := by
  unfold failsToSwitch at fails
  split at fails
  · rfl
  · rfl
  · rfl
  · cases fails

/-- A game is selected after a moment if one was before, or the moment is a snapshot that loads one,
or a switch succeeds. -/
theorem selected_cases {moment : Moment} {registry : Registry}
    (selected : (moment.registryAfter registry).active ≠ none) :
    registry.active ≠ none ∨
      (∃ snapshot key, moment = .pushedRegistry snapshot ∧ snapshot.Loads key) ∨
      ∃ target answer success, moment = .answered (.switching target) answer (.ok success) := by
  unfold registryAfter at selected
  split at selected
  · next snapshot =>
      obtain ⟨key, active⟩ := Option.ne_none_iff_exists'.mp selected
      exact .inr (.inl ⟨snapshot, key, rfl, Registry.active_applySnapshot.mp active⟩)
  · exact absurd rfl selected
  · next target answer success => exact .inr (.inr ⟨target, answer, success, rfl⟩)
  · exact .inl selected

end Moment

namespace Core

@[simp] theorem registry_release (core : Core) (action : Action) :
    (core.release action).registry = core.registry := by
  cases action <;> rfl

theorem registry_deselect {core : Core} (free : core.held .switch = false) :
    core.deselect.core.registry.value = core.registry.value.clearActive.1 := by
  simp only [deselect, acquire_of_free free]
  rfl

theorem registry_pushChat (core : Core) (messages : List Chat.Message) :
    (core.pushChat messages).core.registry = core.registry := by
  unfold pushChat
  split <;> rfl

theorem Started.registry_of_suspended {core after : Core} {command : Command} {pending : Pending}
    (started : Started core command after (.suspended pending)) :
    after.registry = core.registry := by
  cases started <;> rfl

theorem replays_registry :
    Replays (fun core => core.registry.value)
      (fun registry moment => moment.registryAfter registry) where
  ended := by
    intro core after command result started
    cases started with
    | turnedAway => cases command <;> rfl
    | refused =>
        rw [registry_release]
        cases command <;> rfl
    | offerRefused => rfl
    | deselected free => exact registry_deselect free
    | schemaKept => rfl
  called started := by rw [started.registry_of_suspended]; rfl
  answered settled := by
    cases settled with
    | switched known =>
        simp only [Core.switched, known]
        rfl
    | vanished unknown =>
        simp only [Core.switched, unknown]
        rfl
    | _ => rfl
  dropped core pending := by
    rw [abandon, registry_release]
    cases pending <;> rfl
  pushedRegistry _ _ := rfl
  pushedChat core messages := by
    rw [registry_pushChat]
    rfl

/-- A switch that is under way names a game, for the empty key never gets so far. -/
theorem Started.named_of_suspended {core after : Core} {command : Command} {target : String}
    (started : Started core command after (.suspended (.switching target))) : target ≠ "" := by
  cases started with
  | switching _ named => exact named

end Core

theorem named_of_reached {config : Config} {past : List Moment} {core : Core}
    {waiting : List Pending} (reached : Reached config past core waiting) {target : String}
    (mem : .switching target ∈ waiting) : target ≠ "" := by
  induction reached with
  | start => cases mem
  | ended _ _ ih => exact ih mem
  | called _ started ih =>
      rcases List.mem_append.mp mem with old | new
      · exact ih old
      · rw [← List.mem_singleton.mp new] at started
        exact started.named_of_suspended
  | answered _ _ ih => exact ih (mem_split_of_mem_others mem)
  | dropped _ ih => exact ih (mem_split_of_mem_others mem)
  | pushedRegistry _ ih => exact ih mem
  | pushedChat _ ih => exact ih mem

/-! ## After a deselect -/

/-- A game is selected in a history: by a snapshot that loads it, or by a switch that is started and
succeeds in this history. -/
def Reselects (history : List Moment) : Prop :=
  (∃ snapshot key, .pushedRegistry snapshot ∈ history ∧ snapshot.Loads key) ∨
    ∃ earlier target success later,
      history = earlier ++ .answered (.switching target) (.ok ()) (.ok success) :: later ∧
        Open earlier (.switching target)

theorem Reselects.concat {past : List Moment} (reselects : Reselects past) (moment : Moment) :
    Reselects (past ++ [moment]) := by
  rcases reselects with ⟨snapshot, key, mem, loads⟩ | ⟨earlier, target, success, later, rfl, began⟩
  · exact .inl ⟨snapshot, key, List.mem_append_left _ mem, loads⟩
  · exact .inr ⟨earlier, target, success, later ++ [moment], by simp, began⟩

/-- A call that is open was made in the first part of the history or in the second. -/
theorem open_append {first second : List Moment} {pending : Pending}
    (waits : Open (first ++ second) pending) : Open first pending ∨ Open second pending := by
  induction second using List.reverseRecOn with
  | nil => exact .inl (by rwa [List.append_nil] at waits)
  | append_singleton second moment ih =>
      rw [← List.append_assoc, open_concat] at waits
      rw [open_concat]
      rcases waits with called | ⟨waits, still⟩
      · exact .inr (.inl called)
      · exact (ih waits).imp_right fun waits => .inr ⟨waits, still⟩

/-- Where a moment leaves a game selected, the history with it selects one, if this is known of the
history before. -/
theorem reselects_concat {past : List Moment} {moment : Moment} {registry : Registry}
    (before : registry.active ≠ none → Reselects past)
    (switches : ∀ target answer success,
      moment = .answered (.switching target) answer (.ok success) →
        answer = .ok () ∧ Open past (.switching target))
    (selected : (moment.registryAfter registry).active ≠ none) : Reselects (past ++ [moment]) := by
  rcases Moment.selected_cases selected with kept | ⟨snapshot, key, rfl, loads⟩ |
    ⟨target, answer, success, rfl⟩
  · exact (before kept).concat moment
  · exact .inl ⟨snapshot, key, by simp, loads⟩
  · obtain ⟨rfl, began⟩ := switches target answer success rfl
    exact .inr ⟨past, target, success, [], rfl, began⟩

/-- From a state in which no game is selected and no switch is under way, a game can only be
selected by what happens afterwards. -/
theorem reselects_of_moves {config : Config} {before past : List Moment} {first core : Core}
    {waitingFirst waiting : List Pending} (reached : Reached config before first waitingFirst)
    (free : first.held .switch = false) (unselected : first.registry.value.active = none)
    (moves : Moves first waitingFirst past core waiting) :
    core.registry.value.active ≠ none → Reselects past := by
  have replays := Core.replays_registry
  induction moves with
  | start => exact fun selected => absurd unselected selected
  | ended _ started ih =>
      rw [replays.ended started]
      exact reselects_concat ih nofun
  | called _ started ih =>
      rw [replays.called started]
      exact reselects_concat ih nofun
  | @answered past core _ earlier later pending answer result moves settled ih =>
      rw [replays.answered settled]
      apply reselects_concat ih
      rintro target _ success ⟨⟩
      refine ⟨by cases settled; rfl, ?_⟩
      -- The switch waits, so its call is open; and it was not when no switch was under way.
      have waits : .switching target ∈ earlier ++ Pending.switching target :: later := by simp
      rcases open_append ((mem_waiting_iff_open (reached.trans moves) _).mp waits) with old | new
      · have waited := (mem_waiting_iff_open reached _).mpr old
        exact ((agreement_of_reached reached).other_of_free free waited rfl).elim
      · exact new
  | dropped _ ih =>
      rw [replays.dropped]
      exact reselects_concat ih nofun
  | pushedRegistry _ ih =>
      rw [replays.pushedRegistry]
      exact reselects_concat ih nofun
  | pushedChat _ ih =>
      rw [replays.pushedChat]
      exact reselects_concat ih nofun

/-! ## The main statement -/

/-- What switching comes to in a client. -/
structure Client.SwitchesGames (client : Client) : Prop where
  /-- A switch whose call succeeded is done exactly if its game is known when the answer comes. Then
  this game is selected; otherwise the switch says that it is unknown, and the registry stays. -/
  answered : ∀ step target result,
    .answered (.switching target) (.ok ()) result ∈ client.moments step →
      target ≠ "" ∧
      (result = .ok .done ↔ client.core.registry.value.contains target = true) ∧
      (result = .ok .done → (client.step step).1.core.registry.value =
        { client.core.registry.value with active := some target }) ∧
      (result ≠ .ok .done → result = .error (.unknownHandle target) ∧
        (client.step step).1.core.registry.value = client.core.registry.value)
  /-- A switch that fails in any way, is refused or is dropped leaves the registry as it is. -/
  failed : ∀ step, ∀ moment ∈ client.moments step, moment.failsToSwitch = true →
    (client.step step).1.core.registry.value = client.core.registry.value
  /-- After a deselect no game is selected until a snapshot or a later switch selects one. -/
  deselected : ∀ step success, .ended (.switch "") (.ok success) ∈ client.moments step →
    ∀ rest, ((client.step step).1.run rest).core.registry.value.active ≠ none →
      Reselects ((client.step step).1.history rest)

/-- What a switch comes to whose call succeeded. -/
theorem Core.Settled.registry_of_switching {core after : Core} {target : String} {result : Result}
    (settled : core.Settled (.switching target) (.ok ()) after result) (named : target ≠ "") :
    core.registry.value.contains target = true ∧ result = .ok .done ∧
        after.registry.value = { core.registry.value with active := some target } ∨
      core.registry.value.contains target = false ∧ result = .error (.unknownHandle target) ∧
        after.registry.value = core.registry.value := by
  have replayed := Core.replays_registry.answered settled
  cases settled with
  | switched known =>
      have selects := known
      obtain ⟨contained, rfl⟩ := (Registry.setActive_eq_ok_iff named).mp known
      refine .inl ⟨contained, rfl, replayed.trans ?_⟩
      show (Core.select target core.registry.value).1 = _
      rw [Core.select, selects]
  | vanished unknown =>
      obtain ⟨-, missing, rfl⟩ := Registry.setActive_eq_error_iff.mp unknown
      exact .inr ⟨missing, rfl, replayed⟩

/-- **Switching.** In every state of every run a switch selects its game if this is known when the
backend has answered, and leaves the registry alone otherwise; and a deselect holds until a snapshot
or a later switch selects a game. -/
theorem switch_selects_known_game {config : Config} {client : Client}
    (new : Client.new config = .ok client) (steps : List Client.Step) :
    (client.run steps).SwitchesGames := by
  have runs := Client.inRun_of_new new steps
  refine ⟨?_, ?_, ?_⟩
  · intro step target result mem
    obtain ⟨core, settled, origin⟩ := Client.settled_of_answered mem
    -- The answer finds the registry of the step, also where the switch starts in this very step.
    have same : core.registry = (client.run steps).core.registry ∧ target ≠ "" := by
      rcases origin with ⟨rfl, waits⟩ | ⟨command, started⟩
      · exact ⟨rfl, named_of_reached runs.reached waits⟩
      · exact ⟨started.registry_of_suspended, started.named_of_suspended⟩
    obtain ⟨registry, named⟩ := same
    have outcome := settled.registry_of_switching named
    rw [registry] at outcome
    rcases outcome with ⟨known, rfl, selected⟩ | ⟨unknown, rfl, kept⟩
    · exact ⟨named, iff_of_true rfl known, fun _ => selected, fun other => absurd rfl other⟩
    · exact ⟨named, iff_of_false nofun (by simp [unknown]), nofun, fun _ => ⟨rfl, kept⟩⟩
  · intro step moment mem fails
    have noCall : ∀ pending, moment ≠ .called pending := by
      rintro pending rfl
      cases fails
    have replayed := Core.replays_registry.of_mem (fun _ _ => rfl) runs.numbered mem noCall
    exact replayed.trans (Moment.registryAfter_of_failsToSwitch _ fails)
  · intro step success mem rest selected
    obtain ⟨after, started, next⟩ := Client.started_of_ended mem
    have runsNext := runs.concat step
    rw [next] at selected runsNext ⊢
    cases started with
    | deselected free =>
        -- After the deselect no switch is under way: one that selects a game has begun since.
        apply reselects_of_moves runsNext.reached
        · exact (Core.held_deselect free _).trans free
        · exact congrArg Registry.active (Core.registry_deselect free)
        · exact Client.moves_of_run runsNext.numbered rest
        · exact selected

def twoGames : RegistrySnapshot := ⟨[⟨"k1", "Ada"⟩, ⟨"k2", "Bob"⟩], some "k1"⟩

def oneGame : RegistrySnapshot := ⟨[⟨"k1", "Ada"⟩], some "k1"⟩

/-- The game of a switch vanishes while its call is under way. -/
theorem vanished_game_is_not_selected :
    let client := (Client.fresh {}).run
      [.pushRegistry twoGames, .switch "k2" .silent, .pushRegistry oneGame]
    .answered (.switching "k2") (.ok ()) (.error (.unknownHandle "k2")) ∈
      client.moments (.poll 0 .willing) ∧
    (client.step (.poll 0 .willing)).1.core.registry.value = client.core.registry.value := by
  intro client
  have mem : .answered (.switching "k2") (.ok ()) (.error (.unknownHandle "k2")) ∈
      client.moments (.poll 0 .willing) := List.mem_singleton.mpr rfl
  have switches := switch_selects_known_game Client.new_default
    [.pushRegistry twoGames, .switch "k2" .silent, .pushRegistry oneGame]
  exact ⟨mem, ((switches.answered _ _ _ mem).2.2.2 nofun).2⟩

end GameClient
