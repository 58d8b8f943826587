import GameClient.Proofs.Selection
import GameClient.Proofs.Tasks

/-!
# What a failing create undoes

A create or join remembers the phase that it finds and brings it back when it fails. A switch may be
done while it is under way. The session is `creating` then, so the switch leaves the phase alone,
and the failing create brings back the phase from before: what the switch would have made of it is
lost, while the registry shows the game that it selected.

The main statement is `failed_create_undoes_switch`. Nothing is lost exactly if the switch would
have left the phase as it was: a session that is `active` goes over to a game, or one that is `idle`
deselects.
-/

namespace GameClient

open Session (Phase)

/-! ## The phase after a turn -/

/-- What a moment makes of the phase. -/
def Moment.phaseAfter (phase : Phase) : Moment → Phase
  | called (.creation ..) => .creating
  | called (.finalization _) => .finalizing
  | answered (.creation (.new _) _) (.ok _) _ => .awaitingFinalization
  | answered (.creation (.join ..) _) (.ok _) _ => .active
  | answered (.creation _ prior) (.error _) _ => if phase = .creating then prior else phase
  | answered (.finalization _) (.ok _) _ => .active
  | answered (.finalization _) (.error _) _ =>
    if phase = .finalizing then .awaitingFinalization else phase
  | ended (.switch _) (.ok _) => if phase = .active then .idle else phase
  | answered (.switching _) _ (.ok _) => if phase.canSwitch then .active else phase
  | _ => phase

theorem Core.replays_phase :
    Replays (fun core => core.session.value.phase)
      (fun phase moment => moment.phaseAfter phase) where
  ended := by
    intro core after command result started
    cases started with
    | turnedAway => cases command <;> rfl
    | refused =>
        rw [phase_release]
        cases command <;> rfl
    | offerRefused => rfl
    | deselected free =>
        rw [session_deselect free]
        show (if _ then _ else _ : Session).phase = if _ then _ else _
        split <;> rfl
    | schemaKept => rfl
  called started := by cases started <;> rfl
  answered settled := by
    cases settled with
    | @creationFailed request => cases request <;> rfl
    | switched known =>
        simp only [Core.switched, known]
        rfl
    | vanished unknown =>
        simp only [Core.switched, unknown]
        rfl
    | _ => rfl
  dropped core pending := by
    rw [abandon, phase_release]
    cases pending <;> rfl
  pushedRegistry _ _ := rfl
  pushedChat core messages := by
    rw [session_pushChat]
    rfl

/-! ## While a create or join is under way -/

/-- A create or join is under way, and no finalize that could take the phase from it. -/
structure Creating (core : Core) (waiting : List Pending) : Prop where
  phase : core.session.value.phase = .creating
  taken : core.held .createOrJoin = true
  noFinalize : ∀ params, .finalization params ∉ waiting

namespace Creating

variable {core after : Core} {waiting rest : List Pending}

theorem keep (creating : Creating core waiting) (keeps : core.KeepsPhase after)
    (held : after.held .createOrJoin = core.held .createOrJoin)
    (fewer : ∀ params, .finalization params ∈ rest → .finalization params ∈ waiting) :
    Creating after rest := by
  refine ⟨?_, held.trans creating.taken, fun params mem => creating.noFinalize params (fewer _ mem)⟩
  rcases keeps with same | ⟨before, -⟩
  · exact same.trans creating.phase
  · rw [creating.phase] at before
    cases before

/-- A create or join begins, and remembers the phase that it finds. -/
theorem begins {request : Session.CreationRequest} {pending : Pending}
    (started : core.Started (.createOrJoin request) after (.suspended pending))
    (noFinalize : ∀ params, .finalization params ∉ waiting) :
    Creating after (waiting ++ [pending]) ∧
      ∃ clean, pending = .creation clean core.session.value.phase := by
  have taken := started.held_of_suspended .createOrJoin
  cases started with
  | creating =>
      exact ⟨⟨rfl, taken, fun params mem => noFinalize params (mem_of_mem_concat mem nofun)⟩,
        _, rfl⟩
  | finalizing _ asks => cases asks

theorem called {command : Command} {pending : Pending} (creating : Creating core waiting)
    (started : core.Started command after (.suspended pending)) :
    Creating after (waiting ++ [pending]) := by
  -- No other create or join begins, for the latch is held; no finalize, for the phase is wrong.
  have createsNot : pending.action ≠ .createOrJoin := by
    intro same
    have free := started.free_of_suspended
    rw [same, creating.taken] at free
    cases free
  have finalizesNot : pending.action ≠ .finalize := by
    intro same
    cases started with
    | finalizing _ _ fit =>
        have phase := Core.phase_of_paramsFor fit
        rw [creating.phase] at phase
        cases phase
    | _ => cases same
  apply creating.keep (started.keepsPhase_of_suspended createsNot finalizesNot)
  · rw [started.held_of_suspended, if_neg createsNot]
  · exact fun _ mem => mem_of_mem_concat mem finalizesNot

theorem kept : Kept (fun moment => moment.ends? ≠ some .createOrJoin) Creating where
  ended creating started _ :=
    creating.keep started.keepsPhase_of_finished (started.held_of_finished _) fun _ mem => mem
  called creating started _ := creating.called started
  answered := by
    intro core after earlier later pending answer result creating settled endsNot
    have createsNot : pending.action ≠ .createOrJoin := fun same => endsNot (congrArg some same)
    -- No finalize was under way when the create began, and none begins while it is.
    have finalizesNot : pending.action ≠ .finalize := by
      intro same
      cases pending with
      | finalization params => exact creating.noFinalize params (by simp)
      | _ => cases same
    apply creating.keep (settled.keepsPhase createsNot finalizesNot)
    · rw [settled.held, if_neg createsNot]
    · exact fun _ => mem_split_of_mem_others
  dropped := by
    intro core earlier later pending creating endsNot
    have createsNot : pending.action ≠ .createOrJoin := fun same => endsNot (congrArg some same)
    apply creating.keep (.inl (Core.phase_release _ _))
    · exact (Core.held_release _ _ _).trans (if_neg createsNot)
    · exact fun _ => mem_split_of_mem_others
  pushedRegistry creating _ := ⟨creating.phase, creating.taken, creating.noFinalize⟩
  pushedChat := by
    intro core waiting messages creating _
    apply creating.keep (.inl _) (Core.held_pushChat _ _ _) fun _ mem => mem
    rw [Core.session_pushChat]

end Creating

/-! ## Switches that are done -/

/-- Where a switch has gone over to, if a moment does one: a game, or none for the empty key. -/
def Moment.switchesTo? : Moment → Option String
  | ended (.switch target) (.ok _) => some target
  | answered (.switching target) _ (.ok _) => some target
  | _ => none

/-- What a switch to a key selects. -/
def selectionFor (target : String) : Option String :=
  if target = "" then none else some target

/-- The phase that goes with this selection. -/
def phaseFor (target : String) : Phase :=
  if target = "" then .idle else .active

/-- What a switch makes of the selection and the phase when it is done: both are those of its key,
unless the session is in a phase that a switch leaves alone. -/
structure Core.Switches (core after : Core) (target : String) : Prop where
  selected : after.registry.value.active = selectionFor target
  phase : after.session.value.phase =
    if core.session.value.phase.canSwitch then phaseFor target else core.session.value.phase

/-- Before its call only a deselect is done. -/
theorem Core.Started.switches {core after : Core} {target : String} {success : Success}
    (started : core.Started (.switch target) after (.finished (.ok success))) :
    core.Switches after target := by
  cases started with
  | deselected free =>
      constructor
      · rw [registry_deselect free]
        rfl
      · rw [session_deselect free]
        cases phase : core.session.value.phase <;> simp [phase, Phase.canSwitch, phaseFor]

theorem Core.Settled.switches {core after : Core} {target : String}
    {answer : (Pending.switching target).call.Answer} {success : Success}
    (settled : core.Settled (.switching target) answer after (.ok success))
    (named : target ≠ "") : core.Switches after target := by
  have answered : answer = .ok () := by cases settled; rfl
  subst answered
  constructor
  · rcases settled.registry_of_switching named with ⟨-, -, selected⟩ | ⟨-, fails, -⟩
    · rw [selected]
      exact (if_neg named).symm
    · cases fails
  · rw [phaseFor, if_neg named]
    exact replays_phase.answered settled

theorem Client.InRun.switches {config : Config} {past : List Moment} {client : Client}
    (runs : InRun config past client) {step : Step} {moment : Moment} {target : String}
    (mem : moment ∈ client.moments step) (switches : moment.switchesTo? = some target) :
    client.core.Switches (client.step step).1.core target := by
  unfold Moment.switchesTo? at switches
  split at switches
  · next key success =>
      obtain rfl : key = target := Option.some.inj switches
      obtain ⟨after, started, next⟩ := started_of_ended mem
      rw [next]
      exact started.switches
  · next key answer success =>
      obtain rfl : key = target := Option.some.inj switches
      obtain ⟨core, settled, ⟨rfl, waits⟩ | ⟨command, started⟩⟩ := settled_of_answered mem
      · exact settled.switches (named_of_reached runs.reached waits)
      · -- The switch was started in this step, which left the phase alone.
        have switches := settled.switches started.named_of_suspended
        have same : core.session.value.phase = client.core.session.value.phase := by
          cases started
          rfl
        exact ⟨switches.selected, by rw [switches.phase, same]⟩
  · cases switches

/-! ## The main statement -/

/-- A create or join waits while a switch is done, and then it fails. -/
structure Overlap where
  request : Session.CreationRequest
  /-- What the gateway says when the create or join is started. -/
  silence : Gateway
  /-- The number under which it waits. -/
  number : Nat
  before : List Client.Step := []
  switch : Client.Step
  after : List Client.Step := []
  /-- What the gateway says when the create or join is polled at last. -/
  failure : Gateway

namespace Overlap

-- What is done first and last, and the client in between: while the create or join waits, when the
-- switch is done, just before the failure, and after it.

def start (overlap : Overlap) : Client.Step :=
  .start (.createOrJoin overlap.request) overlap.silence

def poll (overlap : Overlap) : Client.Step := .poll overlap.number overlap.failure

def waiting (overlap : Overlap) (client : Client) : Client :=
  (client.step overlap.start).1.run overlap.before

def switched (overlap : Overlap) (client : Client) : Client :=
  ((overlap.waiting client).step overlap.switch).1

def failing (overlap : Overlap) (client : Client) : Client :=
  (overlap.switched client).run overlap.after

def failed (overlap : Overlap) (client : Client) : Client :=
  ((overlap.failing client).step overlap.poll).1

/-- The overlap happens in a client, and its switch goes to this key. -/
structure Happens (overlap : Overlap) (client : Client) (target : String) : Prop where
  waits : (client.step overlap.start).2.outcome = .waiting overlap.number
  switches : ∃ moment ∈ (overlap.waiting client).moments overlap.switch,
    moment.switchesTo? = some target
  fails : ∃ error,
    ((overlap.failing client).step overlap.poll).2.outcome = .completed (.error error)

/-- What comes of it, where the session was in the phase `prior` before. -/
structure Undoes (overlap : Overlap) (client : Client) (target : String) (prior : Phase) :
    Prop where
  /-- The switch selects its game, and finds a phase that it leaves alone. -/
  selected : (overlap.switched client).core.registry.value.active = selectionFor target
  creating : (overlap.switched client).core.session.value.phase = .creating
  /-- The failure brings back the phase from before the switch, -/
  restored : (overlap.failed client).core.session.value.phase = prior
  /-- which goes with the selection of the switch only if the switch need not have changed it. -/
  fits : (overlap.failed client).core.session.value.phase = phaseFor target ↔
    (prior = .active ↔ target ≠ "")

end Overlap

theorem phaseFor_eq_iff {prior : Phase} {target : String} (fit : prior.canSwitch = true) :
    prior = phaseFor target ↔ (prior = .active ↔ target ≠ "") := by
  unfold phaseFor
  cases prior with
  | idle | active => by_cases empty : target = "" <;> simp [empty]
  | _ => cases fit

/-- A create or join that fails in its own phase brings back the phase that it remembers. -/
theorem Core.Settled.restores {core after : Core} {clean : Session.CreationRequest} {prior : Phase}
    {answer : (Pending.creation clean prior).call.Answer} {error : ActionError}
    (settled : core.Settled (.creation clean prior) answer after (.error error))
    (creating : core.session.value.phase = .creating) : after.session.value.phase = prior := by
  cases settled with
  | creationFailed => rw [phase_creationFailed, if_pos creating]

theorem Client.InRun.creating {config : Config} {past : List Moment} {client : Client}
    (runs : InRun config past client) (creating : Creating client.core client.waiting)
    {steps first : List Step} {task : Task} (mem : task ∈ (client.run steps).tasks)
    (older : task.number < client.nextTask) (creates : task.pending.action = .createOrJoin)
    (earlier : first <+: steps) :
    Creating (client.run first).core (client.run first).waiting := by
  obtain ⟨second, rfl⟩ := earlier
  have undone := runs.ends_ne_of_mem_tasks mem older
  rw [history_append, creates] at undone
  exact Creating.kept.of_moves creating (moves_of_run runs.numbered first) fun moment mem =>
    undone moment (List.mem_append_left _ mem)

/-- The steps between the start and the end of the create or join. -/
def Overlap.between (overlap : Overlap) : List Client.Step :=
  overlap.before ++ overlap.switch :: overlap.after

theorem Overlap.failing_eq (overlap : Overlap) (client : Client) :
    overlap.failing client = (client.step overlap.start).1.run overlap.between := by
  rw [between, Client.run_append]
  rfl

/-- **A failing create undoes a switch.** A create or join begins while the session is idle or
active and no finalize is under way; it waits while a switch is done, and fails. Then the session is
in the phase from before the create or join, whatever the switch selected. -/
theorem failed_create_undoes_switch {config : Config} {client : Client}
    (new : Client.new config = .ok client) (steps : List Client.Step) (overlap : Overlap)
    (target : String) (happens : overlap.Happens (client.run steps) target)
    (fit : (client.run steps).core.session.value.phase.canSwitch = true)
    (noFinalize : (client.run steps).outstanding .finalize = []) :
    overlap.Undoes (client.run steps) target (client.run steps).core.session.value.phase := by
  have runs := Client.inRun_of_new new steps
  obtain ⟨pending, started, waiting, below, same⟩ :=
    Client.start_of_waiting runs.numbered happens.waits
  obtain ⟨creating, clean, rfl⟩ := Creating.begins started fun params mem =>
    Client.other_of_outstanding noFinalize mem rfl
  rw [← waiting] at creating
  have runs := runs.concat overlap.start
  -- The task that fails is the one that began, so no create or join is over in between.
  obtain ⟨error, fails⟩ := happens.fails
  obtain ⟨task, kept, number, answer, settled⟩ := Client.settled_of_poll fails
  obtain ⟨_, _⟩ := task
  obtain rfl : _ = overlap.number := number
  rw [overlap.failing_eq] at kept
  obtain rfl := same _ (Client.mem_tasks_of_run kept below) rfl
  have stays (first : List Client.Step) (earlier : first <+: overlap.between) :=
    runs.creating creating kept below rfl earlier
  obtain ⟨moment, mem, switches⟩ := happens.switches
  have before := stays overlap.before (List.prefix_append _ _)
  have switched := (runs.append overlap.before).switches mem switches
  have phase : (overlap.switched (client.run steps)).core.session.value.phase = .creating := by
    have phase := switched.phase
    rwa [before.phase] at phase
  have restored : (overlap.failed (client.run steps)).core.session.value.phase = _ :=
    settled.restores (by rw [overlap.failing_eq, (stays _ List.prefix_rfl).phase])
  exact ⟨switched.selected, phase, restored, by rw [restored, phaseFor_eq_iff fit]⟩

/-- An active session leaves its game while another is to be created, which fails. -/
def leaving : Overlap where
  request := .new "Ada"
  silence := .silent
  number := 0
  switch := .switch "" .silent
  failure := .offline

/-- The game is left, and the session is active all the same. -/
theorem left_game_stays_active :
    let client := (Client.fresh {}).run
      [.start (.createOrJoin (.join "Ada" "ABC123")) .willing, .pushRegistry oneGame]
    client.core.session.value.phase = .active ∧ client.outstanding .finalize = [] ∧
      leaving.Happens client "" ∧ (leaving.failed client).core.session.value.phase ≠ phaseFor "" :=
  ⟨rfl, rfl, ⟨rfl, ⟨_, List.mem_singleton.mpr rfl, rfl⟩, ⟨_, rfl⟩⟩, by decide⟩

/-- An idle session goes over to a game while another is to be created, which fails. -/
def goingOver : Overlap where
  request := .new "Ada"
  silence := .silent
  number := 1
  switch := .poll 0 .willing
  failure := .offline

/-- The game is selected, and the session is idle all the same. -/
theorem selected_game_stays_idle :
    let client := (Client.fresh {}).run [.pushRegistry twoGames, .switch "k2" .silent]
    client.core.session.value.phase.canSwitch = true ∧ client.outstanding .finalize = [] ∧
      goingOver.Happens client "k2" ∧ goingOver.Undoes client "k2" .idle := by
  intro client
  have happens : goingOver.Happens client "k2" :=
    ⟨rfl, ⟨_, List.mem_singleton.mpr rfl, rfl⟩, ⟨_, rfl⟩⟩
  have undoes := failed_create_undoes_switch Client.new_default
    [.pushRegistry twoGames, .switch "k2" .silent] goingOver "k2" happens rfl rfl
  exact ⟨rfl, rfl, happens, undoes⟩

end GameClient
