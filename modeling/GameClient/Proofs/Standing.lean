import GameClient.Proofs.LastError
import GameClient.Proofs.Selection

/-!
# The session as a machine of three states

Between two of its actions a session stands in one of three ways: it is idle, it awaits the
finalization of a game whose ticket it holds, or it is active. As long as no two actions of the
session overlap, that is all there is to it. What an action comes to, and where the session stands
afterwards, is told by where it stood before, by what was asked, by whether the target of a switch
is known at its start and at its end, and by the answer of the backend (`Standing.act`). Whatever
else happens while the action waits makes no difference.

The proof follows a run step by step. While an action of the session waits, its phase and its ticket
are those that the action has made of a standing (`Standing.Waits`); when the call is answered they
become those of the standing that the machine tells. The main statement is
`sequential_run_refines_machine`.
-/

namespace GameClient

open Session (Ticket Phase)

/-! ## The machine -/

/-- Where a session stands between two of its actions. -/
inductive Standing where
  | idle
  /-- The game of this ticket waits to be finalized. -/
  | awaiting (ticket : Ticket)
  | active
  deriving DecidableEq, Repr

/-- What is asked of a session, and what decides about it. -/
structure Occasion where
  command : Command
  /-- The registry when the command is started, -/
  atStart : Registry
  /-- and when it is over. -/
  atEnd : Registry
  /-- What the backend says when it is over. -/
  gateway : Gateway

namespace Standing

def phase : Standing → Phase
  | idle => .idle
  | awaiting _ => .awaitingFinalization
  | active => .active

def ticket? : Standing → Option Ticket
  | awaiting ticket => some ticket
  | _ => none

/-- What an action of the session comes to: an error, or a success and where it leads. -/
abbrev Move : Type := Except ActionError (Success × Standing)

/-- Creating or joining a game is possible from anywhere. -/
def create (request : Session.CreationRequest) (gateway : Gateway) : Option Move :=
  match request.validated with
  | .error error => some (.error (.validation error))
  | .ok (.new nickname) =>
    (gateway (.makeNewGame nickname)).map fun answer =>
      match answer with
      | .ok ticket => .ok (.session (.created ticket), awaiting ticket)
      | .error failure => .error (.ofFailure .makeNewGame failure)
  | .ok (.join nickname inviteCode) =>
    (gateway (.joinExistingGame nickname inviteCode)).map fun answer =>
      match answer with
      | .ok () => .ok (.session .joined, active)
      | .error failure => .error (.ofFailure .joinExistingGame failure)

/-- What is sent to finalize; there is something only while a game waits for it. -/
def params (standing : Standing) (settings : Session.GameSettings) :
    Except ValidationError Session.FinalizationParams :=
  match standing with
  | awaiting ticket => settings.finalizationParams ticket
  | _ => .error (.notAwaitingFinalization standing.phase.text)

/-- A game that waits for it is finalized. -/
def finalize (standing : Standing) (settings : Session.GameSettings) (gateway : Gateway) :
    Option Move :=
  match standing.params settings with
  | .error error => some (.error (.validation error))
  | .ok params =>
    (gateway (.finalizeGame params)).map fun answer =>
      match answer with
      | .ok () => .ok (.done, active)
      | .error failure => .error (.ofFailure .finalizeGame failure)

/-- A game is gone over to that is known at the start and at the end. -/
def select (target : String) (occasion : Occasion) : Option Move :=
  if occasion.atStart.contains target = false then some (.error (.unknownHandle target))
  else
    (occasion.gateway (.switchToGame target)).map fun answer =>
      match answer with
      | .ok () =>
        if occasion.atEnd.contains target then .ok (.done, active)
        else .error (.unknownHandle target)
      | .error failure => .error (.ofFailure .switchToGame failure)

/-- No session leaves a game that waits to be finalized for another. -/
def switch (standing : Standing) (target : String) (occasion : Occasion) : Option Move :=
  match standing with
  | awaiting _ => some (.error (.validation (.switchUnavailable standing.phase.text)))
  | _ => select target occasion

/-- An active session is idle when its game is left. -/
def deselected : Standing → Standing
  | active => idle
  | standing => standing

/-- The machine: what an action comes to. There is nothing to tell as long as the backend has not
answered, and of the actions that are not about the session. -/
def act (config : Config) (standing : Standing) (occasion : Occasion) : Option Move :=
  match occasion.command with
  | .createOrJoin request => create request occasion.gateway
  | .finalize settings => standing.finalize settings occasion.gateway
  | .finalizeWithDefaults => standing.finalize config.finalize occasion.gateway
  | .switch target =>
    if target = "" then some (.ok (.done, standing.deselected))
    else standing.switch target occasion
  | .loadSchema | .offer .. => none

/-- One step of the machine. A success leads on, a failure leaves the session where it stood. -/
inductive Step (config : Config) (standing : Standing) (occasion : Occasion) :
    Result → Standing → Prop where
  | done {success : Success} {next : Standing}
      (acts : standing.act config occasion = some (.ok (success, next))) :
      Step config standing occasion (.ok success) next
  | failed {error : ActionError} (acts : standing.act config occasion = some (.error error)) :
      Step config standing occasion (.error error) standing

variable {config : Config} {standing : Standing} {occasion : Occasion}

theorem act_of_settings {settings : Session.GameSettings}
    (asks : occasion.command.settings? config = some settings) :
    standing.act config occasion = standing.finalize settings occasion.gateway := by
  unfold act
  split <;> rename_i same <;> rw [same] at asks <;> cases asks <;> rfl

theorem act_of_switch {target : String} (asks : occasion.command = .switch target)
    (named : target ≠ "") : standing.act config occasion = standing.switch target occasion := by
  rw [act, asks]
  exact if_neg named

theorem switch_of_canSwitch (fit : standing.phase.canSwitch = true) (target : String)
    (occasion : Occasion) : standing.switch target occasion = select target occasion := by
  cases standing with
  | awaiting => cases fit
  | _ => rfl

theorem ticket?_of_canSwitch (fit : standing.phase.canSwitch = true) : standing.ticket? = none := by
  cases standing with
  | awaiting => cases fit
  | _ => rfl

theorem switch_of_not_canSwitch (unfit : standing.phase.canSwitch = false) (target : String)
    (occasion : Occasion) :
    standing.switch target occasion =
      some (.error (.validation (.switchUnavailable standing.phase.text))) := by
  cases standing with
  | awaiting => rfl
  | _ => cases unfit

end Standing

/-- The phase and the ticket of a session are those of a standing. -/
structure Session.Shows (session : Session) (standing : Standing) : Prop where
  phase : session.phase = standing.phase
  ticket : session.ticket = standing.ticket?

/-- An action of the session waits for its call, and the session shows what it has made of a
standing. -/
inductive Standing.Waits (config : Config) (standing : Standing) (atStart : Registry)
    (session : Session) : Command → Pending → Prop where
  | creating {request clean : Session.CreationRequest} (valid : request.validated = .ok clean)
      (phase : session.phase = .creating) (ticket : session.ticket = standing.ticket?) :
      Waits config standing atStart session (.createOrJoin request)
        (.creation clean standing.phase)
  | finalizing {command : Command} {settings : Session.GameSettings}
      {params : Session.FinalizationParams} (asks : command.settings? config = some settings)
      (fit : standing.params settings = .ok params) (phase : session.phase = .finalizing)
      (ticket : session.ticket = standing.ticket?) :
      Waits config standing atStart session command (.finalization params)
  | switching {target : String} (named : target ≠ "") (fit : standing.phase.canSwitch = true)
      (known : atStart.contains target = true) (shows : session.Shows standing) :
      Waits config standing atStart session (.switch target) (.switching target)

theorem Standing.Waits.isLifecycle {config : Config} {standing : Standing} {atStart : Registry}
    {session : Session} {command : Command} {pending : Pending}
    (waits : standing.Waits config atStart session command pending) :
    pending.action.isLifecycle = true := by
  cases waits <;> rfl

theorem Standing.Waits.action {config : Config} {standing : Standing} {atStart : Registry}
    {session : Session} {command : Command} {pending : Pending}
    (waits : standing.Waits config atStart session command pending) :
    pending.action = command.action := by
  cases waits with
  | finalizing asks => exact (Core.action_of_settings asks).symm
  | _ => rfl

namespace Core

variable {core after : Core} {command : Command} {action : Action} {standing : Standing}

/-! ## Turns that are not about the session -/

theorem session_release (core : Core) (purchase : action.isLifecycle = false) :
    (core.release action).session = core.session := by
  cases action <;> first | rfl | cases purchase

/-- Starting an action of the purchase form leaves the session alone. -/
theorem Started.session_of_purchase {progress : Progress}
    (started : Started core command after progress)
    (purchase : command.action.isLifecycle = false) : after.session = core.session := by
  have other {settings : Session.GameSettings}
      (asks : command.settings? core.config = some settings) : False := by
    rw [action_of_settings asks] at purchase
    cases purchase
  cases started with
  | refused _ refuses =>
      cases refuses with
      | finalization asks => exact (other asks).elim
      | _ => cases purchase
  | finalizing _ asks => exact (other asks).elim
  | deselected => cases purchase
  | creating => cases purchase
  | switching => cases purchase
  | _ => rfl

theorem Settled.session_of_purchase {pending : Pending} {answer : pending.call.Answer}
    {result : Result} (settled : Settled core pending answer after result)
    (purchase : pending.action.isLifecycle = false) : after.session = core.session := by
  cases settled <;> first | rfl | cases purchase

theorem replays_config : Replays (fun core => core.config) (fun config _ => config) where
  ended {core after command _} started := by
    cases started with
    | turnedAway => rfl
    | deselected free => simp only [deselect, acquire_of_free free]; rfl
    | refused => cases command <;> rfl
    | _ => rfl
  called started := by cases started <;> rfl
  answered settled := by
    cases settled with
    | switched known => simp only [Core.switched, known]; rfl
    | vanished unknown => simp only [Core.switched, unknown]; rfl
    | _ => rfl
  dropped core pending := by cases pending <;> rfl
  pushedRegistry _ _ := rfl
  pushedChat core messages := by
    unfold pushChat
    split <;> rfl

/-! ## Turns of the session, and the machine -/

theorem paramsFor_of_shows {session : Session} (shows : session.Shows standing)
    (settings : Session.GameSettings) : paramsFor session settings = standing.params settings := by
  unfold paramsFor
  rw [shows.phase, shows.ticket]
  cases standing <;> rfl

theorem shows_of_surfaced (shows : core.session.value.Shows standing) (error : ActionError)
    (action other : Action) :
    (((core.latched action).surface error).release other).session.value.Shows standing :=
  ⟨(phase_release _ _).trans shows.phase, (ticket_release _ _).trans shows.ticket⟩

/-- A command that ends before its call ends as the machine tells. -/
theorem Started.acts {result : Result} (started : Started core command after (.finished result))
    (lifecycle : command.action.isLifecycle = true) (free : core.held command.action = false)
    (shows : core.session.value.Shows standing) (atEnd : Registry) (gateway : Gateway) :
    ∃ next, standing.Step core.config ⟨command, core.registry.value, atEnd, gateway⟩ result next ∧
      after.session.value.Shows next := by
  cases started with
  | turnedAway taken =>
      rw [free] at taken
      cases taken
  | refused _ refuses =>
      refine ⟨standing, .failed ?_, shows_of_surfaced shows _ _ _⟩
      cases refuses with
      | creation invalid => simp only [Standing.act, Standing.create, invalid]
      | finalization asks unfit =>
          -- The parameters depend on the session only through what the machine stands for.
          rw [paramsFor_of_shows shows] at unfit
          rw [Standing.act_of_settings asks, Standing.finalize, unfit]
      | switch named unfit =>
          rw [shows.phase] at unfit ⊢
          rw [Standing.act_of_switch rfl named, Standing.switch_of_not_canSwitch unfit]
      | target named fit unknown =>
          rw [shows.phase] at fit
          rw [Standing.act_of_switch rfl named, Standing.switch_of_canSwitch fit]
          exact if_pos unknown
  | offerRefused => cases lifecycle
  | schemaKept => cases lifecycle
  | deselected =>
      refine ⟨standing.deselected, .done (by simp [Standing.act]), ?_⟩
      rw [session_deselect free, shows.phase]
      have ticket := shows.ticket
      cases standing with
      | active => exact ⟨rfl, ticket⟩
      | idle => exact shows
      | awaiting => exact shows

/-- A command that calls leaves what the machine waits with. -/
theorem Started.waits {pending : Pending}
    (started : Started core command after (.suspended pending))
    (lifecycle : command.action.isLifecycle = true) (shows : core.session.value.Shows standing) :
    standing.Waits core.config core.registry.value after.session.value command pending := by
  cases started with
  | creating _ valid =>
      rw [shows.phase]
      exact .creating valid rfl shows.ticket
  | finalizing _ asks fit =>
      rw [paramsFor_of_shows shows] at fit
      exact .finalizing asks fit rfl shows.ticket
  | switching _ named fit known =>
      rw [shows.phase] at fit
      exact .switching named fit known ⟨shows.phase, shows.ticket⟩
  | loading => cases lifecycle
  | offering => cases lifecycle

/-- The ticket that is finalized is held no longer. -/
theorem filter_ticket_of_params {settings : Session.GameSettings}
    {params : Session.FinalizationParams} (fit : standing.params settings = .ok params) :
    standing.ticket?.filter (fun ticket => ticket.inviteCode ≠ params.inviteCode) = none := by
  have shows : Session.Shows { phase := standing.phase, ticket := standing.ticket? } standing :=
    ⟨rfl, rfl⟩
  rw [← paramsFor_of_shows shows] at fit
  obtain ⟨ticket, held, -, same, -⟩ := ticket_of_paramsFor fit
  rw [show standing.ticket? = some ticket from held, Option.filter_some, if_neg (by simp [same])]

theorem phase_of_params {settings : Session.GameSettings} {params : Session.FinalizationParams}
    (fit : standing.params settings = .ok params) : standing.phase = .awaitingFinalization := by
  cases standing with
  | awaiting => rfl
  | _ => cases fit

section Answers

variable {config : Config} {atStart : Registry} {gateway : Gateway} {result : Result}

theorem Settled.acts_creation {request clean : Session.CreationRequest}
    {answer : (Pending.creation clean standing.phase).call.Answer}
    (settled : Settled core (.creation clean standing.phase) answer after result)
    (valid : request.validated = .ok clean) (phase : core.session.value.phase = .creating)
    (ticket : core.session.value.ticket = standing.ticket?)
    (answered : gateway (Pending.creation clean standing.phase).call = some answer) :
    ∃ next, standing.Step config ⟨.createOrJoin request, atStart, core.registry.value, gateway⟩
        result next ∧ after.session.value.Shows next := by
  cases settled with
  | @created nickname _ granted =>
      have answered : gateway (.makeNewGame nickname) = some (.ok granted) := answered
      refine ⟨.awaiting granted, .done ?_, rfl, rfl⟩
      simp only [Standing.act, Standing.create, valid, answered, Option.map_some]
  | @joined nickname inviteCode _ =>
      have answered : gateway (.joinExistingGame nickname inviteCode) = some (.ok ()) := answered
      refine ⟨.active, .done ?_, rfl, rfl⟩
      simp only [Standing.act, Standing.create, valid, answered, Option.map_some]
  | @creationFailed _ _ failure operation asked =>
      refine ⟨standing, .failed ?_, ?_, ticket⟩
      · subst asked
        -- Both kinds of request fail alike, but by calls of different types.
        cases clean with
        | new nickname =>
            have answered : gateway (.makeNewGame nickname) = some (.error failure) := answered
            simp only [Standing.act, Standing.create, valid, answered, Option.map_some]
            rfl
        | join nickname inviteCode =>
            have answered : gateway (.joinExistingGame nickname inviteCode) =
                some (.error failure) := answered
            simp only [Standing.act, Standing.create, valid, answered, Option.map_some]
            rfl
      · rw [phase_creationFailed, if_pos phase]

theorem Settled.acts_finalization {settings : Session.GameSettings}
    {params : Session.FinalizationParams} {answer : (Pending.finalization params).call.Answer}
    (settled : Settled core (.finalization params) answer after result)
    (asks : command.settings? config = some settings) (fit : standing.params settings = .ok params)
    (phase : core.session.value.phase = .finalizing)
    (ticket : core.session.value.ticket = standing.ticket?)
    (answered : gateway (Pending.finalization params).call = some answer) :
    ∃ next, standing.Step config ⟨command, atStart, core.registry.value, gateway⟩ result next ∧
      after.session.value.Shows next := by
  cases settled with
  | finalized =>
      have answered : gateway (.finalizeGame params) = some (.ok ()) := answered
      refine ⟨.active, .done ?_, rfl, ?_⟩
      · rw [Standing.act_of_settings asks]
        simp only [Standing.finalize, fit, answered, Option.map_some]
      · show core.session.value.ticket.filter _ = none
        rw [ticket]
        exact filter_ticket_of_params fit
  | @finalizationFailed _ failure =>
      have answered : gateway (.finalizeGame params) = some (.error failure) := answered
      refine ⟨standing, .failed ?_, ?_, ticket⟩
      · rw [Standing.act_of_settings asks]
        simp only [Standing.finalize, fit, answered, Option.map_some]
      · rw [phase_finalizationFailed, if_pos phase, phase_of_params fit]

theorem Settled.acts_switching {target : String} {answer : (Pending.switching target).call.Answer}
    (settled : Settled core (.switching target) answer after result) (named : target ≠ "")
    (fit : standing.phase.canSwitch = true) (known : atStart.contains target = true)
    (shows : core.session.value.Shows standing)
    (answered : gateway (Pending.switching target).call = some answer) :
    ∃ next, standing.Step config ⟨.switch target, atStart, core.registry.value, gateway⟩ result
        next ∧ after.session.value.Shows next := by
  have acts : standing.act config ⟨.switch target, atStart, core.registry.value, gateway⟩ = _ :=
    Standing.act_of_switch rfl named
  rw [Standing.switch_of_canSwitch fit, Standing.select, if_neg (by simp [known])] at acts
  -- The machine looks the game up in the registry of the end, and so does the answer.
  cases settled with
  | switched present =>
      have answered : gateway (.switchToGame target) = some (.ok ()) := answered
      obtain ⟨contained, -⟩ := (Registry.setActive_eq_ok_iff named).mp present
      refine ⟨.active, .done ?_, ?_⟩
      · rw [acts]
        simp only [answered, Option.map_some, contained, if_true]
      · simp only [Core.switched, present]
        constructor
        · show (if core.session.value.phase.canSwitch then Phase.active else _) = .active
          rw [shows.phase, if_pos fit]
        · exact shows.ticket.trans (Standing.ticket?_of_canSwitch fit)
  | vanished missing =>
      have answered : gateway (.switchToGame target) = some (.ok ()) := answered
      obtain ⟨-, gone, rfl⟩ := Registry.setActive_eq_error_iff.mp missing
      refine ⟨standing, .failed ?_, ?_⟩
      · rw [acts]
        simp only [answered, Option.map_some, gone, Bool.false_eq_true, if_false]
      · simp only [Core.switched, missing]
        exact ⟨shows.phase, shows.ticket⟩
  | @switchFailed _ failure =>
      have answered : gateway (.switchToGame target) = some (.error failure) := answered
      refine ⟨standing, .failed ?_, shows.phase, shows.ticket⟩
      rw [acts]
      simp only [answered, Option.map_some]

/-- Every action of the session whose call is answered ends as the machine tells. -/
theorem Settled.acts {pending : Pending} {answer : pending.call.Answer}
    (settled : Settled core pending answer after result)
    (waits : standing.Waits config atStart core.session.value command pending)
    (answered : gateway pending.call = some answer) :
    ∃ next, standing.Step config ⟨command, atStart, core.registry.value, gateway⟩ result next ∧
      after.session.value.Shows next := by
  cases waits with
  | creating valid phase ticket => exact settled.acts_creation valid phase ticket answered
  | finalizing asks fit phase ticket =>
      exact settled.acts_finalization asks fit phase ticket answered
  | switching named fit known shows => exact settled.acts_switching named fit known shows answered

end Answers

end Core

theorem config_of_reached {config : Config} {past : List Moment} {core : Core}
    {waiting : List Pending} (reached : Reached config past core waiting) : core.config = config :=
  (Core.replays_config.of_moves reached).trans (List.foldl_fixed past)

/-! ## What is noted of a run -/

/-- An action of the session that is over, and the session right after it. -/
structure Deed where
  occasion : Occasion
  result : Result
  after : Session

def Deed.ending (deed : Deed) : Action × Result := (deed.occasion.command.action, deed.result)

/-- The action of the session that is over after a moment, and how it ended. -/
def Moment.lifecycleEnding? (moment : Moment) : Option (Action × Result) :=
  moment.ending?.filter fun ending => ending.1.isLifecycle

@[simp] theorem Moment.lifecycleEnding?_ended (command : Command) (result : Result) :
    (ended command result).lifecycleEnding? =
      if command.action.isLifecycle then some (command.action, result) else none :=
  Option.filter_some

@[simp] theorem Moment.lifecycleEnding?_called (pending : Pending) :
    (called pending).lifecycleEnding? = none :=
  rfl

@[simp] theorem Moment.lifecycleEnding?_answered (pending : Pending) (answer : pending.call.Answer)
    (result : Result) :
    (answered pending answer result).lifecycleEnding? =
      if pending.action.isLifecycle then some (pending.action, result) else none :=
  Option.filter_some

/-- An action of the session that waits, as it was when it was started. -/
structure Errand where
  number : Nat
  command : Command
  atStart : Registry

/-- The actions of the session that have been noted of a run: the one that waits, and those that are
over, in order. -/
structure SessionActions where
  errand : Option Errand := none
  deeds : List Deed := []

namespace SessionActions

open Client (Step Outcome)

def conclude (actions : SessionActions) (deed : Deed) : SessionActions :=
  { errand := none, deeds := actions.deeds ++ [deed] }

/-- Notes a step with its outcome: an action of the session that is over or waits when it is
started, and one that is over when it is polled. -/
def note (actions : SessionActions) (registry : Registry) (step : Step) (outcome : Outcome)
    (after : Session) : SessionActions :=
  match step, outcome with
  | .start command gateway, .completed result =>
    if command.action.isLifecycle then
      actions.conclude ⟨⟨command, registry, registry, gateway⟩, result, after⟩
    else actions
  | .start command _, .waiting number =>
    if command.action.isLifecycle then { actions with errand := some ⟨number, command, registry⟩ }
    else actions
  | .poll number gateway, .completed result =>
    match actions.errand with
    | some errand =>
      if errand.number = number then
        actions.conclude ⟨⟨errand.command, errand.atStart, registry, gateway⟩, result, after⟩
      else actions
    | none => actions
  | _, _ => actions

end SessionActions

namespace Client

/-- What is noted of a run, after what was noted before it. -/
def notes (client : Client) (actions : SessionActions) : List Step → SessionActions
  | [] => actions
  | step :: steps =>
    let (after, report) := client.step step
    after.notes
      (actions.note client.core.registry.value step report.outcome after.core.session.value) steps

def deeds (client : Client) (steps : List Step) : List Deed := (client.notes {} steps).deeds

/-- No action of the session waits for its call. -/
def Rests (client : Client) : Prop :=
  ∀ task ∈ client.tasks, task.pending.action.isLifecycle = false

/-- The step starts no action of the session while one waits, and drops none. -/
def InTurn (client : Client) : Step → Prop
  | .start command _ => command.action.isLifecycle = true → client.Rests
  | .drop number => ∀ task ∈ client.task? number, task.pending.action.isLifecycle = false
  | _ => True

/-- Each action of the session is over before the next one is started. -/
def Sequential (client : Client) : List Step → Prop
  | [] => True
  | step :: steps => client.InTurn step ∧ (client.step step).1.Sequential steps

instance (client : Client) : Decidable client.Rests :=
  inferInstanceAs (Decidable (∀ task ∈ client.tasks, task.pending.action.isLifecycle = false))

instance (client : Client) (step : Step) : Decidable (client.InTurn step) :=
  match step with
  | .start command _ =>
    inferInstanceAs (Decidable (command.action.isLifecycle = true → client.Rests))
  | .drop number =>
    inferInstanceAs
      (Decidable (∀ task ∈ client.task? number, task.pending.action.isLifecycle = false))
  | .poll .. | .pushRegistry _ | .pushChat _ => inferInstanceAs (Decidable True)

instance decidableSequential (client : Client) : (steps : List Step) →
    Decidable (client.Sequential steps)
  | [] => inferInstanceAs (Decidable True)
  | step :: steps =>
    have := decidableSequential (client.step step).1 steps
    inferInstanceAs (Decidable (client.InTurn step ∧ (client.step step).1.Sequential steps))

end Client

/-! ## The session and the machine step by step -/

/-- No action of the session waits, and the session shows a standing. -/
structure Session.RestsAt (session : Session) (standing : Standing) : Prop where
  shows : session.Shows standing
  /-- There is a ticket exactly while a game waits to be finalized. -/
  held : session.ticket.isSome = true ↔ session.phase = .awaitingFinalization
  creating : session.creating = false
  finalizing : session.finalizing = false
  switching : session.switching = false

/-- The machine goes from one standing to another by the actions that are over, in order, and after
each of them the session rests where the machine stands. -/
inductive Standing.Goes (config : Config) (first : Standing) : List Deed → Standing → Prop where
  | start : Goes config first [] first
  | step {deeds : List Deed} {standing next : Standing} {deed : Deed}
      (before : Goes config first deeds standing)
      (step : standing.Step config deed.occasion deed.result next)
      (rests : deed.after.RestsAt next) : Goes config first (deeds ++ [deed]) next

/-- How the session of a client goes with a standing: it rests there, or an action that was noted
waits and has left it. -/
inductive Client.Stands (config : Config) (client : Client) (standing : Standing) :
    Option Errand → Prop where
  | rests (rests : client.Rests) (shows : client.core.session.value.Shows standing) :
      Stands config client standing none
  | waits {errand : Errand} {pending : Pending}
      (mem : ⟨errand.number, pending⟩ ∈ client.tasks)
      (only : ∀ task ∈ client.tasks, task.pending.action.isLifecycle = true →
        task = ⟨errand.number, pending⟩)
      (waits : standing.Waits config errand.atStart client.core.session.value errand.command
        pending) :
      Stands config client standing (some errand)

/-- What is noted of a run is complete, and explained by the machine. -/
structure SessionActions.Explained (actions : SessionActions) (config : Config) (client : Client)
    (history : List Moment) : Prop where
  complete : actions.deeds.map Deed.ending = history.filterMap Moment.lifecycleEnding?
  machine : ∃ standing, Standing.Goes config .idle actions.deeds standing ∧
    client.Stands config standing actions.errand

theorem Session.Shows.held_iff {session : Session} {standing : Standing}
    (shows : session.Shows standing) :
    session.ticket.isSome = true ↔ session.phase = .awaitingFinalization := by
  rw [shows.phase, shows.ticket]
  cases standing <;> simp [Standing.phase, Standing.ticket?]

namespace Client

variable {config : Config} {client after : Client} {standing : Standing} {errand : Option Errand}

/-- While no action of the session waits, all its latches are free. -/
theorem Rests.free (rests : client.Rests) (agree : Agreement client.core client.waiting)
    {action : Action} (lifecycle : action.isLifecycle = true) :
    client.core.held action = false := by
  by_contra taken
  obtain ⟨pending, mem, rfl⟩ := agree.exists_of_held (by simpa using taken)
  obtain ⟨task, waits, rfl⟩ := List.mem_map.mp mem
  rw [rests task waits] at lifecycle
  cases lifecycle

theorem Rests.restsAt (rests : client.Rests) (agree : Agreement client.core client.waiting)
    (shows : client.core.session.value.Shows standing) :
    client.core.session.value.RestsAt standing where
  shows := shows
  held := shows.held_iff
  creating := agree.hidden .createOrJoin (rests.free agree rfl)
  finalizing := agree.hidden .finalize (rests.free agree rfl)
  switching := agree.hidden .switch (rests.free agree rfl)

/-- Nothing that was noted waits while no action of the session does. -/
theorem Stands.shows_of_rests (stands : client.Stands config standing errand)
    (rests : client.Rests) : client.core.session.value.Shows standing := by
  cases stands with
  | rests _ shows => exact shows
  | waits mem _ waits =>
      have lifecycle := waits.isLifecycle
      rw [rests _ mem] at lifecycle
      cases lifecycle

/-- What does not touch the session and its tasks leaves it where it stands. -/
theorem Stands.frame (stands : client.Stands config standing errand)
    (session : after.core.session = client.core.session)
    (tasks : ∀ task : Task, task.pending.action.isLifecycle = true →
      (task ∈ after.tasks ↔ task ∈ client.tasks)) : after.Stands config standing errand := by
  cases stands with
  | rests rests shows =>
      refine .rests (fun task mem => ?_) (by rwa [session])
      by_contra lifecycle
      rw [Bool.not_eq_false] at lifecycle
      rw [rests task ((tasks task lifecycle).mp mem)] at lifecycle
      cases lifecycle
  | waits mem only waits =>
      refine .waits ((tasks _ waits.isLifecycle).mpr mem) (fun task mem lifecycle => ?_)
        (by rwa [session])
      exact only task ((tasks task lifecycle).mp mem) lifecycle

/-- So does a task that is taken away and is none of the session. -/
theorem Stands.without (stands : client.Stands config standing errand) (numbered : client.Numbered)
    {number : Nat} {task : Task} (found : client.task? number = some task)
    (purchase : task.pending.action.isLifecycle = false) {core : Core}
    (session : core.session = client.core.session) :
    ({ client with core, tasks := client.without number } : Client).Stands config standing
      errand := by
  refine stands.frame session fun other lifecycle => ?_
  refine ⟨fun left => (mem_without.mp left).1, fun mem => mem_without.mpr ⟨mem, ?_⟩⟩
  rintro rfl
  rw [numbered.eq_of_number mem (mem_of_task? found) (number_of_task? found), lifecycle]
    at purchase
  cases purchase

end Client

namespace SessionActions

open Client (Step Outcome)

variable {config : Config} {client after : Client} {actions : SessionActions}
  {standing next : Standing}

/-- A step in which no action of the session is over, and that leaves what is noted. -/
theorem Explained.keep {past moments : List Moment}
    (explained : actions.Explained config client past)
    (none : ∀ moment ∈ moments, moment.lifecycleEnding? = none)
    (stands : ∀ standing errand, client.Stands config standing errand →
      after.Stands config standing errand) : actions.Explained config after (past ++ moments) := by
  obtain ⟨complete, standing, goes, stood⟩ := explained
  refine ⟨?_, standing, goes, stands _ _ stood⟩
  rw [complete, List.filterMap_append, List.filterMap_eq_nil_iff.mpr none, List.append_nil]

theorem Explained.conclude {past moments : List Moment}
    (complete : actions.deeds.map Deed.ending = past.filterMap Moment.lifecycleEnding?)
    (goes : Standing.Goes config .idle actions.deeds standing)
    {occasion : Occasion} {result : Result} (step : standing.Step config occasion result next)
    (shows : after.core.session.value.Shows next) (rests : after.Rests)
    (agree : Agreement after.core after.waiting)
    (ends : moments.filterMap Moment.lifecycleEnding? = [(occasion.command.action, result)]) :
    (actions.conclude ⟨occasion, result, after.core.session.value⟩).Explained config after
      (past ++ moments) := by
  refine ⟨?_, next, .step goes step (rests.restsAt agree shows), .rests rests shows⟩
  rw [List.filterMap_append, ends, ← complete]
  exact List.map_append

/-- Starting an action of the purchase form touches neither the session nor its tasks. -/
theorem Explained.start_purchase {command : Command} {gateway : Gateway} {outcome : Outcome}
    {past moments : List Moment} (explained : actions.Explained config client past)
    (purchase : command.action.isLifecycle = false)
    (stepped : client.Stepped (.start command gateway) moments after outcome) :
    actions.Explained config after (past ++ moments) := by
  cases stepped with
  | ended started =>
      refine explained.keep ?_ fun _ _ stands =>
        stands.frame (started.session_of_purchase purchase) fun _ _ => .rfl
      simp [purchase]
  | called started =>
      have session := started.session_of_purchase purchase
      rw [← started.action_of_suspended] at purchase
      -- The new task is none of the session.
      refine explained.keep (List.forall_mem_singleton.mpr (Moment.lifecycleEnding?_called _))
        fun _ _ stands => stands.frame session fun task own => ?_
      constructor
      · intro mem
        rcases List.mem_append.mp mem with old | new
        · exact old
        · rw [List.mem_singleton.mp new, purchase] at own
          cases own
      · exact List.mem_append_left _
  | answeredAtOnce started _ settled =>
      have session := started.session_of_purchase purchase
      rw [← started.action_of_suspended] at purchase
      refine explained.keep ?_ fun _ _ stands =>
        stands.frame ((settled.session_of_purchase purchase).trans session) fun _ _ => .rfl
      simp [purchase]

theorem Explained.start_lifecycle {command : Command} {gateway : Gateway} {outcome : Outcome}
    {past moments : List Moment} (explained : actions.Explained config client past)
    (same : client.core.config = config) (lifecycle : command.action.isLifecycle = true)
    (rests : client.Rests) (agree : Agreement client.core client.waiting)
    (agreeAfter : Agreement after.core after.waiting)
    (stepped : client.Stepped (.start command gateway) moments after outcome) :
    (actions.note client.core.registry.value (.start command gateway) outcome
      after.core.session.value).Explained config after (past ++ moments) := by
  obtain ⟨complete, standing, goes, stands⟩ := explained
  have shows := stands.shows_of_rests rests
  subst same
  cases stepped with
  | ended started =>
      obtain ⟨next, step, shows⟩ :=
        started.acts lifecycle (rests.free agree lifecycle) shows _ gateway
      simp only [note, lifecycle, if_true]
      refine .conclude complete goes step shows ?_ agreeAfter ?_
      · exact rests
      · simp [lifecycle]
  | @called _ _ _ pending started =>
      simp only [note, lifecycle, if_true]
      refine ⟨?_, standing, goes, .waits (List.mem_append_right _ List.mem_cons_self) ?_
        (started.waits lifecycle shows)⟩
      · rw [complete, List.filterMap_append,
          List.filterMap_cons_none (Moment.lifecycleEnding?_called pending), List.filterMap_nil,
          List.append_nil]
      · intro task mem own
        rcases List.mem_append.mp mem with old | new
        · rw [rests task old] at own
          cases own
        · exact List.mem_singleton.mp new
  | answeredAtOnce started answered settled =>
      have waits := started.waits lifecycle shows
      obtain ⟨next, step, shows⟩ := settled.acts waits answered
      -- Answered at once: the registry of the end is that of the start.
      rw [started.registry_of_suspended] at step
      simp only [note, lifecycle, if_true]
      refine .conclude complete goes step shows ?_ agreeAfter ?_
      · exact rests
      · simp [List.filterMap_cons, started.action_of_suspended, lifecycle]

theorem Explained.start {command : Command} {gateway : Gateway} {outcome : Outcome}
    {past moments : List Moment} (explained : actions.Explained config client past)
    (same : client.core.config = config)
    (inTurn : command.action.isLifecycle = true → client.Rests)
    (agree : Agreement client.core client.waiting) (agreeAfter : Agreement after.core after.waiting)
    (stepped : client.Stepped (.start command gateway) moments after outcome) :
    (actions.note client.core.registry.value (.start command gateway) outcome
      after.core.session.value).Explained config after (past ++ moments) := by
  cases lifecycle : command.action.isLifecycle with
  | false =>
      have unnoted : actions.note client.core.registry.value (.start command gateway) outcome
          after.core.session.value = actions := by
        cases stepped <;> simp [note, lifecycle]
      rw [unnoted]
      exact explained.start_purchase lifecycle stepped
  | true =>
      exact explained.start_lifecycle same lifecycle (inTurn lifecycle) agree agreeAfter stepped

theorem Explained.poll {number : Nat} {gateway : Gateway} {outcome : Outcome}
    {past moments : List Moment} (explained : actions.Explained config client past)
    (numbered : client.Numbered) (agreeAfter : Agreement after.core after.waiting)
    (stepped : client.Stepped (.poll number gateway) moments after outcome) :
    (actions.note client.core.registry.value (.poll number gateway) outcome
      after.core.session.value).Explained config after (past ++ moments) := by
  cases stepped with
  | unanswered => exact explained.keep (fun _ => nofun) fun _ _ stands => stands
  | nonePolled => exact explained.keep (fun _ => nofun) fun _ _ stands => stands
  | @answered _ _ task core answer result found answered settled =>
      have mem := Client.mem_of_task? found
      have elsewhere (purchase : task.pending.action.isLifecycle = false) :
          actions.Explained config { client with core, tasks := client.without number }
            (past ++ [.answered task.pending answer result]) := by
        refine explained.keep ?_ fun _ _ stands =>
          stands.without numbered found purchase (settled.session_of_purchase purchase)
        simp [purchase]
      obtain ⟨errand, deeds⟩ := actions
      obtain ⟨complete, standing, goes, stands⟩ := explained
      cases stands with
      | rests rests shows => exact elsewhere (rests task mem)
      | @waits errand pending noted only waits =>
          by_cases mine : errand.number = number
          · -- The task is the one that was noted, and with it no action of the session is left.
            obtain rfl : task = ⟨errand.number, pending⟩ :=
              numbered.eq_of_number noted mem ((Client.number_of_task? found).trans mine.symm)
            obtain ⟨next, step, shows⟩ := settled.acts waits answered
            simp only [note, mine, if_true]
            refine .conclude complete goes step shows (fun other left => ?_) agreeAfter ?_
            · obtain ⟨waited, different⟩ := Client.mem_without.mp left
              by_contra lifecycle
              rw [only other waited (by simpa using lifecycle)] at different
              exact different mine
            · have lifecycle := waits.isLifecycle
              rw [waits.action] at lifecycle
              simp [waits.action, lifecycle]
          · simp only [note, mine, if_false]
            apply elsewhere
            by_contra lifecycle
            rw [only task mem (by simpa using lifecycle)] at found
            exact mine (Client.number_of_task? found)

theorem Explained.drop {number : Nat} {outcome : Outcome} {past moments : List Moment}
    (explained : actions.Explained config client past) (numbered : client.Numbered)
    (inTurn : ∀ task ∈ client.task? number, task.pending.action.isLifecycle = false)
    (stepped : client.Stepped (.drop number) moments after outcome) :
    actions.Explained config after (past ++ moments) := by
  cases stepped with
  | noneDropped => exact explained.keep (fun _ => nofun) fun _ _ stands => stands
  | dropped found =>
      have purchase := inTurn _ found
      refine explained.keep ?_ fun _ _ stands =>
        stands.without numbered found purchase (Core.session_release _ purchase)
      exact List.forall_mem_singleton.mpr rfl

/-- The machine goes on explaining what is noted with each step. -/
theorem Explained.step {step : Step} {past : List Moment}
    (explained : actions.Explained config client past) (runs : Client.InRun config past client)
    (inTurn : client.InTurn step) :
    (actions.note client.core.registry.value step (client.step step).2.outcome
      (client.step step).1.core.session.value).Explained config (client.step step).1
      (past ++ client.moments step) := by
  have stepped := client.stepped step
  have agreeAfter := agreement_of_reached (runs.concat step).reached
  cases step with
  | start command gateway =>
      exact explained.start (config_of_reached runs.reached) inTurn
        (agreement_of_reached runs.reached) agreeAfter stepped
  | poll number gateway => exact explained.poll runs.numbered agreeAfter stepped
  | drop number => exact explained.drop runs.numbered inTurn stepped
  | pushRegistry snapshot =>
      exact explained.keep (List.forall_mem_singleton.mpr rfl) fun _ _ stands =>
        stands.frame rfl fun _ _ => .rfl
  | pushChat messages =>
      exact explained.keep (List.forall_mem_singleton.mpr rfl) fun _ _ stands =>
        stands.frame (Core.session_pushChat _ _) fun _ _ => .rfl

end SessionActions

theorem Client.Sequential.explained {config : Config} {client : Client} {actions : SessionActions}
    {past : List Moment} {steps : List Step} (sequential : client.Sequential steps)
    (runs : InRun config past client) (explained : actions.Explained config client past) :
    (client.notes actions steps).Explained config (client.run steps)
      (past ++ client.history steps) := by
  induction steps generalizing client actions past with
  | nil => rwa [history, List.append_nil]
  | cons step steps ih =>
      obtain ⟨inTurn, rest⟩ := sequential
      have explained := ih rest (runs.concat step) (explained.step runs inTurn)
      rwa [List.append_assoc] at explained

/-! ## The main statement -/

/-- How a run of a client is told by the machine. -/
structure Client.RefinesMachine (client : Client) (config : Config) (steps : List Step)
    (standing : Standing) : Prop where
  /-- The actions that are noted are all those of the session that are over, in order. -/
  complete : (client.deeds steps).map Deed.ending =
    (client.history steps).filterMap Moment.lifecycleEnding?
  /-- The machine takes a step for each of them, which tells its result, and where the session rests
  right after it. -/
  goes : Standing.Goes config .idle (client.deeds steps) standing
  /-- There it rests as long as no other action of the session waits. -/
  rests : (client.run steps).Rests → (client.run steps).core.session.value.RestsAt standing

/-- **Sequential runs.** In every run in which each action of the session is over before the next
one is started, and none is dropped, the actions of the session come to what the machine of three
states tells, and after each of them the session rests where the machine stands. -/
theorem sequential_run_refines_machine {config : Config} {client : Client}
    (new : Client.new config = .ok client) (steps : List Client.Step)
    (sequential : client.Sequential steps) :
    ∃ standing, client.RefinesMachine config steps standing := by
  have start : SessionActions.Explained {} config client [] := by
    obtain rfl := Client.eq_fresh_of_new new
    exact ⟨rfl, .idle, .start, .rests (fun _ => nofun) ⟨rfl, rfl⟩⟩
  obtain ⟨complete, standing, goes, stands⟩ :=
    sequential.explained (Client.inRun_of_new new []) start
  have agree := agreement_of_reached (Client.inRun_of_new new steps).reached
  exact ⟨standing, complete, goes, fun rests => rests.restsAt agree (stands.shows_of_rests rests)⟩

/-- A game is created and finalized. In between the host pushes a snapshot, the user fetches the
form of the purchase, and a switch is refused. -/
def creatingAndFinalizing : List Client.Step :=
  [.pushRegistry twoGames, .create .silent, .pushRegistry oneGame, .poll 0 .willing,
    .switch "k1" .willing, .finalize .silent, .start .loadSchema .willing, .poll 1 .willing]

/-- Then the session is active. -/
theorem active_after_creatingAndFinalizing :
    (Client.fresh {}).Sequential creatingAndFinalizing ∧
      (Client.fresh {}).RefinesMachine {} creatingAndFinalizing .active := by
  have sequential : (Client.fresh {}).Sequential creatingAndFinalizing := by decide
  obtain ⟨standing, refines⟩ :=
    sequential_run_refines_machine Client.new_default creatingAndFinalizing sequential
  have rests := refines.rests (by decide)
  have active : standing.phase = .active := rests.shows.phase.symm
  obtain rfl : standing = .active := by cases standing <;> first | rfl | cases active
  exact ⟨sequential, refines⟩

end GameClient
