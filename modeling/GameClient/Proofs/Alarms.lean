import GameClient.Proofs.OfferAccounts

/-!
# Alarms in the log

Operators look at warnings and errors in the log. Each turn of the core writes its events next to
the result that it comes to, branch by branch, so it has to be shown that the two agree: `Alarms`
says which events above the level `info` an action that ends with an error is to write, and that
there are no others. It holds of a command that is started (`Core.alarms_start`), of an action that
goes on after its call (`Core.alarms_resume`), and so of every step (`Client.alarms_step`).

Over a run the warnings are then as many as the actions that failed at the backend, and the errors
as many as those whose game is not known. The main statement is `alarms_follow_outcomes`.
-/

namespace GameClient

/-! ### Events above the level of information -/

/-- The event is a warning or an error. -/
def Event.isLoud (event : Event) : Bool := event.level = .warn || event.level = .error

/-- The level at which operators are told of an error, if they are. -/
def ActionError.alarm? : ActionError → Option Level
  | backendRejected .. | backendUnavailable .. => some .warn
  | unknownHandle _ => some .error
  | validation _ | actionPending _ => none

/-- The event names what an error is about: the operation that failed, with the error as the user is
told it, or the key that is not known. -/
def Event.Tells (event : Event) : ActionError → Prop
  | .backendRejected operation reason =>
    ("operation", .text operation.name) ∈ event.fields ∧
      ("error", .text (ActionError.backendRejected operation reason).message) ∈ event.fields
  | .backendUnavailable operation reason =>
    ("operation", .text operation.name) ∈ event.fields ∧
      ("error", .text (ActionError.backendUnavailable operation reason).message) ∈ event.fields
  | .unknownHandle key => ("public_key", .text key) ∈ event.fields
  | .validation _ | .actionPending _ => True

/-- The events above the level `info` that go with the error which an action ends with, if it does:
one that tells of it at its level, or none. -/
inductive Alarms : List Event → Option ActionError → Prop where
  | quiet {error? : Option ActionError} (silent : error?.bind ActionError.alarm? = none) :
      Alarms [] error?
  | loud {event : Event} {error : ActionError} (level : error.alarm? = some event.level)
      (tells : event.Tells error) : Alarms [event] (some error)

/-- The error that a result is. -/
def Result.error? : Result → Option ActionError
  | .ok _ => none
  | .error error => some error

/-- The error that a command has ended with before its call. -/
def Progress.error? : Progress → Option ActionError
  | finished result => result.error?
  | suspended _ => none

/-- The error that an action has ended with. -/
def Client.Outcome.error? : Client.Outcome → Option ActionError
  | completed result => result.error?
  | _ => none

/-- There is one event at the level at which the error is told, and none at any other. -/
theorem Alarms.countP_eq {events : List Event} {error? : Option ActionError}
    (alarms : Alarms events error?) (level : Level) :
    events.countP (fun event => event.level = level) =
      (decide (error?.bind ActionError.alarm? = some level)).toNat := by
  cases alarms with
  | quiet silent => simp [silent]
  | @loud event error told =>
      by_cases same : event.level = level
      · simp [told, same]
      · simp [told, same]

/-- Warnings and errors are counted among the loud events. -/
theorem countP_filter_isLoud {level : Level} (loud : level = .warn ∨ level = .error)
    (log : List Event) :
    (log.filter Event.isLoud).countP (fun event => event.level = level) =
      log.countP (fun event => event.level = level) := by
  rw [List.countP_filter]
  apply List.countP_congr
  intro event _
  rcases loud with rfl | rfl <;> simp +contextual [Event.isLoud]

namespace Core

variable {core : Core}

/-! ### Turns of the core -/

/-- What is logged when a failure of the backend is told. -/
theorem alarms_ofFailure {message : String} {details : List (String × Detail)}
    {operation : Gateway.Operation} {failure : Gateway.Failure}
    (named : ("operation", .text operation.name) ∈ details)
    (told : ("error", .text (ActionError.ofFailure operation failure).message) ∈ details) :
    Alarms [{ level := .warn, message, fields := details }]
      (some (.ofFailure operation failure)) := by
  cases failure with
  | rejected reason => exact .loud rfl ⟨named, told⟩
  | unavailable reason => exact .loud rfl ⟨named, told⟩

theorem alarms_startCreation (core : Core) (request : Session.CreationRequest) :
    Alarms ((core.startCreation request).log.filter Event.isLoud)
      (core.startCreation request).value.error? := by
  unfold startCreation
  cases taken : core.held .createOrJoin with
  | true =>
      rw [acquire_of_held taken]
      exact .quiet rfl
  | false =>
      rw [acquire_of_free taken]
      cases request.validated with
      | error error => exact .quiet rfl
      | ok clean => exact .quiet rfl

theorem alarms_startFinalization (core : Core) (settings : Session.GameSettings) :
    Alarms ((core.startFinalization settings).log.filter Event.isLoud)
      (core.startFinalization settings).value.error? := by
  unfold startFinalization
  cases taken : core.held .finalize with
  | true =>
      rw [acquire_of_held taken]
      exact .quiet rfl
  | false =>
      rw [acquire_of_free taken]
      dsimp only
      cases paramsFor (core.latched .finalize).session.value settings with
      | error error => exact .quiet rfl
      | ok params => exact .quiet rfl

theorem alarms_deselect (core : Core) :
    Alarms (core.deselect.log.filter Event.isLoud) core.deselect.value.error? := by
  unfold deselect
  cases taken : core.held .switch with
  | true =>
      rw [acquire_of_held taken]
      exact .quiet rfl
  | false =>
      rw [acquire_of_free taken]
      exact .quiet rfl

theorem alarms_startSwitch (core : Core) (target : String) :
    Alarms ((core.startSwitch target).log.filter Event.isLoud)
      (core.startSwitch target).value.error? := by
  unfold startSwitch
  cases taken : core.held .switch with
  | true =>
      rw [acquire_of_held taken]
      exact .quiet rfl
  | false =>
      rw [acquire_of_free taken]
      dsimp only
      split
      · exact .quiet rfl
      · split
        · exact .loud rfl List.mem_cons_self
        · exact .quiet rfl

theorem alarms_startSchemaLoad (core : Core) :
    Alarms (core.startSchemaLoad.log.filter Event.isLoud) core.startSchemaLoad.value.error? := by
  unfold startSchemaLoad
  cases taken : core.held .loadPurchaseSchema with
  | true =>
      rw [acquire_of_held taken]
      exact .quiet rfl
  | false =>
      rw [acquire_of_free taken]
      dsimp only
      split
      · exact .quiet rfl
      · exact .quiet rfl

theorem alarms_startOffer (core : Core) (player : PlayerId) (purchaseData : Payload) :
    Alarms ((core.startOffer player purchaseData).log.filter Event.isLoud)
      (core.startOffer player purchaseData).value.error? := by
  unfold startOffer
  cases taken : core.held .purchaseOffer with
  | true =>
      rw [acquire_of_held taken]
      exact .quiet rfl
  | false =>
      rw [acquire_of_free taken]
      dsimp only
      split
      · exact .quiet rfl
      · split
        · exact .quiet rfl
        · exact .quiet rfl

/-- A command that is started is loud exactly if it ends at once since its game is not known. -/
theorem alarms_start (core : Core) (command : Command) :
    Alarms ((core.start command).log.filter Event.isLoud) (core.start command).value.error? := by
  cases command with
  | createOrJoin request => exact alarms_startCreation core request
  | finalize settings => exact alarms_startFinalization core settings
  | finalizeWithDefaults => exact alarms_startFinalization core core.config.finalize
  | switch target =>
      unfold start
      dsimp only
      split
      · exact alarms_deselect core
      · exact alarms_startSwitch core target
  | loadSchema => exact alarms_startSchemaLoad core
  | offer player purchaseData => exact alarms_startOffer core player purchaseData

theorem quiet_of_suspended {command : Command} {pending : Pending}
    (waits : (core.start command).value = .suspended pending) :
    (core.start command).log.filter Event.isLoud = [] := by
  have alarms := core.alarms_start command
  rw [waits] at alarms
  generalize (core.start command).log.filter Event.isLoud = events at *
  cases alarms
  rfl

theorem alarms_switched (core : Core) (target : String) :
    Alarms ((core.switched target).log.filter Event.isLoud)
      (core.switched target).value.error? := by
  unfold switched
  split
  · next error unknown =>
      -- The only error that selecting a game has is that its key is not known.
      obtain ⟨-, -, rfl⟩ := Registry.setActive_eq_error_iff.mp unknown
      exact .loud rfl List.mem_cons_self
  · exact .quiet rfl

/-- An action that goes on is loud exactly if the backend or the registry failed it. -/
theorem alarms_resume (core : Core) (pending : Pending) (answer : pending.call.Answer) :
    Alarms ((core.resume pending answer).log.filter Event.isLoud)
      (core.resume pending answer).value.error? := by
  match pending, answer with
  | .creation (.new _) _, .ok _ => exact .quiet rfl
  | .creation (.new _) _, .error _ => exact alarms_ofFailure (by simp) (by simp)
  | .creation (.join ..) _, .ok () => exact .quiet rfl
  | .creation (.join ..) _, .error _ => exact alarms_ofFailure (by simp) (by simp)
  | .finalization _, .ok () => exact .quiet rfl
  | .finalization _, .error _ => exact alarms_ofFailure (by simp) (by simp)
  | .switching target, .ok () => exact alarms_switched core target
  | .switching _, .error _ => exact alarms_ofFailure (by simp) (by simp)
  | .schemaLoad, .ok _ => exact .quiet rfl
  | .schemaLoad, .error _ => exact alarms_ofFailure (by simp) (by simp)
  | .offering _, .ok () => exact .quiet rfl
  | .offering _, .error _ => exact alarms_ofFailure (by simp) (by simp)

theorem quiet_pushRegistry (core : Core) (snapshot : RegistrySnapshot) :
    (core.pushRegistry snapshot).log.filter Event.isLoud = [] := by
  unfold pushRegistry missingSelection
  dsimp only
  split <;> rfl

theorem quiet_pushChat (core : Core) (messages : List Chat.Message) :
    (core.pushChat messages).log.filter Event.isLoud = [] := by
  unfold pushChat
  split <;> rfl

end Core

namespace Client

variable {client : Client}

/-! ### Steps of a client -/

theorem alarms_of_start (client : Client) (command : Command) (gateway : Gateway) :
    Alarms ((client.start command gateway).2.log.filter Event.isLoud)
      (client.start command gateway).2.outcome.error? := by
  cases value : (client.core.start command).value with
  | finished result =>
      have alarms := client.core.alarms_start command
      rw [value] at alarms
      simp only [start, value]
      exact alarms
  | suspended pending =>
      have quiet := Core.quiet_of_suspended value
      cases answered : gateway pending.call with
      | none =>
          simp only [start, value, answered, quiet]
          exact .quiet rfl
      | some answer =>
          -- The call is answered at once, and the loud events are those of the rest of the action.
          simp only [start, value, answered, List.filter_append, quiet, List.nil_append]
          exact Core.alarms_resume _ pending answer

theorem alarms_of_poll (client : Client) (number : Nat) (gateway : Gateway) :
    Alarms ((client.poll number gateway).2.log.filter Event.isLoud)
      (client.poll number gateway).2.outcome.error? := by
  cases found : client.task? number with
  | none =>
      simp only [poll, found]
      exact .quiet rfl
  | some task =>
      cases answered : gateway task.pending.call with
      | none =>
          simp only [poll, found, answered]
          exact .quiet rfl
      | some answer =>
          simp only [poll, found, answered]
          exact client.core.alarms_resume task.pending answer

theorem alarms_of_drop (client : Client) (number : Nat) :
    Alarms ((client.drop number).2.log.filter Event.isLoud)
      (client.drop number).2.outcome.error? := by
  unfold drop
  split
  · exact .quiet rfl
  · exact .quiet rfl

/-- The warnings and errors of a step are those of the error that it ends an action with. -/
theorem alarms_step (client : Client) (step : Step) :
    Alarms ((client.step step).2.log.filter Event.isLoud) (client.step step).2.outcome.error? := by
  cases step with
  | start command gateway => exact client.alarms_of_start command gateway
  | poll number gateway => exact client.alarms_of_poll number gateway
  | drop number => exact client.alarms_of_drop number
  | pushRegistry snapshot =>
      show Alarms ((client.core.pushRegistry snapshot).log.filter Event.isLoud) none
      rw [Core.quiet_pushRegistry]
      exact .quiet rfl
  | pushChat messages =>
      show Alarms ((client.core.pushChat messages).log.filter Event.isLoud) none
      rw [Core.quiet_pushChat]
      exact .quiet rfl

/-! ### What is promised -/

/-- An action has failed since its game is not known. -/
def Outcome.missesGame : Outcome → Bool
  | completed (.error (.unknownHandle _)) => true
  | _ => false

/-- What is promised of the log of a step. -/
structure Report.AlarmsTruly (report : Report) : Prop where
  /-- There is one warning if an action has failed at the backend, and else none; -/
  warnings : report.log.countP (fun event => event.level = .warn) =
    report.outcome.failsAtBackend.toNat
  /-- there is one error if its game is not known, and else none; -/
  errors : report.log.countP (fun event => event.level = .error) = report.outcome.missesGame.toNat
  /-- so whatever else comes of the step, nothing is logged above the level `info`. -/
  quiet : report.outcome.failsAtBackend = false → report.outcome.missesGame = false →
    ∀ event ∈ report.log, event.level = .debug ∨ event.level = .info
  /-- What is logged above it tells of the error that the action ended with. -/
  tells : ∀ event ∈ report.log, event.isLoud = true →
    ∃ error, report.outcome = .completed (.error error) ∧ event.Tells error

/-- What is promised of the log of a run. -/
structure AlarmsTruly (client : Client) (steps : List Step) : Prop where
  /-- Each step keeps the promise, -/
  each : ∀ report ∈ client.reports steps, report.AlarmsTruly
  /-- so in all each failure at the backend is reported once, -/
  warnings : ((client.reports steps).flatMap Report.log).countP (fun event => event.level = .warn) =
    (client.reports steps).countP fun report => report.outcome.failsAtBackend
  /-- and each game that is not known is. -/
  errors : ((client.reports steps).flatMap Report.log).countP (fun event => event.level = .error) =
    (client.reports steps).countP fun report => report.outcome.missesGame

theorem decide_alarm?_eq_warn (outcome : Outcome) :
    decide (outcome.error?.bind ActionError.alarm? = some .warn) = outcome.failsAtBackend := by
  cases outcome with
  | completed result =>
      cases result with
      | ok success => rfl
      | error error => cases error <;> rfl
  | _ => rfl

theorem decide_alarm?_eq_error (outcome : Outcome) :
    decide (outcome.error?.bind ActionError.alarm? = some .error) = outcome.missesGame := by
  cases outcome with
  | completed result =>
      cases result with
      | ok success => rfl
      | error error => cases error <;> rfl
  | _ => rfl

/-- The error that an action ended with, if there is one. -/
theorem eq_completed_of_error? {outcome : Outcome} {error : ActionError}
    (ended : outcome.error? = some error) : outcome = .completed (.error error) := by
  cases outcome with
  | completed result =>
      cases result with
      | ok success => cases ended
      | error other =>
          obtain rfl := Option.some.inj ended
          rfl
  | _ => cases ended

theorem alarmsTruly_of_alarms {report : Report}
    (alarms : Alarms (report.log.filter Event.isLoud) report.outcome.error?) :
    report.AlarmsTruly := by
  have warnings : report.log.countP (fun event => event.level = .warn) =
      report.outcome.failsAtBackend.toNat := by
    rw [← countP_filter_isLoud (.inl rfl), alarms.countP_eq, decide_alarm?_eq_warn]
  have errors : report.log.countP (fun event => event.level = .error) =
      report.outcome.missesGame.toNat := by
    rw [← countP_filter_isLoud (.inr rfl), alarms.countP_eq, decide_alarm?_eq_error]
  refine ⟨warnings, errors, ?_, ?_⟩
  · intro reached known event mem
    rw [reached, Bool.toNat_false, List.countP_eq_zero] at warnings
    rw [known, Bool.toNat_false, List.countP_eq_zero] at errors
    have noWarning := warnings event mem
    have noError := errors event mem
    cases level : event.level <;> simp [level] at noWarning noError ⊢
  · intro event mem loud
    have heard : event ∈ report.log.filter Event.isLoud := List.mem_filter.mpr ⟨mem, loud⟩
    generalize report.log.filter Event.isLoud = events, ended : report.outcome.error? = error? at *
    cases alarms with
    | quiet => cases heard
    | loud _ tells =>
        obtain rfl := List.mem_singleton.mp heard
        exact ⟨_, eq_completed_of_error? ended, tells⟩

/-- What is said of the levels in a run is the sum of what is said of its steps. -/
theorem countP_level_reports {level : Level} {happens : Report → Bool} {reports : List Report}
    (each : ∀ report ∈ reports,
      report.log.countP (fun event => event.level = level) = (happens report).toNat) :
    (reports.flatMap Report.log).countP (fun event => event.level = level) =
      reports.countP happens := by
  induction reports with
  | nil => rfl
  | cons report rest ih =>
      obtain ⟨now, later⟩ := List.forall_mem_cons.mp each
      rw [List.flatMap_cons, List.countP_append, now, ih later, List.countP_cons]
      cases happens report with
      | false => exact Nat.zero_add _
      | true => exact Nat.add_comm _ _

theorem report_mem_cases {client : Client} {steps : List Step} {report : Report}
    (mem : report ∈ client.reports steps) :
    ∃ (before : Client) (step : Step), report = (before.step step).2 := by
  induction steps generalizing client with
  | nil => cases mem
  | cons step steps ih =>
      rcases List.mem_cons.mp mem with rfl | later
      · exact ⟨client, step, rfl⟩
      · exact ih later

end Client

/-- **Alarms.** In every run a step logs one warning if it ends an action that failed at the
backend, one error if it ends a switch to a game that is not known, and otherwise nothing above the
level of information. -/
theorem alarms_follow_outcomes (client : Client) (steps : List Client.Step) :
    client.AlarmsTruly steps := by
  have each : ∀ report ∈ client.reports steps, report.AlarmsTruly := by
    intro report mem
    obtain ⟨before, step, rfl⟩ := Client.report_mem_cases mem
    exact Client.alarmsTruly_of_alarms (before.alarms_step step)
  refine ⟨each, ?_, ?_⟩
  · apply Client.countP_level_reports
    intro report mem
    exact (each report mem).warnings
  · apply Client.countP_level_reports
    intro report mem
    exact (each report mem).errors

end GameClient
