import GameClient.Host
import GameClient.Proofs.Atomicity

/-!
# Clients without a backend

Without a backend every call fails at once. So an action is over when it is started: it fails, and
leaves nothing but its error (`Core.Restores`), or it is a deselect, which makes no call. Whatever
is done and pushed, the client stays at rest (`Client.AtRest`): nothing is under way, the session is
idle and holds no ticket, and nothing is known of the purchase form. What the registry and the chat
show comes from the snapshots and the deselects alone.

The program that tries a configuration runs such a client. Its attempt to create a game fails, and
the error is what it prints last. The main statement is `offline_client_stays_idle`.
-/

namespace GameClient

/-! ## Turns of a core at rest -/

/-- No action is under way, and none has left anything but an error. -/
structure Core.AtRest (core : Core) : Prop where
  phase : core.session.value.phase = .idle
  ticket : core.session.value.ticket = none
  hidden : ∀ action, core.flag action = false
  free : ∀ action, core.held action = false
  schema : core.purchase.value.schema = none
  offersSent : core.purchase.value.offersSent = 0

/-- A command comes to what it can come to without a backend: it deselects, or it fails and leaves
nothing but its error. -/
inductive Core.Offline (core : Core) : Command → Core → Result → Prop where
  | deselected : Offline core (.switch "") core.deselect.core (.ok .done)
  | failed {command : Command} {after : Core} {error : ActionError} (calls : command ≠ .switch "")
      (restores : core.Restores after command.action error) (kept : after.hosted = core.hosted) :
      Offline core command after (.error error)

namespace Core

variable {core after : Core} {command : Command} {result : Result}

theorem atRest_fresh (config : Config) : (fresh config).AtRest :=
  ⟨rfl, rfl, fun action => by cases action <;> rfl, fun action => by cases action <;> rfl, rfl, rfl⟩

theorem Refuses.ne_deselect {error : ActionError} (refuses : core.Refuses command error) :
    command ≠ .switch "" := by
  rintro rfl
  cases refuses with
  | finalization asks => cases asks
  | switch named => exact named rfl
  | target named => exact named rfl

theorem Started.ne_deselect_of_suspended {pending : Pending}
    (started : core.Started command after (.suspended pending)) : command ≠ .switch "" := by
  rintro rfl
  cases started with
  | finalizing _ asks => cases asks
  | switching _ named => exact named rfl

/-- The backend did not do what an action asked for. -/
theorem Settled.error_of_failure {pending : Pending} {failure : Gateway.Failure}
    (settled : Settled core pending (.error failure) after result) :
    ∃ operation, result = .error (.ofFailure operation failure) := by
  cases settled <;> exact ⟨_, rfl⟩

namespace AtRest

/-- A turn that leaves the session alone, but for the error that is shown, and the purchase form and
the latches. -/
theorem of_same (rest : core.AtRest)
    (session : after.session.value =
      { core.session.value with lastError := after.session.value.lastError })
    (purchase : after.purchase.value = core.purchase.value)
    (held : ∀ action, after.held action = core.held action) : after.AtRest := by
  refine ⟨?_, ?_, fun action => ?_, fun action => ?_, ?_, ?_⟩
  · rw [session]
    exact rest.phase
  · rw [session]
    exact rest.ticket
  · rw [← rest.hidden action]
    cases action <;> simp only [flag, purchase] <;> rw [session]
  · rw [held, rest.free]
  · rw [purchase, rest.schema]
  · rw [purchase, rest.offersSent]

theorem of_restores {action : Action} {error : ActionError} (rest : core.AtRest)
    (restores : core.Restores after action error) : after.AtRest := by
  refine rest.of_same ?_ restores.purchase restores.others
  rw [restores.session]
  split <;> rfl

theorem of_deselect (rest : core.AtRest) : core.deselect.core.AtRest := by
  have free := rest.free .switch
  have purchase := purchase_deselect free
  refine rest.of_same ?_ (by rw [purchase]) (held_deselect free)
  rw [session_deselect free, rest.phase]
  rfl

theorem of_unpushed {client next : Client} (rest : client.core.AtRest)
    (unpushed : client.Unpushed next) : next.core.AtRest := by
  refine rest.of_same ?_ (by rw [unpushed.purchase]) fun action => ?_
  · rw [unpushed.session]
  · rw [held, unpushed.latches, held]

/-- A command that ends before its call. -/
theorem ended (rest : core.AtRest) (started : core.Started command after (.finished result)) :
    core.Offline command after result := by
  have fails {command : Command} {after : Core} {error : ActionError}
      (started : core.Started command after (.finished (.error error)))
      (begun : isTurnedAway (.error error) = false) (calls : command ≠ .switch "") :
      core.Offline command after (.error error) := by
    obtain ⟨restores, kept⟩ := started.restores_of_error begun (rest.hidden _)
    exact .failed calls restores kept
  cases started with
  | turnedAway taken => exact absurd (taken.symm.trans (rest.free _)) nofun
  | @refused _ error free refuses =>
      have begun : isTurnedAway (.error error) = false := by cases refuses <;> rfl
      exact fails (.refused free refuses) begun refuses.ne_deselect
  | offerRefused free unfit => exact fails (.offerRefused free unfit) rfl nofun
  | deselected => exact .deselected
  | schemaKept _ kept => exact absurd (kept.symm.trans rest.schema) nofun

/-- A command whose call fails at once. -/
theorem called {asked : Core} {pending : Pending} {failure : Gateway.Failure} (rest : core.AtRest)
    (started : core.Started command asked (.suspended pending))
    (settled : asked.Settled pending (.error failure) after result) :
    core.Offline command after result := by
  obtain ⟨operation, rfl⟩ := settled.error_of_failure
  have restores := settled.restores_of_error started rfl rfl (fun _ => rfl) (rest.hidden _)
  rw [started.action_of_suspended] at restores
  exact .failed started.ne_deselect_of_suspended restores
    (settled.hosted_of_error.trans started.hosted_of_suspended)

/-- Whatever a command comes to, the core is at rest afterwards. -/
theorem of_offline (rest : core.AtRest) (offline : core.Offline command after result) :
    after.AtRest := by
  cases offline with
  | deselected => exact rest.of_deselect
  | failed _ restores => exact rest.of_restores restores

end AtRest

theorem hosted_deselect (free : core.held .switch = false) :
    core.deselect.core.hosted =
      ⟨(core.registry.updateIf Registry.clearActive).1, core.feed, core.chat⟩ := by
  simp only [deselect, acquire_of_free free]
  rfl

theorem Offline.eq_deselect (offline : core.Offline (.switch "") after result) :
    after = core.deselect.core := by
  cases offline with
  | deselected => rfl
  | failed calls => exact absurd rfl calls

theorem Offline.restores_of_error {error : ActionError}
    (offline : core.Offline command after (.error error)) :
    core.Restores after command.action error ∧ after.hosted = core.hosted := by
  cases offline with
  | failed _ restores kept => exact ⟨restores, kept⟩

theorem Offline.isOk_iff (offline : core.Offline command after result) :
    (∃ success, result = .ok success) ↔ command = .switch "" := by
  cases offline with
  | deselected => exact iff_of_true ⟨_, rfl⟩ rfl
  | failed calls => exact iff_of_false nofun calls

end Core

/-! ## Steps of a client at rest -/

namespace Client

/-- The core is at rest and no action is under way. -/
structure AtRest (client : Client) : Prop where
  core : client.core.AtRest
  tasks : client.tasks = []

namespace Step

/-- A call that is made or waited for in this step finds no backend. -/
def Offline : Step → Prop
  | start _ gateway | poll _ gateway => gateway = Gateway.offline
  | _ => True

/-- The step deselects. -/
def isDeselect : Step → Bool
  | start (.switch target) _ => target = ""
  | _ => false

/-- The step pushes a snapshot or deselects. -/
def pushesOrDeselects (step : Step) : Bool := step.isPush || step.isDeselect

end Step

variable {client other : Client} {step : Step} {steps : List Step}

/-- What is started without a backend is over at once. -/
theorem AtRest.start (rest : client.AtRest) (command : Command) :
    ∃ result, (client.step (.start command .offline)).2.outcome = .completed result ∧
      (client.step (.start command .offline)).1.tasks = [] ∧
      client.core.Offline command (client.step (.start command .offline)).1.core result := by
  have stepped := client.stepped (.start command .offline)
  generalize client.moments (.start command .offline) = moments,
    (client.step (.start command .offline)).1 = after,
    (client.step (.start command .offline)).2.outcome = outcome at *
  cases stepped with
  | ended started => exact ⟨_, rfl, rest.tasks, rest.core.ended started⟩
  | called _ unanswered => cases unanswered
  | answeredAtOnce started answered settled =>
      obtain rfl := Option.some.inj answered
      exact ⟨_, rfl, rest.tasks, rest.core.called started settled⟩

theorem AtRest.step_poll (rest : client.AtRest) (number : Nat) (gateway : Gateway) :
    client.step (.poll number gateway) = (client, { outcome := .noTask }) := by
  simp only [step, poll, task?, rest.tasks, List.find?_nil]

theorem AtRest.step_drop (rest : client.AtRest) (number : Nat) :
    client.step (.drop number) = (client, { outcome := .noTask }) := by
  simp only [step, drop, task?, rest.tasks, List.find?_nil]

theorem atRest_of_push (rest : client.AtRest) (push : step.isPush = true) :
    (client.step step).1.AtRest :=
  have unpushed := client.unpushed_step push
  ⟨rest.core.of_unpushed unpushed, unpushed.tasks.trans rest.tasks⟩

theorem atRest_step (rest : client.AtRest) (offline : step.Offline) :
    (client.step step).1.AtRest := by
  cases step with
  | start command gateway =>
      obtain rfl : gateway = Gateway.offline := offline
      obtain ⟨_, -, tasks, offline⟩ := rest.start command
      exact ⟨rest.core.of_offline offline, tasks⟩
  | poll number gateway => rwa [rest.step_poll]
  | drop number => rwa [rest.step_drop]
  | pushRegistry snapshot => exact atRest_of_push rest rfl
  | pushChat messages => exact atRest_of_push rest rfl

theorem atRest_run (rest : client.AtRest) (offline : ∀ step ∈ steps, step.Offline) :
    (client.run steps).AtRest := by
  induction steps generalizing client with
  | nil => exact rest
  | cons step steps ih =>
      obtain ⟨now, later⟩ := List.forall_mem_cons.mp offline
      exact ih (atRest_step rest now) later

/-! ## What the registry and the chat come from -/

/-- A step that neither pushes nor deselects leaves the registry and the chat alone. -/
theorem hosted_of_other (rest : client.AtRest) (offline : step.Offline)
    (other : step.pushesOrDeselects = false) :
    (client.step step).1.core.hosted = client.core.hosted := by
  cases step with
  | start command gateway =>
      obtain rfl : gateway = Gateway.offline := offline
      obtain ⟨_, -, -, offline⟩ := rest.start command
      generalize (client.step _).1.core = after at offline ⊢
      cases offline with
      | deselected => cases other
      | failed _ _ kept => exact kept
  | poll number gateway => rw [rest.step_poll]
  | drop number => rw [rest.step_drop]
  | pushRegistry | pushChat => cases other

theorem step_of_isDeselect (deselects : step.isDeselect = true) :
    ∃ gateway, step = .start (.switch "") gateway := by
  unfold Step.isDeselect at deselects
  split at deselects
  · next target gateway =>
      obtain rfl : target = "" := by simpa using deselects
      exact ⟨gateway, rfl⟩
  · cases deselects

theorem AtRest.hosted_deselect (rest : client.AtRest) :
    (client.step (.start (.switch "") .offline)).1.core.hosted =
      ⟨(client.core.registry.updateIf Registry.clearActive).1, client.core.feed,
        client.core.chat⟩ := by
  obtain ⟨_, -, -, offline⟩ := rest.start (.switch "")
  rw [offline.eq_deselect, Core.hosted_deselect (rest.core.free .switch)]

/-- A step that does makes the same of them in clients that show the same. -/
theorem hosted_of_shared (rest : client.AtRest) (otherRest : other.AtRest) (offline : step.Offline)
    (shared : step.pushesOrDeselects = true)
    (same : client.core.hosted = other.core.hosted) :
    (client.step step).1.core.hosted = (other.step step).1.core.hosted := by
  rcases Bool.or_eq_true_iff.mp shared with push | deselects
  · exact hosted_step push same
  · obtain ⟨gateway, rfl⟩ := step_of_isDeselect deselects
    obtain rfl : gateway = Gateway.offline := offline
    obtain ⟨registry, feed, chat⟩ := Hosted.mk.inj same
    rw [rest.hosted_deselect, otherRest.hosted_deselect, registry, feed, chat]

/-- So in a run the other steps can be left out. -/
theorem hosted_run_offline (rest : client.AtRest) (otherRest : other.AtRest)
    (same : client.core.hosted = other.core.hosted) (offline : ∀ step ∈ steps, step.Offline) :
    (client.run steps).core.hosted =
      (other.run (steps.filter Step.pushesOrDeselects)).core.hosted := by
  -- Once a step is left out the clients differ, though not in what they show.
  induction steps generalizing client other with
  | nil => exact same
  | cons step steps ih =>
      obtain ⟨now, later⟩ := List.forall_mem_cons.mp offline
      have restAfter := atRest_step rest now
      cases shared : step.pushesOrDeselects with
      | true =>
          rw [List.filter_cons_of_pos shared]
          exact ih restAfter (atRest_step otherRest now)
            (hosted_of_shared rest otherRest now shared same) later
      | false =>
          rw [List.filter_cons_of_neg (by simp [shared])]
          exact ih restAfter otherRest ((hosted_of_other rest now shared).trans same) later

end Client

/-! ## The program that tries a configuration -/

theorem Client.new_of_valid {config : Config} (valid : config.validate = .ok ()) :
    Client.new config = .ok (fresh config) := by
  simp only [Client.new, Core.new, valid]
  rfl

namespace Host

variable {client : Client} {nickname : String}

/-- Why a game cannot be created under a nickname without a backend. -/
def creationError (nickname : String) : ActionError :=
  if Text.trim nickname = "" then .validation .missingNickname
  else .backendUnavailable .makeNewGame "Game creation not available in offline mode"

/-- What is printed of a client that has no games and shows this error. -/
def idleLines (error : ActionError) : List String :=
  ["Known games: 0", "Selected: No Key", "Session: idle", "Last error: " ++ error.message]

/-- What comes of the attempt to create a game under a nickname. -/
structure FailsToCreate (client : Client) (nickname : String) : Prop where
  answered : (client.step (.start (.createOrJoin (.new nickname)) .offline)).2.outcome =
    .completed (.error (creationError nickname))
  shown : (tryToCreate client nickname).1.core.session.value.lastError =
    some (creationError nickname).message
  described : describe (tryToCreate client nickname).1 = idleLines (creationError nickname)
  printed : ∀ options files environment,
    configFor options files environment = .ok client.core.config →
    options.nickname = some nickname →
    runWith options files environment =
      { code := 0
        output := lines
          (("create failed [" ++ (creationError nickname).category.label ++ "]: " ++
            (creationError nickname).message) :: idleLines (creationError nickname)) }

theorem answered_offline (rest : client.AtRest) (nickname : String) :
    (client.step (.start (.createOrJoin (.new nickname)) .offline)).2.outcome =
      .completed (.error (creationError nickname)) := by
  have free := rest.core.free .createOrJoin
  show (client.start _ _).2.outcome = _
  by_cases blank : Text.trim nickname = ""
  · simp only [Client.start, Core.start, Core.startCreation, Core.acquire_of_free free,
      Session.CreationRequest.validated, creationError, if_pos blank, Turn.refused]
  · simp only [Client.start, Core.start, Core.startCreation, Core.acquire_of_free free,
      Session.CreationRequest.validated, creationError, if_neg blank]
    rfl

theorem tryToCreate_offline (rest : client.AtRest) (nickname : String) :
    tryToCreate client nickname =
      ((client.step (.start (.createOrJoin (.new nickname)) .offline)).1,
        ["create failed [" ++ (creationError nickname).category.label ++ "]: " ++
          (creationError nickname).message]) := by
  simp only [tryToCreate, answered_offline rest]

theorem restores_tryToCreate (rest : client.AtRest) (nickname : String) :
    client.core.Restores (tryToCreate client nickname).1.core .createOrJoin
        (creationError nickname) ∧
      (tryToCreate client nickname).1.core.hosted = client.core.hosted := by
  obtain ⟨result, completed, -, offline⟩ := rest.start (.createOrJoin (.new nickname))
  rw [answered_offline rest] at completed
  obtain rfl := Client.Outcome.completed.inj completed
  rw [tryToCreate_offline rest]
  exact offline.restores_of_error

theorem bind_eq_ok {ε α β : Type} {first : Except ε α} {rest : α → Except ε β} {value : β}
    (done : first >>= rest = .ok value) : ∃ a, first = .ok a ∧ rest a = .ok value := by
  cases first with
  | error error => cases done
  | ok a => exact ⟨a, rfl, done⟩

/-- Only a configuration that can be used is used. -/
theorem valid_of_configFor {options : Options} {files : Directory}
    {environment : List (String × String)} {config : Config}
    (configured : configFor options files environment = .ok config) : config.validate = .ok () := by
  have checked : ∀ loaded : Config, (do
      (loaded.mergeVariables environment).2.mapError ConfigError.message
      (loaded.mergeVariables environment).1.validate.mapError ConfigError.message
      return (loaded.mergeVariables environment).1 : Except String Config) = .ok config →
      config.validate = .ok () := by
    intro loaded merged
    obtain ⟨_, -, merged⟩ := bind_eq_ok merged
    obtain ⟨_, checked, merged⟩ := bind_eq_ok merged
    obtain rfl := Except.ok.inj merged
    cases valid : (loaded.mergeVariables environment).1.validate with
    | ok _ => rfl
    | error error =>
        rw [valid] at checked
        cases checked
  unfold configFor at configured
  dsimp only at configured
  split at configured
  · exact checked _ configured
  · obtain ⟨loaded, -, merged⟩ := bind_eq_ok configured
    exact checked loaded merged

theorem failsToCreate (config : Config) (nickname : String) :
    FailsToCreate (.fresh config) nickname := by
  have rest : (Client.fresh config).AtRest := ⟨Core.atRest_fresh config, rfl⟩
  obtain ⟨restores, kept⟩ := restores_tryToCreate rest nickname
  have shown : (tryToCreate (.fresh config) nickname).1.core.session.value =
      { lastError := some (creationError nickname).message } :=
    restores.session
  obtain ⟨registry, -, -⟩ := Hosted.mk.inj kept
  have empty : (Client.fresh config).core.registry.value = {} := rfl
  have described : describe (tryToCreate (.fresh config) nickname).1 =
      idleLines (creationError nickname) := by
    rw [describe, shown, registry, empty]
    rfl
  refine ⟨answered_offline rest nickname, by rw [shown], described, ?_⟩
  intro options files environment configured named
  have new := Client.new_of_valid (valid_of_configFor configured)
  have new : Client.new (Client.fresh config).core.config = .ok (.fresh config) := new
  simp only [runWith, configured, new, named]
  rw [described, tryToCreate_offline rest]
  rfl

end Host

/-! ## The main statement -/

/-- What a run without a backend leads to. -/
structure Client.StaysIdle (client : Client) (steps : List Step) : Prop where
  rest : (client.run steps).AtRest
  /-- An action is over when it is started, and succeeds exactly if it is a deselect. -/
  completes : ∀ command, ∃ result,
    ((client.run steps).step (.start command .offline)).2.outcome = .completed result ∧
      ((∃ success, result = .ok success) ↔ command = .switch "")
  /-- The registry and the chat are what the snapshots and the deselects alone make of them. -/
  hosted : (client.run steps).core.hosted =
    (client.run (steps.filter Step.pushesOrDeselects)).core.hosted

/-- **Offline clients stay idle.** Without a backend a client is at rest after every run, and shows
what the snapshots and the deselects alone have made of it. So the program that tries to create a
game reports no games, no selection and an idle session, and the error that the attempt ended with.
-/
theorem offline_client_stays_idle {config : Config} (valid : config.validate = .ok ()) :
    ∃ client, Client.new config = .ok client ∧
      (∀ steps : List Client.Step, (∀ step ∈ steps, step.Offline) → client.StaysIdle steps) ∧
      ∀ nickname, Host.FailsToCreate client nickname := by
  have rest : (Client.fresh config).AtRest := ⟨Core.atRest_fresh config, rfl⟩
  refine ⟨.fresh config, Client.new_of_valid valid, fun steps offline => ?_,
    Host.failsToCreate config⟩
  have after := Client.atRest_run rest offline
  refine ⟨after, fun command => ?_, Client.hosted_run_offline rest rest rfl offline⟩
  obtain ⟨result, completed, -, offline⟩ := after.start command
  exact ⟨result, completed, offline.isOk_iff⟩

/-- A known game cannot be gone over to, and the attempt to create one is reported. -/
theorem offline_switch_leaves_selection :
    let steps : List Client.Step :=
      [.pushRegistry twoGames, .start (.switch "k2") .offline,
        .start .finalizeWithDefaults .offline]
    ((Client.fresh {}).run steps).AtRest ∧
      ((Client.fresh {}).run steps).core.registry.value.active = some "k1" ∧
      Host.runWith { nickname := some "Ada" } {} [] =
        { code := 0
          output := Host.lines
            ["create failed [Backend]: make_new_game unavailable: " ++
                "Game creation not available in offline mode",
              "Known games: 0", "Selected: No Key", "Session: idle",
              "Last error: make_new_game unavailable: " ++
                "Game creation not available in offline mode"] } := by
  intro steps
  obtain ⟨client, new, idle, fails⟩ := @offline_client_stays_idle {} rfl
  obtain rfl := Client.eq_fresh_of_new new
  have idle := idle steps (by simp [steps, Client.Step.Offline])
  refine ⟨idle.rest, ?_, ?_⟩
  · have registry := congrArg (fun hosted => hosted.registry.value.active) idle.hosted
    exact registry.trans (by decide)
  · rw [(fails "Ada").printed { nickname := some "Ada" } {} [] rfl rfl]
    rfl

end GameClient
