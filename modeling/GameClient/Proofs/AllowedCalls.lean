import GameClient.Proofs.Credentials
import GameClient.Proofs.Trimming

/-!
# Calls that are allowed

Before a command calls the backend it checks what it was given and the state that it finds. What
these checks come to is said here of the calls themselves: `Core.Allows` lists, for each call, the
commands and the states that it may come from. A name or a code is what was typed without the
blanks around it, and not empty; a finalize has a complete ticket and positive numbers; a game that
is gone over to is known; the form is fetched once, and offers are objects that are made after it.

A command makes a call exactly if its latch is free and the call is allowed
(`Core.Started.calls_iff`). All checks come before the call, so an action that ends in a complaint
about its input has not called. The main statement is `calls_iff_allowed`.
-/

namespace GameClient

open Gateway (Call)
open Text (Trims)

/-! ## What is checked -/

namespace Session

/-- The request is cleaned: its fields are trimmed, and something is left of each. -/
inductive CreationRequest.Cleans : CreationRequest → CreationRequest → Prop where
  | new {typed nickname : String} (trims : Trims typed nickname) (named : nickname ≠ "") :
      Cleans (.new typed) (.new nickname)
  | join {typed nickname typedCode inviteCode : String} (trims : Trims typed nickname)
      (named : nickname ≠ "") (trimsCode : Trims typedCode inviteCode) (coded : inviteCode ≠ "") :
      Cleans (.join typed typedCode) (.join nickname inviteCode)

theorem CreationRequest.validated_eq_ok_iff {request clean : CreationRequest} :
    request.validated = .ok clean ↔ request.Cleans clean := by
  constructor
  · intro valid
    unfold validated at valid
    split at valid
    · split at valid
      · cases valid
      · next named =>
          obtain rfl := Except.ok.inj valid
          exact .new (Text.trims_trim _) named
    · split at valid
      · cases valid
      · next named =>
          split at valid
          · cases valid
          · next coded =>
              obtain rfl := Except.ok.inj valid
              exact .join (Text.trims_trim _) named (Text.trims_trim _) coded
  · rintro (⟨trims, named⟩ | ⟨trims, named, trimsCode, coded⟩)
    · obtain rfl := Text.trims_iff_eq_trim.mp trims
      exact if_neg named
    · obtain rfl := Text.trims_iff_eq_trim.mp trims
      obtain rfl := Text.trims_iff_eq_trim.mp trimsCode
      exact (if_neg named).trans (if_neg coded)

/-- Nothing that the backend needs to finalize a game is missing. -/
structure FinalizationParams.Usable (params : FinalizationParams) : Prop where
  inviteCode : params.inviteCode ≠ ""
  passcode : params.passcode ≠ ""
  finishTimeMs : 0 < params.finishTimeMs
  startAmount : 0 < params.startAmount

namespace GameSettings

variable {settings : GameSettings} {ticket : Ticket}

/-- The settings put together with a ticket, whatever they are. -/
def paramsWith (settings : GameSettings) (ticket : Ticket) : FinalizationParams where
  inviteCode := ticket.inviteCode
  passcode := ticket.passcode
  finishTimeMs := settings.finishTimeMs
  startAmount := settings.startAmount

theorem validate_eq_ok_iff :
    settings.validate = .ok () ↔ 0 < settings.finishTimeMs ∧ 0 < settings.startAmount := by
  rw [UInt64.pos_iff_ne_zero, UInt64.pos_iff_ne_zero]
  unfold validate
  split
  · next zero => simp [zero]
  · next positive =>
      split
      · next zero => simp [zero]
      · next other => simp [positive, other]

theorem usable_paramsWith_iff :
    (settings.paramsWith ticket).Usable ↔
      settings.validate = .ok () ∧ ticket.isComplete = true := by
  rw [validate_eq_ok_iff, Ticket.isComplete, Bool.and_eq_true, decide_eq_true_eq,
    decide_eq_true_eq]
  constructor
  · rintro ⟨code, passcode, time, amount⟩
    exact ⟨⟨time, amount⟩, code, passcode⟩
  · rintro ⟨⟨time, amount⟩, code, passcode⟩
    exact ⟨code, passcode, time, amount⟩

theorem finalizationParams_eq_ok_iff {params : FinalizationParams} :
    settings.finalizationParams ticket = .ok params ↔
      params = settings.paramsWith ticket ∧ params.Usable := by
  unfold finalizationParams
  constructor
  · intro fit
    split at fit
    · cases fit
    · next valid =>
        split at fit
        · next complete =>
            obtain rfl := Except.ok.inj fit
            exact ⟨rfl, usable_paramsWith_iff.mpr ⟨valid, complete⟩⟩
        · cases fit
  · rintro ⟨rfl, usable⟩
    obtain ⟨valid, complete⟩ := usable_paramsWith_iff.mp usable
    rw [valid]
    exact if_pos complete

end GameSettings

end Session

namespace Core

theorem paramsFor_eq_ok_iff {session : Session} {settings : Session.GameSettings}
    {params : Session.FinalizationParams} :
    paramsFor session settings = .ok params ↔
      session.phase = .awaitingFinalization ∧ ∃ ticket, session.ticket = some ticket ∧
        params = settings.paramsWith ticket ∧ params.Usable := by
  unfold paramsFor
  split
  · next awaiting =>
      cases held : session.ticket with
      | none => simp
      | some ticket => simp [awaiting, Session.GameSettings.finalizationParams_eq_ok_iff]
  · next other => simp [other]

/-! ## Which calls are allowed -/

/-- The calls that a command may make in a state. -/
inductive Allows (core : Core) : Command → Call → Prop where
  | newGame {request : Session.CreationRequest} {nickname : String}
      (cleans : request.Cleans (.new nickname)) :
      Allows core (.createOrJoin request) (.makeNewGame nickname)
  | joining {request : Session.CreationRequest} {nickname inviteCode : String}
      (cleans : request.Cleans (.join nickname inviteCode)) :
      Allows core (.createOrJoin request) (.joinExistingGame nickname inviteCode)
  | finalizing {command : Command} {settings : Session.GameSettings} {ticket : Session.Ticket}
      (asks : command.settings? core.config = some settings)
      (awaiting : core.session.value.phase = .awaitingFinalization)
      (held : core.session.value.ticket = some ticket)
      (usable : (settings.paramsWith ticket).Usable) :
      Allows core command (.finalizeGame (settings.paramsWith ticket))
  | switching {target : String} (named : target ≠ "")
      (known : core.registry.value.contains target = true)
      (fit : core.session.value.phase ∈ [.idle, .active]) :
      Allows core (.switch target) (.switchToGame target)
  | loading (missing : core.purchase.value.schema = none) :
      Allows core .loadSchema .getPurchaseSchema
  | offering {player : PlayerId} {purchaseData : Payload}
      (loaded : core.purchase.value.schema ≠ none) (object : purchaseData.isObject = true) :
      Allows core (.offer player purchaseData) (.makePurchaseOffer { purchaseData, player })

variable {core after : Core} {command : Command} {progress : Progress} {call : Call}

theorem canSwitch_iff {phase : Session.Phase} :
    phase.canSwitch = true ↔ phase ∈ [.idle, .active] := by
  cases phase <;> decide

theorem isReady_iff {purchase : Purchase} : purchase.isReady = true ↔ purchase.schema ≠ none :=
  Option.isSome_iff_ne_none

/-- A command that is suspended was allowed to make its call. -/
theorem Started.allows {pending : Pending}
    (started : Started core command after (.suspended pending)) :
    core.Allows command pending.call := by
  cases started with
  | @creating request clean _ valid =>
      have cleans := Session.CreationRequest.validated_eq_ok_iff.mp valid
      cases clean with
      | new => exact .newGame cleans
      | join => exact .joining cleans
  | finalizing _ asks fit =>
      obtain ⟨awaiting, ticket, held, rfl, usable⟩ := paramsFor_eq_ok_iff.mp fit
      exact .finalizing asks awaiting held usable
  | switching _ named fit known => exact .switching named known (canSwitch_iff.mp fit)
  | loading _ missing => exact .loading missing
  | offering _ ready object => exact .offering (isReady_iff.mp ready) object

/-- A command that is refused was not allowed to make any call. -/
theorem Refuses.not_allows {error : ActionError} (refuses : core.Refuses command error) :
    ¬ core.Allows command call := by
  intro allows
  -- Each refusal denies the very condition under which its call would be allowed.
  cases refuses with
  | creation invalid =>
      cases allows with
      | newGame cleans | joining cleans =>
          rw [Session.CreationRequest.validated_eq_ok_iff.mpr cleans] at invalid
          cases invalid
      | finalizing asks => cases asks
  | finalization same unfit =>
      cases allows with
      | finalizing asks awaiting held usable =>
          obtain rfl := Option.some.inj (same.symm.trans asks)
          rw [paramsFor_eq_ok_iff.mpr ⟨awaiting, _, held, rfl, usable⟩] at unfit
          cases unfit
      | _ => cases same
  | switch _ unfit =>
      cases allows with
      | switching _ _ fit =>
          rw [canSwitch_iff.mpr fit] at unfit
          cases unfit
      | finalizing asks => cases asks
  | target _ _ unknown =>
      cases allows with
      | switching _ known =>
          rw [known] at unknown
          cases unknown
      | finalizing asks => cases asks

/-- A command that is started makes a call exactly if its latch is free and the call is allowed. -/
theorem Started.calls_iff (started : Started core command after progress) :
    (∃ pending, progress = .suspended pending ∧ pending.call = call) ↔
      core.held command.action = false ∧ core.Allows command call := by
  constructor
  · rintro ⟨pending, rfl, rfl⟩
    have free := started.free_of_suspended
    rw [started.action_of_suspended] at free
    exact ⟨free, started.allows⟩
  · rintro ⟨free, allows⟩
    -- A command that ended without its call was turned away or refused, or had nothing to ask; the
    -- free latch and what is allowed rule each of these out. The others call, and what is allowed
    -- says what.
    cases started with
    | turnedAway taken =>
        rw [free] at taken
        cases taken
    | refused _ refuses => exact (refuses.not_allows allows).elim
    | offerRefused _ unfit =>
        cases allows with
        | offering loaded object =>
            rcases unfit with ⟨empty, -⟩ | ⟨-, malformed, -⟩
            · rw [isReady_iff.mpr loaded] at empty
              cases empty
            · rw [object] at malformed
              cases malformed
        | finalizing asks => cases asks
    | deselected =>
        cases allows with
        | switching named => exact absurd rfl named
        | finalizing asks => cases asks
    | schemaKept _ kept =>
        cases allows with
        | loading missing =>
            rw [missing] at kept
            cases kept
        | finalizing asks => cases asks
    | creating _ valid =>
        cases allows with
        | newGame cleans | joining cleans =>
            rw [Session.CreationRequest.validated_eq_ok_iff.mpr cleans] at valid
            obtain rfl := Except.ok.inj valid
            exact ⟨_, rfl, rfl⟩
        | finalizing asks => cases asks
    | finalizing _ same fit =>
        cases allows with
        | finalizing asks awaiting held usable =>
            obtain rfl := Option.some.inj (same.symm.trans asks)
            rw [paramsFor_eq_ok_iff.mpr ⟨awaiting, _, held, rfl, usable⟩] at fit
            obtain rfl := Except.ok.inj fit
            exact ⟨_, rfl, rfl⟩
        | _ => cases same
    | switching | loading | offering =>
        cases allows with
        | finalizing asks => cases asks
        | _ => exact ⟨_, rfl, rfl⟩

end Core

/-! ## Calls of a step -/

namespace Client

variable {client : Client} {step : Step} {call : Call}

theorem issued_of_suspended {command : Command} {pending : Pending}
    (suspended : (client.core.start command).value = .suspended pending) (gateway : Gateway) :
    (client.step (.start command gateway)).2.issued = some pending.call := by
  show (client.start command gateway).2.issued = _
  cases answered : gateway pending.call <;> simp only [start, suspended, answered]

theorem issued_iff_allows :
    (client.step step).2.issued = some call ↔
      ∃ command gateway, step = .start command gateway ∧
        client.core.held command.action = false ∧ client.core.Allows command call := by
  constructor
  · intro issued
    obtain ⟨command, gateway, pending, _, starts, started, calls⟩ := started_of_issued issued
    exact ⟨command, gateway, starts, started.calls_iff.mp ⟨pending, rfl, calls⟩⟩
  · rintro ⟨command, gateway, rfl, allowed⟩
    obtain ⟨pending, suspended, rfl⟩ := (client.core.started command).calls_iff.mpr allowed
    exact issued_of_suspended suspended gateway

end Client

/-! ## The main statement -/

/-- What can be said of the calls that the next step of a client makes. -/
structure Client.CallsAsAllowed (client : Client) : Prop where
  /-- A step makes a call exactly if it starts a command whose latch is free, and the call is
  allowed to this command in the state that it finds. -/
  issued : ∀ step call, (client.step step).2.issued = some call ↔
    ∃ command gateway, step = .start command gateway ∧
      client.core.held command.action = false ∧ client.core.Allows command call
  /-- An action that ends in a complaint about its input ends when it is started, and has not
  called. -/
  invalid : ∀ step error, (client.step step).2.outcome = .completed (.error (.validation error)) →
    (∃ command gateway, step = .start command gateway) ∧ (client.step step).2.issued = none

/-- **Calls.** In every state of every run a call is made exactly if a command that is not under way
may make it in this state, with clean texts, a usable ticket, a known game or a loaded form; and who
complains about the input has not called. -/
theorem calls_iff_allowed (client : Client) (steps : List Client.Step) :
    (client.run steps).CallsAsAllowed := by
  refine ⟨fun step call => Client.issued_iff_allows, fun step error complaint => ?_⟩
  rcases Client.cases_of_completed complaint with ⟨command, gateway, _, starts, -, silent⟩ | after
  · exact ⟨⟨command, gateway, starts⟩, silent⟩
  · obtain ⟨core, pending, answer, last, settled⟩ := after
    exact absurd rfl (settled.ne_validation error)

end GameClient
