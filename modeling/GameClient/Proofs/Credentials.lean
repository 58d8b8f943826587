import GameClient.Proofs.Tickets

/-!
# Credentials at hand

Finalizing can be refused because credentials are missing, and one reason would be that the session
holds no ticket at all. This never happens: a session that waits to be finalized, or is being
finalized, holds the ticket of the game that was created last. What remains is a ticket that the
backend granted with an empty code or an empty passcode.

That the ticket fits the phase is the invariant `Prepared`, and which ticket it is the history tells
(`latest_and_unspent`). What is added here is when a step answers that credentials are missing. The
main statement is `awaiting_holds_latest_ticket`.
-/

namespace GameClient

open Session (Ticket GameSettings)

/-! ## When credentials are missing -/

theorem Session.Ticket.isComplete_eq_false_iff {ticket : Ticket} :
    ticket.isComplete = false ↔ ticket.inviteCode = "" ∨ ticket.passcode = "" := by
  rw [isComplete, Bool.and_eq_false_iff]
  simp

theorem Session.GameSettings.finalizationParams_eq_missingCredentials_iff
    {settings : GameSettings} {ticket : Ticket} :
    settings.finalizationParams ticket = .error .missingCredentials ↔
      settings.validate = .ok () ∧ ticket.isComplete = false := by
  unfold finalizationParams
  cases valid : settings.validate with
  | ok _ => cases complete : ticket.isComplete <;> simp
  | error error =>
      -- What is wrong with settings is never the credentials.
      have other : error ≠ .missingCredentials := by
        rintro rfl
        unfold validate at valid
        split at valid
        · cases valid
        · split at valid <;> cases valid
      simp [other]

namespace Core

theorem paramsFor_eq_missingCredentials_iff {session : Session} {settings : GameSettings} :
    paramsFor session settings = .error .missingCredentials ↔
      session.phase = .awaitingFinalization ∧ (session.ticket = none ∨
        ∃ ticket, session.ticket = some ticket ∧ settings.validate = .ok () ∧
          ticket.isComplete = false) := by
  unfold paramsFor
  split
  · next awaiting =>
      cases held : session.ticket with
      | none => simp [awaiting]
      | some ticket =>
          simp [awaiting, GameSettings.finalizationParams_eq_missingCredentials_iff]
  · next other => simp [other]

variable {core after : Core} {command : Command}

/-- No request is refused for missing credentials. -/
theorem validated_ne_missingCredentials (request : Session.CreationRequest) :
    request.validated ≠ .error .missingCredentials := by
  unfold Session.CreationRequest.validated
  split
  · split <;> exact nofun
  · split
    · exact nofun
    · split <;> exact nofun

/-- Starting a command answers that credentials are missing exactly if it finalizes, and what it
would send cannot be put together for that reason. -/
theorem Started.missingCredentials_iff {progress : Progress}
    (started : Started core command after progress) :
    progress = .finished (.error (.validation .missingCredentials)) ↔
      core.held .finalize = false ∧ ∃ settings, command.settings? core.config = some settings ∧
        paramsFor core.session.value settings = .error .missingCredentials := by
  constructor
  · rintro rfl
    -- A finalize with such settings is refused, if its latch is free; nothing else can come of it.
    cases started with
    | refused free refuses =>
        cases refuses with
        | creation invalid => exact absurd invalid (validated_ne_missingCredentials _)
        | finalization asks unfit =>
            rw [action_of_settings asks] at free
            exact ⟨free, _, asks, unfit⟩
    | offerRefused _ unfit => obtain ⟨-, other⟩ | ⟨-, -, other⟩ := unfit <;> cases other
  · rintro ⟨free, settings, asks, unfit⟩
    cases started with
    | turnedAway taken =>
        rw [action_of_settings asks, free] at taken
        cases taken
    | refused _ refuses =>
        cases refuses with
        | finalization same other =>
            obtain rfl := Option.some.inj (asks.symm.trans same)
            rw [Except.error.inj (other.symm.trans unfit)]
        | _ => cases asks
    | finalizing _ same fit =>
        obtain rfl := Option.some.inj (asks.symm.trans same)
        rw [fit] at unfit
        cases unfit
    | _ => cases asks

/-- An action whose call was answered never ends in a complaint about its input. -/
theorem Settled.ne_validation {pending : Pending} {answer : pending.call.Answer} {result : Result}
    (settled : Settled core pending answer after result) (error : ValidationError) :
    result ≠ .error (.validation error) := by
  rintro rfl
  rcases settled.error_cases with ⟨key, other⟩ | ⟨operation, failure, other⟩
  · cases other
  · cases failure <;> cases other

end Core

/-! ## Answers of a step -/

namespace Client

variable {client : Client} {step : Step} {result : Result}

/-- An action is over when it is started, and then it has not called, or when its call is
answered. -/
theorem cases_of_completed (completed : (client.step step).2.outcome = .completed result) :
    (∃ command gateway after, step = .start command gateway ∧
      client.core.Started command after (.finished result) ∧ (client.step step).2.issued = none) ∨
    ∃ core pending answer after, Core.Settled core pending answer after result := by
  rw [issued_eq]
  have stepped := client.stepped step
  rw [completed] at stepped
  generalize client.moments step = moments, (client.step step).1 = after at *
  cases stepped with
  | ended started => exact .inl ⟨_, _, _, rfl, started, rfl⟩
  | answeredAtOnce _ _ settled => exact .inr ⟨_, _, _, _, settled⟩
  | answered _ _ settled => exact .inr ⟨_, _, _, _, settled⟩

theorem outcome_of_finished {command : Command}
    (finished : (client.core.start command).value = .finished result) (gateway : Gateway) :
    (client.step (.start command gateway)).2.outcome = .completed result := by
  show (client.start command gateway).2.outcome = _
  simp only [start, finished]

end Client

/-! ## The main statement -/

/-- What a session holds to finalize with, where `history` is what has happened so far. -/
structure Client.HoldsCredentials (client : Client) (history : List Moment) : Prop where
  ticket : client.core.session.value.phase ∈ [.awaitingFinalization, .finalizing] →
    ∃ ticket, client.core.session.value.ticket = some ticket ∧ Latest ticket history
  /-- A step answers that credentials are missing exactly if it finalizes a game that waits for it,
  with settings that are valid, and the ticket of this game has an empty part. -/
  missing : ∀ step : Step,
    (client.step step).2.outcome = .completed (.error (.validation .missingCredentials)) ↔
      ∃ command gateway settings ticket, step = .start command gateway ∧
        command.settings? client.core.config = some settings ∧ settings.validate = .ok () ∧
        client.core.held .finalize = false ∧
        client.core.session.value.phase = .awaitingFinalization ∧
        client.core.session.value.ticket = some ticket ∧ Latest ticket history ∧
        (ticket.inviteCode = "" ∨ ticket.passcode = "")

/-- **Credentials.** In every state of every run, a session that waits to be finalized or is being
finalized holds the latest ticket. So credentials are missing only if that ticket came without
them. -/
theorem awaiting_holds_latest_ticket {config : Config} {client : Client}
    (new : Client.new config = .ok client) (steps : List Client.Step) :
    (client.run steps).HoldsCredentials (client.history steps) := by
  have reached := Client.reached new steps
  have prepared := prepared_of_reached reached
  have latest {ticket : Ticket}
      (held : (client.run steps).core.session.value.ticket = some ticket) :
      Latest ticket (client.history steps) := by
    rw [ticket_of_reached reached] at held
    exact (latest_and_unspent held).1
  have fits := prepared.fits
  refine ⟨?_, ?_⟩
  · intro phase
    have some : (client.run steps).core.session.value.ticket.isSome = true := by
      simp only [List.mem_cons, List.not_mem_nil, or_false] at phase
      rcases phase with own | own
      · rw [own] at fits
        exact fits
      · rw [own] at fits
        exact Option.isSome_of_any fits
    obtain ⟨ticket, held⟩ := Option.isSome_iff_exists.mp some
    exact ⟨ticket, held, latest held⟩
  · intro step
    constructor
    · intro answer
      rcases Client.cases_of_completed answer with ⟨command, gateway, _, rfl, started, -⟩ | after
      · obtain ⟨free, settings, asks, unfit⟩ := started.missingCredentials_iff.mp rfl
        obtain ⟨awaiting, ticket⟩ := Core.paramsFor_eq_missingCredentials_iff.mp unfit
        -- The ticket is there, since the session waits to be finalized.
        rw [awaiting] at fits
        rcases ticket with none | ⟨ticket, held, valid, empty⟩
        · rw [none] at fits
          cases fits
        · exact ⟨command, gateway, settings, ticket, rfl, asks, valid, free, awaiting, held,
            latest held, Ticket.isComplete_eq_false_iff.mp empty⟩
      · obtain ⟨core, pending, given, after, settled⟩ := after
        exact absurd rfl (settled.ne_validation _)
    · rintro ⟨command, gateway, settings, ticket, rfl, asks, valid, free, awaiting, held, -, empty⟩
      apply Client.outcome_of_finished
      refine (Core.started _ command).missingCredentials_iff.mpr ⟨free, settings, asks, ?_⟩
      refine Core.paramsFor_eq_missingCredentials_iff.mpr ⟨awaiting, .inr ⟨ticket, held, valid, ?_⟩⟩
      exact Ticket.isComplete_eq_false_iff.mpr empty

/-- A gateway that answers every call with success, and grants this ticket. -/
def Gateway.granting (ticket : Ticket) : Gateway :=
  fun call => some (({ ticket } : Gateway.Scripted).answer call)

/-- A ticket without a passcode is held, and cannot be used. -/
theorem credentials_missing_without_passcode :
    (((Client.fresh {}).run [.create (.granting ⟨"ABC123", ""⟩)]).step
      (.finalize .willing)).2.outcome =
        .completed (.error (.validation .missingCredentials)) ∧
    ∃ ticket, ((Client.fresh {}).run
        [.create (.granting ⟨"ABC123", ""⟩)]).core.session.value.ticket = some ticket ∧
      Latest ticket ((Client.fresh {}).history [.create (.granting ⟨"ABC123", ""⟩)]) :=
  ⟨rfl, (awaiting_holds_latest_ticket Client.new_default
    [.create (.granting ⟨"ABC123", ""⟩)]).ticket (by decide)⟩

end GameClient
