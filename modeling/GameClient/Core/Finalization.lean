import GameClient.Core.Pending

/-!
# Finalizing games

A game is finalized with the ticket that the session holds. Afterwards the ticket is gone, unless it
belongs to a game that was created in the meantime, so no game is finalized twice.
-/

namespace GameClient.Core

def paramsFor (session : Session) (settings : Session.GameSettings) :
    Except ValidationError Session.FinalizationParams :=
  if session.phase = .awaitingFinalization then
    match session.ticket with
    | none => .error .missingCredentials
    | some ticket => settings.finalizationParams ticket
  else .error (.notAwaitingFinalization session.phase.text)

/-- Finalizes the game that was created, up to the call. -/
def startFinalization (core : Core) (settings : Session.GameSettings) : Turn Progress :=
  match core.acquire .finalize with
  | .error pending => .turnedAway core pending
  | .ok core =>
    match paramsFor core.session.value settings with
    | .error error => .refused (core.surface (.validation error)) .finalize (.validation error) []
    | .ok params =>
      { core := core.updateSession fun s => { s with finalizing := true, phase := .finalizing }
        log := [
          { level := .info
            message := "finalizing game"
            fields := [("invite_code", .text params.inviteCode),
              ("finish_time_ms", .number params.finishTimeMs.toNat),
              ("start_amount", .number params.startAmount.toNat)] }]
        value := .suspended (.finalization params) }

def finalized (core : Core) (params : Session.FinalizationParams) : Turn Result :=
  .ended
    (core.updateSession fun s =>
      { s with
        finalizing := false
        phase := .active
        ticket := s.ticket.filter fun ticket => ticket.inviteCode ≠ params.inviteCode
        lastError := none })
    .finalize (.ok .done)
    [{ level := .info
       message := "game finalized"
       fields := [("invite_code", .text params.inviteCode)] }]

def finalizationFailed (core : Core) (failure : Gateway.Failure) : Turn Result :=
  let error := ActionError.ofFailure .finalizeGame failure
  -- A create that began meanwhile has taken the phase, and remembers `finalizing`.
  let restored := core.updateSession fun s =>
    { s with
      finalizing := false
      phase := if s.phase = .finalizing then .awaitingFinalization else s.phase }
  .ended (restored.surface error) .finalize (.error error)
    [{ level := .warn
       message := "finalize failed"
       fields := [("operation", .text Gateway.Operation.finalizeGame.name),
         ("error", .text error.message)] }]

end GameClient.Core
