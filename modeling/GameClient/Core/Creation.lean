import GameClient.Core.Pending

/-!
# Creating and joining games

While the backend creates or joins a game the session is in the phase `creating`. If that fails, the
phase from before comes back, unless another action has moved the session on in the meantime.
-/

namespace GameClient.Core

open Gateway (Call)
open Text (inspect)

def startCreation (core : Core) (request : Session.CreationRequest) : Turn Progress :=
  match core.acquire .createOrJoin with
  | .error pending => .turnedAway core pending
  | .ok core =>
    match request.validated with
    | .error error =>
      .refused (core.surface (.validation error)) .createOrJoin (.validation error) []
    | .ok request =>
      let prior := core.session.value.phase
      { core := core.updateSession fun s => { s with creating := true, phase := .creating }
        log := [
          { level := .info
            message := "session creation started"
            fields := [("from", .text (inspect prior)), ("nickname", .text request.nickname)] }]
        value := .suspended (.creation request prior) }

/-- A game was created: it waits to be finalized with the ticket. -/
def created (core : Core) (ticket : Session.Ticket) : Turn Result :=
  .ended
    (core.updateSession fun s =>
      { s with
        creating := false
        phase := .awaitingFinalization
        ticket := some ticket
        lastError := none })
    .createOrJoin (.ok (.session (.created ticket)))
    [{ level := .info
       message := "game created; awaiting finalization"
       fields := [("invite_code", .text ticket.inviteCode)] }]

/-- A game was joined: there is nothing to finalize. -/
def joined (core : Core) : Turn Result :=
  .ended
    (core.updateSession fun s =>
      { s with creating := false, phase := .active, ticket := none, lastError := none })
    .createOrJoin (.ok (.session .joined))
    [{ level := .info, message := "joined existing game" }]

def creationFailed (core : Core) (prior : Session.Phase) (operation : Gateway.Operation)
    (failure : Gateway.Failure) : Turn Result :=
  let error := ActionError.ofFailure operation failure
  -- The phase from before the call comes back, whatever was selected or deselected meanwhile.
  let restored := core.updateSession fun s =>
    { s with creating := false, phase := if s.phase = .creating then prior else s.phase }
  .ended (restored.surface error) .createOrJoin (.error error)
    [{ level := .warn
       message := "session creation failed"
       fields := [("operation", .text operation.name), ("error", .text error.message)] }]

end GameClient.Core
