import GameClient.Core.Pending

/-!
# Switching games

A session goes over to a known game by asking the backend to load it. Deselecting needs no backend,
but it is turned away while a switch is under way, whose answer would undo it.
-/

namespace GameClient.Core

def deselect (core : Core) : Turn Progress :=
  match core.acquire .switch with
  | .error pending => .turnedAway core pending
  | .ok core =>
    let (registry, cleared) := core.registry.updateIf Registry.clearActive
    let (session, _) := core.session.updateIf fun s =>
      if s.phase = .active then ({ s with phase := .idle }, true) else (s, false)
    -- No flag was set, so that the latch alone is given back. The error that is shown stays.
    { core := { core with registry, session }.freeLatch .switch
      log := [
        { level := .debug, message := "game deselected", fields := [("cleared", .flag cleared)] }]
      value := .finished (.ok .done) }

/-- Goes over to the game of a key, up to the call. -/
def startSwitch (core : Core) (target : String) : Turn Progress :=
  match core.acquire .switch with
  | .error pending => .turnedAway core pending
  | .ok core =>
    -- An unknown game is told of only where a switch would be possible.
    if core.session.value.phase.canSwitch = false then
      let error := ActionError.validation (.switchUnavailable core.session.value.phase.text)
      .refused (core.surface error) .switch error []
    else if core.registry.value.contains target = false then
      let error := ActionError.unknownHandle target
      .refused (core.surface error) .switch error
        [{ level := .error
           message := "switch target is not a known game"
           fields := [("public_key", .text target)] }]
    else
      { core := core.updateSession fun s => { s with switching := true }
        log := [
          { level := .info
            message := "switching game"
            fields := [("public_key", .text target)] }]
        value := .suspended (.switching target) }

/-- Selects a game in the registry, if it is known; says whether another was selected before. -/
def select (target : String) (registry : Registry) : Registry × Bool :=
  match registry.setActive (some target) with
  | .ok selected => (selected, registry.active ≠ some target)
  | .error _ => (registry, false)

/-- The backend has loaded the game. It is selected, unless a snapshot has dropped it in the
meantime. -/
def switched (core : Core) (target : String) : Turn Result :=
  match core.registry.value.setActive (some target) with
  | .error error =>
    let cleared := core.updateSession fun s => { s with switching := false }
    .ended (cleared.surface error) .switch (.error error)
      [{ level := .error
         message := "switched game vanished from registry"
         fields := [("public_key", .text target)] }]
  | .ok _ =>
    let (registry, changed) := core.registry.updateIf (select target)
    let selected : Core := { core with registry }
    .ended
      (selected.updateSession fun s =>
        { s with
          switching := false
          phase := if s.phase.canSwitch then .active else s.phase
          lastError := none })
      .switch (.ok .done)
      [{ level := .info
         message := "game switched"
         fields := [("public_key", .text target), ("changed", .flag changed)] }]

def switchFailed (core : Core) (failure : Gateway.Failure) : Turn Result :=
  let error := ActionError.ofFailure .switchToGame failure
  let cleared := core.updateSession fun s => { s with switching := false }
  .ended (cleared.surface error) .switch (.error error)
    [{ level := .warn
       message := "switch failed"
       fields := [("operation", .text Gateway.Operation.switchToGame.name),
         ("error", .text error.message)] }]

end GameClient.Core
