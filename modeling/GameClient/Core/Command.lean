import GameClient.Core.Creation
import GameClient.Core.Finalization
import GameClient.Core.Purchasing
import GameClient.Core.Switching

/-!
# Commands

What a user can tell the client to do. A command is started; if it needs the backend it is then
suspended, and later resumed with the answer to its call, or abandoned.
-/

namespace GameClient

inductive Command where
  | createOrJoin (request : Session.CreationRequest)
  | finalize (settings : Session.GameSettings)
  /-- Finalize with the settings of the configuration. -/
  | finalizeWithDefaults
  /-- Go over to the game of a key; the empty key deselects. -/
  | switch (target : String)
  | loadSchema
  | offer (player : PlayerId) (purchaseData : Payload)

def Command.action : Command → Action
  | createOrJoin _ => .createOrJoin
  | finalize _ | finalizeWithDefaults => .finalize
  | switch _ => .switch
  | loadSchema => .loadPurchaseSchema
  | offer .. => .purchaseOffer

namespace Core

/-- Starts a command and runs it up to its call. -/
def start (core : Core) : Command → Turn Progress
  | .createOrJoin request => core.startCreation request
  | .finalize settings => core.startFinalization settings
  | .finalizeWithDefaults => core.startFinalization core.config.finalize
  | .switch target => if target = "" then core.deselect else core.startSwitch target
  | .loadSchema => core.startSchemaLoad
  | .offer player purchaseData => core.startOffer player purchaseData

/-- Goes on with an action when its call is answered. -/
def resume (core : Core) : (pending : Pending) → pending.call.Answer → Turn Result
  | .creation (.new _) prior, answer =>
    match answer with
    | .ok ticket => core.created ticket
    | .error failure => core.creationFailed prior .makeNewGame failure
  | .creation (.join ..) prior, answer =>
    match answer with
    | .ok () => core.joined
    | .error failure => core.creationFailed prior .joinExistingGame failure
  | .finalization params, answer =>
    match answer with
    | .ok () => core.finalized params
    | .error failure => core.finalizationFailed failure
  | .switching target, answer =>
    match answer with
    | .ok () => core.switched target
    | .error failure => core.switchFailed failure
  | .schemaLoad, answer =>
    match answer with
    | .ok schema => core.schemaLoaded schema
    | .error failure => core.schemaLoadFailed failure
  | .offering offer, answer =>
    match answer with
    | .ok () => core.offerTaken offer
    | .error failure => core.offerFailed offer failure

def abandon (core : Core) (pending : Pending) : Core := core.release pending.action

end Core

end GameClient
