import GameClient.Core
import GameClient.Gateway

/-!
# Actions that wait for the backend

An action runs up to its call to the backend, and then either it is over or it is kept as a
`Pending` value, which holds all that the rest of the action needs.
-/

namespace GameClient

open Gateway (Call)

inductive Success where
  | session (outcome : Session.CreationOutcome)
  | schema (schema : PurchaseSchema)
  | done

abbrev Result : Type := Except ActionError Success

/-- An action that waits for the answer to its call. -/
inductive Pending where
  /-- Creates or joins a game; `prior` is the phase that the session was in before. -/
  | creation (request : Session.CreationRequest) (prior : Session.Phase)
  | finalization (params : Session.FinalizationParams)
  | switching (target : String)
  | schemaLoad
  | offering (offer : PurchaseOffer)

namespace Pending

def action : Pending → Action
  | creation .. => .createOrJoin
  | finalization _ => .finalize
  | switching _ => .switch
  | schemaLoad => .loadPurchaseSchema
  | offering _ => .purchaseOffer

def call : Pending → Call
  | creation (.new nickname) _ => .makeNewGame nickname
  | creation (.join nickname inviteCode) _ => .joinExistingGame nickname inviteCode
  | finalization params => .finalizeGame params
  | switching target => .switchToGame target
  | schemaLoad => .getPurchaseSchema
  | offering offer => .makePurchaseOffer offer

end Pending

/-- How far an action has come. -/
inductive Progress where
  | finished (result : Result)
  | suspended (pending : Pending)

namespace Turn

/-- An action that ends before it called the backend, without an effect. -/
def turnedAway (core : Core) (error : ActionError) : Turn Progress :=
  { core, value := .finished (.error error) }

/-- An action that ends before it called the backend and holds its latch. -/
def refused (core : Core) (action : Action) (error : ActionError) (log : List Event) :
    Turn Progress :=
  { core := core.release action, log, value := .finished (.error error) }

/-- An action that is over after its call. -/
def ended (core : Core) (action : Action) (result : Result) (log : List Event) : Turn Result :=
  { core := core.release action, log, value := result }

end Turn

end GameClient
