import GameClient.Purchase
import GameClient.Session

/-!
# The gateway

The client reaches the backend through a gateway and asks for one thing at a time. A gateway is
given by what it says at a moment to each call: nothing yet, a reply, or that the call failed.
-/

namespace GameClient

namespace Gateway

open Session (Ticket FinalizationParams)

inductive Call where
  | makeNewGame (nickname : String)
  | joinExistingGame (nickname inviteCode : String)
  | finalizeGame (params : FinalizationParams)
  | switchToGame (publicKey : String)
  | getPurchaseSchema
  | makePurchaseOffer (offer : PurchaseOffer)

def Call.operation : Call → Operation
  | makeNewGame _ => .makeNewGame
  | joinExistingGame .. => .joinExistingGame
  | finalizeGame _ => .finalizeGame
  | switchToGame _ => .switchToGame
  | getPurchaseSchema => .getPurchaseSchema
  | makePurchaseOffer _ => .makePurchaseOffer

/-- What the backend replies to a call that succeeds. -/
abbrev Call.Reply : Call → Type
  | makeNewGame _ => Ticket
  | joinExistingGame .. => Unit
  | finalizeGame _ => Unit
  | switchToGame _ => Unit
  | getPurchaseSchema => PurchaseSchema
  | makePurchaseOffer _ => Unit

abbrev Call.Answer (call : Call) : Type := Except Failure call.Reply

end Gateway

/-- What the backend says at a moment to each call; `none` if it has not answered yet. -/
def Gateway : Type := (call : Gateway.Call) → Option call.Answer

namespace Gateway

/-- What is not to be had without a backend. -/
def offlineSubject : Operation → String
  | .makeNewGame => "Game creation"
  | .joinExistingGame => "Joining games"
  | .finalizeGame => "Finalization"
  | .switchToGame => "Switching games"
  | .getPurchaseSchema => "Purchase schema"
  | .makePurchaseOffer => "Purchase offers"

/-- The gateway that is used without a backend: every call fails at once. -/
def offline : Gateway := fun call =>
  some (.error (.unavailable (offlineSubject call.operation ++ " not available in offline mode")))

end Gateway

end GameClient
