import GameClient.Text.Inspect

/-!
# User actions

What a user can have under way at the backend. Of each action at most one is under way at a time;
creating a game and joining one count as the same action, and so do switching and deselecting.
-/

namespace GameClient

/-- An action of the user that the backend has to answer. -/
inductive Action where
  | createOrJoin
  | finalize
  | switch
  | loadPurchaseSchema
  | purchaseOffer
  deriving DecidableEq, Repr

namespace Action

def all : List Action := [createOrJoin, finalize, switch, loadPurchaseSchema, purchaseOffer]

/-- What an action is called in a message. -/
def text : Action → String
  | createOrJoin => "create or join"
  | finalize => "finalize"
  | switch => "switch"
  | loadPurchaseSchema => "load purchase schema"
  | purchaseOffer => "purchase offer"

instance : Text.Inspect Action where
  inspect
    | createOrJoin => "CreateOrJoin"
    | finalize => "Finalize"
    | switch => "Switch"
    | loadPurchaseSchema => "LoadPurchaseSchema"
    | purchaseOffer => "PurchaseOffer"

end Action

end GameClient
