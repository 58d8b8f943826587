import GameClient.Text.Inspect

/-!
# Operations of the backend

The backend answers six operations. Each is one request with one reply; a request that fails is
either refused by the backend or does not reach it.
-/

namespace GameClient.Gateway

open Text (inspect inspectRecord)

/-- What the backend can be asked to do. -/
inductive Operation where
  | makeNewGame
  | joinExistingGame
  | finalizeGame
  | switchToGame
  | getPurchaseSchema
  | makePurchaseOffer
  deriving DecidableEq, Repr

namespace Operation

def all : List Operation :=
  [makeNewGame, joinExistingGame, finalizeGame, switchToGame, getPurchaseSchema, makePurchaseOffer]

/-- The name that the backend knows an operation by. -/
def name : Operation → String
  | makeNewGame => "make_new_game"
  | joinExistingGame => "join_existing_game"
  | finalizeGame => "finalize_game"
  | switchToGame => "switch_to_game"
  | getPurchaseSchema => "get_purchase_schema"
  | makePurchaseOffer => "make_purchase_offer"

def ofName? (name : String) : Option Operation := all.find? fun operation => operation.name == name

instance : Text.Inspect Operation where
  inspect
    | makeNewGame => "MakeNewGame"
    | joinExistingGame => "JoinExistingGame"
    | finalizeGame => "FinalizeGame"
    | switchToGame => "SwitchToGame"
    | getPurchaseSchema => "GetPurchaseSchema"
    | makePurchaseOffer => "MakePurchaseOffer"

end Operation

/-- Why the backend did not do what it was asked. -/
inductive Failure where
  /-- The backend ran the operation and refused it. -/
  | rejected (reason : String)
  /-- The request did not reach the backend. -/
  | unavailable (reason : String)
  deriving DecidableEq, Repr

namespace Failure

def message : Failure → String
  | rejected reason => "rejected: " ++ reason
  | unavailable reason => "unavailable: " ++ reason

instance : Text.Inspect Failure where
  inspect
    | rejected reason => inspectRecord "Rejected" [("reason", inspect reason)]
    | unavailable reason => inspectRecord "Unavailable" [("reason", inspect reason)]

end Failure

end GameClient.Gateway
