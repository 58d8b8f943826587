import GameClient.Latch

/-!
# The latches of the client

There is one latch for each action.
-/

namespace GameClient

open Text (inspect inspectRecord)

/-- One latch for each action. -/
structure Latches where
  create : Latch := { action := .createOrJoin }
  finalize : Latch := { action := .finalize }
  switch : Latch := { action := .switch }
  schema : Latch := { action := .loadPurchaseSchema }
  offer : Latch := { action := .purchaseOffer }
  deriving DecidableEq, Repr

namespace Latches

def get (latches : Latches) : Action → Latch
  | .createOrJoin => latches.create
  | .finalize => latches.finalize
  | .switch => latches.switch
  | .loadPurchaseSchema => latches.schema
  | .purchaseOffer => latches.offer

/-- Puts a latch in the place of the latch of an action. -/
def put (latches : Latches) (latch : Latch) : Action → Latches
  | .createOrJoin => { latches with create := latch }
  | .finalize => { latches with finalize := latch }
  | .switch => { latches with switch := latch }
  | .loadPurchaseSchema => { latches with schema := latch }
  | .purchaseOffer => { latches with offer := latch }

theorem get_put (latches : Latches) (latch : Latch) (a b : Action) :
    (latches.put latch a).get b = if a = b then latch else latches.get b := by
  cases a <;> cases b <;> rfl

instance : Text.Inspect Latches where
  inspect latches :=
    inspectRecord "Latches"
      [("create", inspect latches.create), ("finalize", inspect latches.finalize),
       ("switch", inspect latches.switch), ("schema", inspect latches.schema),
       ("offer", inspect latches.offer)]

end Latches

end GameClient
