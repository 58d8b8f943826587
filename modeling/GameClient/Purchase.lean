import GameClient.Json.Payload

/-!
# The purchase view

Offers are filled into a form that the backend describes. The client fetches the description once,
hands it on, and counts the offers that the backend took.
-/

namespace GameClient

open Text (inspect inspectRecord inspectWrapped)

structure PlayerId where
  number : UInt64
  deriving DecidableEq, Repr

def PlayerId.text (player : PlayerId) : String := inspect player.number

instance : Text.Inspect PlayerId where
  inspect player := inspectWrapped "PlayerId" (inspect player.number)

structure PurchaseSchema where
  form : Payload

instance : Text.Inspect PurchaseSchema where
  inspect schema := inspectWrapped "PurchaseSchema" (inspect schema.form)

/-- A filled form and the player who offers. -/
structure PurchaseOffer where
  purchaseData : Payload
  player : PlayerId

instance : Text.Inspect PurchaseOffer where
  inspect offer :=
    inspectRecord "PurchaseOffer"
      [("purchase_data", inspect offer.purchaseData), ("from", inspect offer.player)]

structure Purchase where
  schema : Option PurchaseSchema := none
  loadingSchema : Bool := false
  submitting : Bool := false
  /-- The offers that the backend took; the count stays at its largest value. -/
  offersSent : UInt32 := 0

namespace Purchase

/-- The form can be filled. -/
def isReady (purchase : Purchase) : Bool := purchase.schema.isSome

def greatestCount : Nat := 4294967295

/-- One more than a count, unless it is the largest. -/
def countOne (count : UInt32) : UInt32 := if count.toNat < greatestCount then count + 1 else count

theorem toNat_countOne (count : UInt32) :
    (countOne count).toNat = min (count.toNat + 1) greatestCount := by
  have h : count.toNat < 4294967296 := count.toNat_lt
  unfold countOne greatestCount
  split
  · rw [UInt32.toNat_add, UInt32.toNat_one]
    omega
  · omega

end Purchase

end GameClient
