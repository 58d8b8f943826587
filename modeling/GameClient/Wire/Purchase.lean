import GameClient.Purchase
import GameClient.Wire.Record

/-!
# Purchases on the wire

Schemas and purchase data are any JSON. A player is a number.
-/

namespace GameClient.Wire

instance : Wire Payload := ⟨Payload.json, Payload.ofJson?⟩

instance : Wire PlayerId where
  encode player := encode player.number
  decode? value := (decode? value).map PlayerId.mk

instance : Wire PurchaseSchema where
  encode schema := encode schema.form
  decode? value := (decode? value).map PurchaseSchema.mk

instance : Wire PurchaseOffer where
  encode offer :=
    .object [("purchase_data", encode offer.purchaseData), ("from", encode offer.player)]
  decode? value :=
    match record? ["purchase_data", "from"] value with
    | some [data, player] =>
      match required? data, required? player with
      | some purchaseData, some player => some { purchaseData, player }
      | _, _ => none
    | _ => none

end GameClient.Wire
