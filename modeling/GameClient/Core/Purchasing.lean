import GameClient.Core.Pending

/-!
# Purchase offers

The form is fetched once and then kept. An offer needs the form, and its data has to be a JSON
object. Errors of these actions are not shown in the session.
-/

namespace GameClient.Core

/-- Fetches the form, up to the call; a form that is there is given at once. -/
def startSchemaLoad (core : Core) : Turn Progress :=
  match core.acquire .loadPurchaseSchema with
  | .error pending => .turnedAway core pending
  | .ok core =>
    match core.purchase.value.schema with
    | some schema =>
      { core := core.release .loadPurchaseSchema, value := .finished (.ok (.schema schema)) }
    | none =>
      { core := core.updatePurchase fun p => { p with loadingSchema := true }
        value := .suspended .schemaLoad }

def schemaLoaded (core : Core) (schema : PurchaseSchema) : Turn Result :=
  .ended (core.updatePurchase fun p => { p with loadingSchema := false, schema := some schema })
    .loadPurchaseSchema (.ok (.schema schema))
    [{ level := .info, message := "purchase schema loaded" }]

def schemaLoadFailed (core : Core) (failure : Gateway.Failure) : Turn Result :=
  let error := ActionError.ofFailure .getPurchaseSchema failure
  .ended (core.updatePurchase fun p => { p with loadingSchema := false })
    .loadPurchaseSchema (.error error)
    [{ level := .warn
       message := "schema fetch failed"
       fields := [("operation", .text Gateway.Operation.getPurchaseSchema.name),
         ("error", .text error.message)] }]

/-- Makes an offer, up to the call. -/
def startOffer (core : Core) (player : PlayerId) (purchaseData : Payload) : Turn Progress :=
  match core.acquire .purchaseOffer with
  | .error pending => .turnedAway core pending
  | .ok core =>
    if core.purchase.value.isReady = false then
      .refused core .purchaseOffer (.validation .schemaNotLoaded) []
    else if purchaseData.isObject = false then
      .refused core .purchaseOffer (.validation .malformedPurchaseData) []
    else
      { core := core.updatePurchase fun p => { p with submitting := true }
        value := .suspended (.offering { purchaseData, player }) }

def offerTaken (core : Core) (offer : PurchaseOffer) : Turn Result :=
  let counted := core.updatePurchase fun p =>
    { p with submitting := false, offersSent := Purchase.countOne p.offersSent }
  .ended counted .purchaseOffer (.ok .done)
    [{ level := .info
       message := "purchase offer submitted"
       fields := [("player", .text offer.player.text),
         ("offers_sent", .number counted.purchase.value.offersSent.toNat)] }]

def offerFailed (core : Core) (offer : PurchaseOffer) (failure : Gateway.Failure) : Turn Result :=
  let error := ActionError.ofFailure .makePurchaseOffer failure
  .ended (core.updatePurchase fun p => { p with submitting := false }) .purchaseOffer (.error error)
    [{ level := .warn
       message := "purchase offer failed"
       fields := [("operation", .text Gateway.Operation.makePurchaseOffer.name),
         ("player", .text offer.player.text), ("error", .text error.message)] }]

end GameClient.Core
