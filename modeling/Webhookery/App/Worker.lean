import Webhookery.App.Fanout
import Webhookery.App.Reconciliation
import Webhookery.Store.Attempts

/-!
# The worker

A worker claims outbox rows, hands each to the service of its kind and completes it. It also claims
due deliveries, sends each to its endpoint and records the attempt.
-/

namespace Webhookery.App

open Go Store Provider

variable (codec : PayloadCodec) (registry : ReconcileRegistry)

/-- `OutboxProcessorService.ProcessOutbox`. -/
def processOutbox (item : OutboxItem) : Work Unit :=
  match item.kind with
  | .reconciliationJob => runReconciliationJob codec.crypto registry item.tenantID item.resourceID
  | _ => processFanout codec item

/-- One claimed item: a deferred one stays claimed, any other error stops the worker. -/
def handleItem (item : OutboxItem) : Work Unit := do
  match ← (processOutbox codec registry item).attempt with
  | .ok _ => transaction fun _ ↦ completeOutbox item.id
  | .error .deferred => return ()
  | .error e => .fail e

def runOutbox (workerID : String) (limit : Int) : Work Unit := do
  let items ← transaction (claimOutbox workerID (if limit ≤ 0 then 10 else limit.toNat))
  .forEach (handleItem codec registry) items

/-! ## Deliveries -/

/-- What the client did with one delivery: whether a request left, and the result. -/
structure ClientReply where
  sent : Bool
  result : DeliveryResult

/-- `DeliveryClient.Deliver`: the body of the item is the body of the request. -/
def deliver (item : DeliveryItem) (reply : ClientReply) : Work DeliveryResult :=
  .atomic fun _ db ↦ .ok (reply.result,
    if reply.sent then
      { db with sent := db.sent ++ [⟨item.tenantID, item.id, item.endpointURL, item.body⟩] }
    else db)

/-- One claimed delivery. -/
def attemptDelivery (crypto : Crypto) (client : DeliveryItem → ClientReply) (item : DeliveryItem) :
    Work Unit := do
  let result ← deliver item (client item)
  transaction (recordDeliveryAttempt crypto item result)

/-- `runDeliveries`, with the answers of the endpoints as a parameter. -/
def runDeliveries (crypto : Crypto) (client : DeliveryItem → ClientReply) (workerID : String)
    (limit : Int) : Work Unit := do
  let items ← transaction (claimDueDeliveries workerID (if limit ≤ 0 then 10 else limit.toNat))
  .forEach (attemptDelivery crypto client) items

end Webhookery.App
