import Webhookery.App.Worker
import Webhookery.Store.Endpoints
import Webhookery.Store.Quarantine
import Webhookery.Store.Routing
import Webhookery.Concurrency.Threads

/-!
# Operations

The operations that run against the store, by name: captures, quarantine decisions, workers, replays,
dead letters, deliveries, retention, the configuration of routing, retry policies and endpoints. Any
number of them run at once, each interrupted by the others between any two of its transactions, and any of them may crash. The
release of several dead letters is a sequence of releases of one, each begun when the one before it
has ended.
-/

namespace Webhookery.App

open Go Store Concurrency

inductive Op where
  | captureInbound (input : CaptureInboundInput)
  | captureRecovered (crypto : Crypto) (input : RecoveredCapture)
  | approveQuarantine (tenantID entryID reason : String) (route : Bool)
  | rejectQuarantine (tenantID entryID reason : String)
  | runOutbox (codec : PayloadCodec) (registry : ReconcileRegistry) (workerID : String) (limit : Int)
  | runDeliveries (crypto : Crypto) (client : DeliveryItem → ClientReply) (workerID : String) (limit : Int)
  | payloadRetention (policy : PayloadRetention)
  | createReplay (tenantID actorID : String) (req : ReplayRequest)
  | approveReplayJob (tenantID jobID actorID : String)
  | pauseReplayJob (tenantID jobID : String)
  | resumeReplayJob (tenantID jobID : String)
  | cancelReplayJob (tenantID jobID : String)
  | releaseDeadLetter (tenantID entryID actorID reasonCode reason : String)
  | retryDelivery (tenantID deliveryID : String)
  | cancelDelivery (tenantID deliveryID : String)
  | createSubscription (n : NewSubscription)
  | updateSubscription (tenantID subscriptionID actorID : String) (req : UpdateSubscriptionRequest)
  | createRoute (n : NewRoute)
  | updateRoute (tenantID routeID actorID : String) (req : UpdateRouteRequest)
  | activateRoute (tenantID routeID actorID : String)
  | createRetryPolicy (tenantID actorID : String) (req : CreateRetryPolicyRequest)
  | updateRetryPolicy (tenantID retryPolicyID actorID : String) (req : UpdateRetryPolicyRequest)
  | deleteRetryPolicy (tenantID retryPolicyID reason : String)
  | updateEndpoint (validate : String → Option String) (tenantID endpointID : String)
      (req : UpdateEndpointRequest)
  | deleteEndpoint (tenantID endpointID reason : String)

def Op.program : Op → Work Unit
  | .captureInbound input => (transaction fun env ↦ Store.captureInbound env input).discard
  | .captureRecovered crypto input => (captureRecoveredProviderEvent crypto input).discard
  | .approveQuarantine tenantID entryID reason route =>
    transaction fun env db ↦ (Store.approveQuarantine env tenantID entryID reason route db).map ((), ·)
  | .rejectQuarantine tenantID entryID reason =>
    transaction fun _ db ↦ (Store.rejectQuarantine tenantID entryID reason db).map ((), ·)
  | .runOutbox codec registry workerID limit => App.runOutbox codec registry workerID limit
  | .runDeliveries crypto client workerID limit => App.runDeliveries crypto client workerID limit
  | .payloadRetention policy => transaction fun _ ↦ applyDeliveryPayloadRetention policy
  | .createReplay tenantID actorID req => (Store.createReplay tenantID actorID req).discard
  | .approveReplayJob tenantID jobID actorID => transaction (Store.approveReplayJob tenantID jobID actorID)
  | .pauseReplayJob tenantID jobID => transaction fun _ ↦ Store.pauseReplayJob tenantID jobID
  | .resumeReplayJob tenantID jobID => transaction fun _ ↦ Store.resumeReplayJob tenantID jobID
  | .cancelReplayJob tenantID jobID => transaction fun _ ↦ Store.cancelReplayJob tenantID jobID
  | .releaseDeadLetter tenantID entryID actorID reasonCode reason =>
    (Store.releaseDeadLetter tenantID entryID actorID reasonCode reason).discard
  | .retryDelivery tenantID deliveryID => transaction (Store.retryDelivery tenantID deliveryID)
  | .cancelDelivery tenantID deliveryID => transaction fun _ ↦ Store.cancelDelivery tenantID deliveryID
  | .createSubscription n => (transaction (Store.createSubscription n)).discard
  | .updateSubscription tenantID subscriptionID actorID req =>
    (transaction (Store.updateSubscription tenantID subscriptionID actorID req)).discard
  | .createRoute n => (transaction (Store.createRoute n)).discard
  | .updateRoute tenantID routeID actorID req =>
    (transaction (Store.updateRoute tenantID routeID actorID req)).discard
  | .activateRoute tenantID routeID actorID =>
    (transaction (Store.activateRoute tenantID routeID actorID)).discard
  | .createRetryPolicy tenantID actorID req => (controlCreateRetryPolicy tenantID actorID req).discard
  | .updateRetryPolicy tenantID retryPolicyID actorID req =>
    (controlUpdateRetryPolicy tenantID retryPolicyID actorID req).discard
  | .deleteRetryPolicy tenantID retryPolicyID reason =>
    (controlDeleteRetryPolicy tenantID retryPolicyID reason).discard
  | .updateEndpoint validate tenantID endpointID req =>
    (controlUpdateEndpoint validate tenantID endpointID req).discard
  | .deleteEndpoint tenantID endpointID reason =>
    (controlDeleteEndpoint tenantID endpointID reason).discard

/-- The hashes that an operation computes with. -/
def Op.crypto : Op → Option Crypto
  | .runOutbox codec _ _ _ => some codec.crypto
  | .runDeliveries crypto _ _ _ => some crypto
  | .captureRecovered crypto _ => some crypto
  | _ => none

/-- The operations of delivery workers. -/
def Op.delivers : Op → Bool
  | .runDeliveries _ _ _ _ => true
  | _ => false

/-- The threads of the operations. -/
def system : System Op Env DB (Work Unit) := Program.system Op.program

end Webhookery.App
