import Webhookery.Relational.Table
import Webhookery.Provider.Normalize

/-!
# Store schema

The tables that ingestion, routing, delivery and replay read or write. Columns that no modelled
operation reads are left out. A text column that the code reads through `COALESCE(c, '')` is a
string; the other nullable columns are options. Secrets are kept in the clear: the store encrypts
them on the way in and decrypts them on the way out.
-/

namespace Webhookery.Store

open Go Provider

/-! ## States -/

inductive OutboxKind where
  | routeEvent
  | routeRecoveredEvent
  | replayJob
  | reconciliationJob
  deriving DecidableEq, Repr

inductive OutboxState where
  | pending
  | inProgress
  | completed
  deriving DecidableEq, Repr

inductive DedupeStatus where
  | unique
  | duplicateSuppressed
  deriving DecidableEq, Repr

inductive QuarantineState where
  | opened
  | approved
  | rejected
  deriving DecidableEq, Repr

inductive DeliveryState where
  | scheduled
  | inProgress
  | succeeded
  | deadLettered
  | canceled
  deriving DecidableEq, Repr

inductive ReplayState where
  | pendingApproval
  | scheduled
  | running
  | paused
  | completed
  | canceled
  deriving DecidableEq, Repr

inductive ConfigMode where
  | current
  | original
  deriving DecidableEq, Repr

/-- States of sources, endpoints, routes, subscriptions, policies and adapter versions. -/
inductive ConfigState where
  | draft
  | active
  | inactive
  | disabled
  deriving DecidableEq, Repr

inductive SecretState where
  | active
  | previous
  | revoked
  deriving DecidableEq, Repr

inductive CircuitState where
  | closed
  | opened
  deriving DecidableEq, Repr

inductive AttemptState where
  | succeeded
  | failed
  deriving DecidableEq, Repr

inductive StorageStatus where
  | stored
  | deleted
  | metadataOnly
  deriving DecidableEq, Repr

/-! ## Evidence rows -/

structure Event where
  (id tenantID sourceID provider type providerID rawPayloadID rawPayloadHash : String)
  verified : Bool
  (verifyReason dedupeKey : String)
  dedupeStatus : DedupeStatus
  receivedAt : Time
  deriving DecidableEq

/-- The body is the payload itself, wherever its bytes are kept. -/
structure RawPayload where
  (id tenantID : String)
  eventID : Option String
  (sha256 contentType : String)
  sizeBytes : Nat
  body : Bytes
  storageStatus : StorageStatus
  createdAt : Time

structure Receipt where
  (id tenantID sourceID eventID rawPayloadID : String)
  rawHeaders : List HeaderPair
  remoteIP : String
  verifyOK : Bool
  verifyReason : String
  receivedAt : Time

structure NormalizedRow where
  (id tenantID eventID adapterVersionID provider providerEventID type source subject : String)
  (envelope data metadata : Bytes)
  (envelopeSHA256 dataSHA256 metadataSHA256 : String)
  storageStatus : StorageStatus
  createdAt : Time

structure QuarantineEntry where
  (id tenantID eventID reason : String)
  state : QuarantineState

structure IdempotencyRecord where
  (tenantID dedupeKey resourceID : String)
  statusCode : Nat

structure DedupeRecord where
  (tenantID dedupeKey sourceID firstEventID lastReceiptID : String)
  status : DedupeStatus

structure OutboxRow where
  (id tenantID : String)
  kind : OutboxKind
  resourceID : String
  state : OutboxState
  availableAt : Time
  lockedBy : Option String
  lockExpiresAt : Option Time

/-! ## Configuration rows -/

structure Source where
  (id tenantID name provider adapter : String)
  state : ConfigState
  secret : Bytes
  deriving DecidableEq

structure SourceSecretVersion where
  (id tenantID sourceID : String)
  version : Nat
  secret : Bytes
  state : SecretState
  expiresAt : Option Time

/-- Built-in versions have no tenant. Only active versions of kind declarative are looked up by
name and tenant. -/
structure AdapterVersion where
  id : String
  tenantID : Option String
  name : String
  declarative : Bool
  state : ConfigState
  definition : Bytes
  activatedAt : Option Time
  createdAt : Time
  deriving DecidableEq

structure Endpoint where
  (id tenantID name url : String)
  state : ConfigState
  retryPolicyID : String
  mtlsEnabled : Bool
  (encryptedMTLSCert encryptedMTLSKey : Bytes)
  failureCount : Nat
  circuitState : CircuitState
  disabledUntil : Option Time

structure EndpointSecret where
  (id tenantID endpointID : String)
  version : Nat
  encryptedSecret : Bytes
  state : SecretState

structure RetryPolicy where
  (id tenantID name : String)
  version : Nat
  state : ConfigState
  (maxAttempts maxDurationSeconds initialDelaySeconds maxDelaySeconds rateLimitPerMinute : Int)
  createdBy : String

structure Transformation where
  (id tenantID : String)
  state : ConfigState
  activeVersionID : String

structure TransformationVersion where
  (id tenantID : String)
  state : ConfigState
  operations : Bytes

structure Route where
  (id tenantID sourceID name : String)
  priority : Int
  eventTypes : List String
  (endpointID retryPolicyID transformationID transformationVersionID : String)
  state : ConfigState
  version : Nat
  activeVersionID : String

structure RouteVersion where
  (id tenantID routeID : String)
  version : Nat
  (sourceID name : String)
  priority : Int
  eventTypes : List String
  (endpointID retryPolicyID transformationID transformationVersionID : String)
  state : ConfigState
  createdBy : String

structure Subscription where
  (id tenantID endpointID : String)
  eventTypes : List String
  (payloadFormat transformationID transformationVersionID : String)
  state : ConfigState
  version : Nat
  activeVersionID : String

structure SubscriptionVersion where
  (id tenantID subscriptionID : String)
  version : Nat
  endpointID : String
  eventTypes : List String
  (payloadFormat transformationID transformationVersionID : String)
  state : ConfigState
  createdBy : String

/-! ## Delivery and replay rows -/

structure Delivery where
  (id tenantID eventID endpointID routeID routeVersionID subscriptionID : String)
  (subscriptionVersionID retryPolicyID replayJobID adapterVersionID normalizedEnvelopeID : String)
  (transformationVersionID deliveryPayloadID retrySeed : String)
  state : DeliveryState
  attemptCount : Nat
  nextAttemptAt : Time
  lockedBy : Option String
  lockExpiresAt : Option Time
  createdAt : Time

structure DeliveryPayload where
  (id tenantID deliveryID eventID normalizedEnvelopeID transformationVersionID contentType : String)
  sha256 : String
  body : Bytes
  storageStatus : StorageStatus
  createdAt : Time

structure DeliveryAttempt where
  (id tenantID deliveryID eventID endpointID requestSHA256 responseSHA256 : String)
  attemptNo : Nat
  state : AttemptState
  responseStatus : Int
  (responseBody failureClass : String)
  retryable : Bool
  retryDelayMS : Int
  nextRetryAt : Option Time
  completedAt : Time

/-- A request that left for the endpoint of a delivery. -/
structure SentRequest where
  (tenantID deliveryID url : String)
  body : Bytes

structure ReplayRequest where
  (eventID deliveryID endpointID reasonCode reason : String)
  configMode : Option ConfigMode
  rateLimitPerMinute : Int
  requireApproval : Bool
  approvalExpiresAt : Option Time

structure ReplayJob where
  (id tenantID : String)
  state : ReplayState
  request : ReplayRequest
  createdBy : String
  (totalItems processedItems : Nat)
  configMode : ConfigMode
  rateLimitPerMinute : Int
  approvalRequired : Bool
  approvalExpiresAt : Option Time
  approvedBy : String
  approvedAt : Option Time

inductive PolicyScope where
  | route
  | source
  | tenant
  deriving DecidableEq, Repr

structure ReplayApprovalPolicy where
  (id tenantID : String)
  scope : PolicyScope
  scopeID : String
  state : ConfigState
  requireApproval : Bool
  defaultExpirySeconds : Int
  updatedAt : Time

/-- The decision a replay recorded for one delivery, or the reason why it made none. -/
structure ReplayItem where
  (id tenantID replayJobID eventID originalDeliveryID newDeliveryID : String)
  configMode : ConfigMode
  (routeVersionID subscriptionVersionID retryPolicyID adapterVersionID normalizedEnvelopeID : String)
  (transformationVersionID deliveryPayloadID deliveryPayloadSHA256 error : String)

structure ReplayReceipt where
  (id tenantID replayJobID eventID deliveryID : String)
  configMode : ConfigMode
  (routeVersionID subscriptionVersionID retryPolicyID adapterVersionID normalizedEnvelopeID : String)
  (transformationVersionID deliveryPayloadID deliveryPayloadSHA256 : String)

structure DeadLetterEntry where
  (id tenantID deliveryID eventID reason : String)
  released : Bool
  createdAt : Time

/-! ## Reconciliation rows -/

structure ProviderConnection where
  (id tenantID provider : String)
  state : ConfigState
  config : List (String × String)

inductive ReconciliationState where
  | scheduled
  | running
  | completed
  | failed
  | canceled
  deriving DecidableEq, Repr

/-- How many items of a job had each outcome. -/
structure ReconciliationCounts where
  (total matched missing captured redelivered unrecoverable failed : Nat)
  deriving DecidableEq, Repr

structure ReconciliationJob where
  (id tenantID connectionID : String)
  state : ReconciliationState
  (captureMissing routeRecovered redeliverFailed : Bool)
  cursor : String
  counts : ReconciliationCounts
  error : String

inductive ReconciliationOutcome where
  | matched
  | missing
  | captured
  | redeliveryRequested
  | unrecoverable
  | failed
  deriving DecidableEq, Repr

structure ReconciliationItem where
  (id tenantID jobID provider objectID : String)
  outcome : ReconciliationOutcome
  (localEventID recoveredEventID : String)
  redeliveryRequested : Bool
  error : String

end Webhookery.Store
