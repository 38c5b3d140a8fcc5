import Webhookery.Store.Ingest
import Mathlib.Data.List.Sort

/-!
# Deliveries

The fanout targets of an event, the snapshot of one delivery with its payload and its replay
evidence, and the operations of an operator on a delivery. A snapshot is one transaction: it inserts
the delivery, materializes or clones its payload and points the delivery at it.
-/

namespace Webhookery.Store

open Go Relational Provider

/-- What delivery payloads are computed with: hashes, the text of stored documents, and the
operations of a transformation version (none when they do not parse or do not apply). -/
structure PayloadCodec where
  crypto : Crypto
  jsonb : Jsonb
  transform : Bytes → Bytes → Option Bytes

/-! ## Fanout targets -/

structure DeliveryFanoutTarget where
  (endpointID routeID routeVersionID subscriptionID subscriptionVersionID routeRetryPolicyID : String)
  (endpointRetryPolicyID transformationVersionID : String)
  deriving DecidableEq

def DeliveryFanoutTarget.retryPolicyID (t : DeliveryFanoutTarget) : String :=
  firstNonBlank [t.routeRetryPolicyID, t.endpointRetryPolicyID]

def DeliveryFanoutTarget.empty : DeliveryFanoutTarget := ⟨"", "", "", "", "", "", "", ""⟩

def subscriptionTarget (s : Subscription) (e : Endpoint) : DeliveryFanoutTarget :=
  { DeliveryFanoutTarget.empty with
    subscriptionID := s.id, endpointID := s.endpointID, subscriptionVersionID := s.activeVersionID,
    endpointRetryPolicyID := e.retryPolicyID, transformationVersionID := s.transformationVersionID }

def routeTarget (r : Route) (e : Endpoint) : DeliveryFanoutTarget :=
  { DeliveryFanoutTarget.empty with
    routeID := r.id, endpointID := r.endpointID, routeVersionID := r.activeVersionID,
    routeRetryPolicyID := r.retryPolicyID, endpointRetryPolicyID := e.retryPolicyID,
    transformationVersionID := r.transformationVersionID }

/-- The endpoints a configuration row is joined with. -/
def joinedEndpoints (tenantID endpointID : String) (db : DB) : List Endpoint :=
  db.endpoints.rows.filter fun e ↦ e.tenantID == tenantID && e.id == endpointID

def Subscription.matches (tenantID eventType : String) (s : Subscription) : Bool :=
  s.tenantID == tenantID && s.state == .active && s.eventTypes.contains eventType

def Route.matches (tenantID sourceID eventType : String) (r : Route) : Bool :=
  r.tenantID == tenantID && r.sourceID == sourceID && r.state == .active &&
    r.eventTypes.contains eventType

/-- The first query of `ListDeliveryFanoutTargets`. -/
def listSubscriptionTargets (tenantID eventType : String) (db : DB) : List DeliveryFanoutTarget :=
  (db.subscriptions.rows.filter (Subscription.matches tenantID eventType)).flatMap fun s ↦
    (joinedEndpoints s.tenantID s.endpointID db).map (subscriptionTarget s)

/-- The second query of `ListDeliveryFanoutTargets`, by priority. -/
def listRouteTargets (tenantID sourceID eventType : String) (db : DB) : List DeliveryFanoutTarget :=
  ((db.routes.rows.filter (Route.matches tenantID sourceID eventType)).insertionSort
    (fun r r' ↦ r.priority ≤ r'.priority)).flatMap fun r ↦
      (joinedEndpoints r.tenantID r.endpointID db).map (routeTarget r)

/-- The first row of a join, when there is one. -/
def firstJoined {α : Type} (row : Option α) (endpoints : α → List Endpoint)
    (target : α → Endpoint → DeliveryFanoutTarget) : Option DeliveryFanoutTarget :=
  row.bind fun r ↦ (endpoints r).head?.map (target r)

/-- `GetCurrentDeliveryFanoutTarget`: none when the route or subscription is not active. -/
def getCurrentDeliveryFanoutTarget (tenantID routeID subscriptionID : String) (db : DB) : Option DeliveryFanoutTarget :=
  if routeID ≠ "" then
    firstJoined
      (db.routes.find? fun r ↦ r.tenantID == tenantID && r.id == routeID && r.state == .active)
      (fun r ↦ joinedEndpoints r.tenantID r.endpointID db) routeTarget
  else if subscriptionID ≠ "" then
    firstJoined
      (db.subscriptions.find? fun s ↦
        s.tenantID == tenantID && s.id == subscriptionID && s.state == .active)
      (fun s ↦ joinedEndpoints s.tenantID s.endpointID db) subscriptionTarget
  else some .empty

/-! ## Reading events and deliveries -/

def getEvent (tenantID eventID : String) (db : DB) : Except StoreError Event :=
  selectRow db.events fun e ↦ e.tenantID == tenantID && e.id == eventID

structure DeliveryReplaySource where
  (id eventID endpointID routeID routeVersionID subscriptionID subscriptionVersionID : String)
  (retryPolicyID adapterVersionID normalizedEnvelopeID transformationVersionID : String)
  deliveryPayloadID : String

def Delivery.replaySource (d : Delivery) : DeliveryReplaySource where
  id := d.id
  eventID := d.eventID
  endpointID := d.endpointID
  routeID := d.routeID
  routeVersionID := d.routeVersionID
  subscriptionID := d.subscriptionID
  subscriptionVersionID := d.subscriptionVersionID
  retryPolicyID := d.retryPolicyID
  adapterVersionID := d.adapterVersionID
  normalizedEnvelopeID := d.normalizedEnvelopeID
  transformationVersionID := d.transformationVersionID
  deliveryPayloadID := d.deliveryPayloadID

/-- The deliveries of an event that no replay created. -/
def originalDeliveries (tenantID eventID : String) (db : DB) : List Delivery :=
  db.deliveries.rows.filter fun d ↦
    d.tenantID == tenantID && d.eventID == eventID && d.replayJobID == ""

def listOriginalDeliveryReplaySources (tenantID eventID : String) (db : DB) : List DeliveryReplaySource :=
  ((originalDeliveries tenantID eventID db).insertionSort fun d d' ↦
    d.createdAt < d'.createdAt ∨ d.createdAt = d'.createdAt ∧ d.id ≤ d'.id).map Delivery.replaySource

def getDeliveryReplaySource (tenantID deliveryID : String) (db : DB) : Except StoreError DeliveryReplaySource :=
  (selectRow db.deliveries fun d ↦ d.tenantID == tenantID && d.id == deliveryID).map
    Delivery.replaySource

/-! ## Snapshots -/

inductive DeliveryPayloadMode where
  | materialize
  | clone
  deriving DecidableEq, Repr

structure DeliverySnapshotRequest where
  (tenantID eventID endpointID routeID routeVersionID subscriptionID subscriptionVersionID : String)
  (retryPolicyID replayJobID originalDeliveryID adapterVersionID normalizedEnvelopeID : String)
  transformationVersionID : String
  deliveryPayloadMode : DeliveryPayloadMode
  (sourceDeliveryPayloadID retrySeed : String)
  nextAttemptAt : Time
  configMode : ConfigMode

/-- The payload of a delivery and what it was computed from. -/
structure PayloadRef where
  (payloadID normalizedID adapterVersionID transformationVersionID : String)

structure DeliverySnapshotResult where
  (deliveryID deliveryPayloadID deliveryPayloadSHA256 adapterVersionID normalizedEnvelopeID : String)
  transformationVersionID : String

/-- The length of a part as eight bytes, most significant first. -/
def lengthPrefix (n : Nat) : Bytes :=
  [56, 48, 40, 32, 24, 16, 8, 0].map fun shift ↦ UInt8.ofNat (n / 2 ^ shift)

/-- `retry.Seed`. -/
def retrySeedOf (crypto : Crypto) (parts : List String) : String :=
  "retryseed:v1:" ++ hexEncode (crypto.sha256
    (parts.flatMap fun part ↦ lengthPrefix (bytesOf part).length ++ bytesOf part))

/-- The delivery a snapshot inserts, before its payload exists. -/
def deliveryRow (crypto : Crypto) (env : Env) (req : DeliverySnapshotRequest) : Delivery where
  id := env.mustID "del" 0
  tenantID := req.tenantID
  eventID := req.eventID
  endpointID := req.endpointID
  routeID := req.routeID
  routeVersionID := req.routeVersionID
  subscriptionID := req.subscriptionID
  subscriptionVersionID := req.subscriptionVersionID
  retryPolicyID := req.retryPolicyID
  replayJobID := req.replayJobID
  adapterVersionID := req.adapterVersionID
  normalizedEnvelopeID := req.normalizedEnvelopeID
  transformationVersionID := req.transformationVersionID
  deliveryPayloadID := ""
  retrySeed :=
    if req.retrySeed = "" then
      retrySeedOf crypto [req.tenantID, env.mustID "del" 0, req.eventID, req.endpointID]
    else req.retrySeed
  state := .scheduled
  attemptCount := 0
  nextAttemptAt := timestamptz req.nextAttemptAt
  lockedBy := none
  lockExpiresAt := none
  createdAt := timestamptz env.now

/-- The event and the endpoint of a delivery must exist. -/
def insertDelivery (row : Delivery) (db : DB) : Except StoreError DB := do
  require (db.events.rows.any (·.id == row.eventID) && db.endpoints.rows.any (·.id == row.endpointID))
    .failed
  let deliveries ← insertRow db.deliveries row
  return { db with deliveries }

/-- The delivery pointed at its payload. -/
def Delivery.withPayload (d : Delivery) (ref : PayloadRef) : Delivery :=
  { d with
    adapterVersionID := ref.adapterVersionID, normalizedEnvelopeID := ref.normalizedID,
    transformationVersionID := ref.transformationVersionID, deliveryPayloadID := ref.payloadID }

/-- `UPDATE deliveries SET adapter_version_id, ..., delivery_payload_id`. -/
def setDeliveryPayload (tenantID deliveryID : String) (ref : PayloadRef) (db : DB) : DB :=
  { db with
    deliveries := db.deliveries.modify
      (fun d ↦ if d.tenantID = tenantID ∧ d.id = deliveryID then d.withPayload ref else d)
      (fun d ↦ by split <;> rfl) (fun _ ↦ rfl) }

/-- `legacyDeliveryEnvelope`, for an event that was not normalized. -/
def legacyDeliveryEnvelope (tenantID eventID : String) (db : DB) : Except StoreError Bytes := do
  let event ← getEvent tenantID eventID db
  return Value.marshal (.obj (Value.ofMembers
    [("id", .str eventID), ("type", .str event.type), ("provider", .str event.provider),
      ("provider_event_id", .str event.providerID), ("raw_payload_hash", .str event.rawPayloadHash)]))

/-- The document a delivery is made from, with the normalized row it comes from. -/
def deliveryEnvelope (codec : PayloadCodec) (tenantID eventID : String) (db : DB) :
    Except StoreError (Bytes × String × String) :=
  match db.normalized.byIndex (tenantID, eventID) with
  | some n =>
    if n.storageStatus = .deleted then .error .gone
    else .ok (codec.jsonb.text n.envelope, n.id, n.adapterVersionID)
  | none => (legacyDeliveryEnvelope tenantID eventID db).map fun envelope ↦ (envelope, "", "")

/-- The document after the transformation version of the delivery. -/
def transformBody (codec : PayloadCodec) (tenantID versionID : String) (body : Bytes) (db : DB) :
    Except StoreError Bytes :=
  if versionID = "" then .ok body
  else do
    let version ← selectRow db.transformationVersions fun v ↦
      v.tenantID == tenantID && v.id == versionID
    match codec.transform (codec.jsonb.text version.operations) body with
    | some body => .ok body
    | none => .error .failed

/-- The delivery and the event of a payload must exist. -/
def insertDeliveryPayload (row : DeliveryPayload) (db : DB) : Except StoreError DB := do
  require (db.deliveries.rows.any (·.id == row.deliveryID) && db.events.rows.any (·.id == row.eventID))
    .failed
  let deliveryPayloads ← insertRow db.deliveryPayloads row
  return { db with deliveryPayloads }

def createDeliveryPayload (codec : PayloadCodec) (env : Env)
    (tenantID eventID deliveryID transformationVersionID : String) (db : DB) :
    Except StoreError (PayloadRef × DB) := do
  let (envelope, normalizedID, adapterVersionID) ← deliveryEnvelope codec tenantID eventID db
  let body ← transformBody codec tenantID transformationVersionID envelope db
  let ref := ⟨env.mustID "dpl" 0, normalizedID, adapterVersionID, transformationVersionID⟩
  let db ← insertDeliveryPayload
    { id := env.mustID "dpl" 0, tenantID, deliveryID, eventID, normalizedEnvelopeID := normalizedID,
      transformationVersionID, contentType := "application/json",
      sha256 := hashSHA256 codec.crypto body, body, storageStatus := .stored,
      createdAt := timestamptz env.now } db
  return (ref, setDeliveryPayload tenantID deliveryID ref db)

/-- A payload is copied, unless its body was deleted. -/
def copyDeliveryPayload (env : Env) (tenantID sourcePayloadID newDeliveryID : String) (db : DB) :
    Except StoreError (PayloadRef × DB) := do
  let p ← selectRow db.deliveryPayloads fun p ↦ p.tenantID == tenantID && p.id == sourcePayloadID
  require (p.storageStatus != .deleted) .gone
  let adapterVersionID :=
    match db.normalized.find? fun n ↦ n.tenantID == p.tenantID && n.id == p.normalizedEnvelopeID with
    | some n => n.adapterVersionID
    | none => ""
  let ref := ⟨env.mustID "dpl" 0, p.normalizedEnvelopeID, adapterVersionID, p.transformationVersionID⟩
  let db ← insertDeliveryPayload
    { p with
      id := env.mustID "dpl" 0, tenantID, deliveryID := newDeliveryID, storageStatus := .stored,
      createdAt := timestamptz env.now } db
  return (ref, setDeliveryPayload tenantID newDeliveryID ref db)

/-- `cloneDeliveryPayload`: a source without payload is materialized again. -/
def cloneDeliveryPayload (codec : PayloadCodec) (env : Env)
    (tenantID sourcePayloadID newDeliveryID : String) (db : DB) : Except StoreError (PayloadRef × DB) :=
  if sourcePayloadID = "" then do
    let d ← selectRow db.deliveries fun d ↦ d.tenantID == tenantID && d.id == newDeliveryID
    createDeliveryPayload codec env tenantID d.eventID newDeliveryID d.transformationVersionID db
  else copyDeliveryPayload env tenantID sourcePayloadID newDeliveryID db

/-- The payload of a snapshot, by its mode. -/
def snapshotPayload (codec : PayloadCodec) (env : Env) (req : DeliverySnapshotRequest) (db : DB) :
    Except StoreError (PayloadRef × DB) :=
  match req.deliveryPayloadMode with
  | .clone =>
    cloneDeliveryPayload codec env req.tenantID req.sourceDeliveryPayloadID (env.mustID "del" 0) db
  | .materialize =>
    createDeliveryPayload codec env req.tenantID req.eventID (env.mustID "del" 0)
      req.transformationVersionID db

def deliveryPayloadSHA256 (tenantID payloadID : String) (db : DB) : Except StoreError String :=
  if payloadID = "" then .ok ""
  else (selectRow db.deliveryPayloads fun p ↦ p.tenantID == tenantID && p.id == payloadID).map
    DeliveryPayload.sha256

/-- The item of a replayed delivery. -/
def replayItemRow (env : Env) (req : DeliverySnapshotRequest) (result : DeliverySnapshotResult) : ReplayItem where
  id := env.mustID "rpi" 0
  tenantID := req.tenantID
  replayJobID := req.replayJobID
  eventID := req.eventID
  originalDeliveryID := req.originalDeliveryID
  newDeliveryID := result.deliveryID
  configMode := req.configMode
  routeVersionID := req.routeVersionID
  subscriptionVersionID := req.subscriptionVersionID
  retryPolicyID := req.retryPolicyID
  adapterVersionID := result.adapterVersionID
  normalizedEnvelopeID := result.normalizedEnvelopeID
  transformationVersionID := result.transformationVersionID
  deliveryPayloadID := result.deliveryPayloadID
  deliveryPayloadSHA256 := result.deliveryPayloadSHA256
  error := ""

/-- The receipt of a replayed delivery. -/
def replayReceiptRow (env : Env) (req : DeliverySnapshotRequest) (result : DeliverySnapshotResult) :
    ReplayReceipt where
  id := env.mustID "rrc" 0
  tenantID := req.tenantID
  replayJobID := req.replayJobID
  eventID := req.eventID
  deliveryID := if req.originalDeliveryID = "" then result.deliveryID else req.originalDeliveryID
  configMode := req.configMode
  routeVersionID := req.routeVersionID
  subscriptionVersionID := req.subscriptionVersionID
  retryPolicyID := req.retryPolicyID
  adapterVersionID := result.adapterVersionID
  normalizedEnvelopeID := result.normalizedEnvelopeID
  transformationVersionID := result.transformationVersionID
  deliveryPayloadID := result.deliveryPayloadID
  deliveryPayloadSHA256 := result.deliveryPayloadSHA256

/-- `insertReplayDecisionEvidence`: the item and the receipt of a replayed delivery. -/
def insertReplayDecisionEvidence (env : Env) (req : DeliverySnapshotRequest)
    (result : DeliverySnapshotResult) (db : DB) : Except StoreError DB := do
  require (db.replayJobs.rows.any (·.id == req.replayJobID)) .failed
  let replayItems ← insertRow db.replayItems (replayItemRow env req result)
  let replayReceipts ← insertRow db.replayReceipts (replayReceiptRow env req result)
  return { db with replayItems, replayReceipts }

/-- The evidence of a snapshot that belongs to a replay. -/
def snapshotEvidence (env : Env) (req : DeliverySnapshotRequest) (result : DeliverySnapshotResult)
    (db : DB) : Except StoreError DB :=
  if req.replayJobID = "" then .ok db else insertReplayDecisionEvidence env req result db

/-- What a snapshot returns, with the hash of its payload. -/
def snapshotResult (env : Env) (ref : PayloadRef) (sha256 : String) : DeliverySnapshotResult :=
  ⟨env.mustID "del" 0, ref.payloadID, sha256, ref.adapterVersionID, ref.normalizedID, ref.transformationVersionID⟩

def createDeliverySnapshot (codec : PayloadCodec) (req : DeliverySnapshotRequest) (env : Env)
    (db : DB) : Except StoreError (DeliverySnapshotResult × DB) := do
  let db ← insertDelivery (deliveryRow codec.crypto env req) db
  let (ref, db) ← snapshotPayload codec env req db
  let payloadHash ← deliveryPayloadSHA256 req.tenantID ref.payloadID db
  let result := snapshotResult env ref payloadHash
  let db ← snapshotEvidence env req result db
  return (result, db)

/-! ### Errors of a snapshot -/

section Errors

variable {codec : PayloadCodec} {env : Env} {db : DB}

theorem createDeliveryPayload_ne_deferred :
    createDeliveryPayload codec env tenantID eventID deliveryID versionID db ≠ .error .deferred := by
  have henvelope : deliveryEnvelope codec tenantID eventID db ≠ .error .deferred := by
    unfold deliveryEnvelope
    split
    · split <;> simp
    · exact map_ne_error (bind_ne_error selectRow_ne_deferred fun _ ↦ nofun)
  have htransform (body : Bytes) : transformBody codec tenantID versionID body db ≠ .error .deferred := by
    unfold transformBody
    split
    · exact nofun
    · refine bind_ne_error selectRow_ne_deferred fun version ↦ ?_
      split <;> simp
  refine bind_ne_error henvelope fun envelope ↦ bind_ne_error (htransform _) fun body ↦ ?_
  refine bind_ne_error ?_ fun _ ↦ nofun
  exact bind_ne_error (require_ne_error nofun) fun _ ↦ bind_ne_error insertRow_ne_deferred fun _ ↦ nofun

theorem copyDeliveryPayload_ne_deferred :
    copyDeliveryPayload env tenantID sourcePayloadID newDeliveryID db ≠ .error .deferred := by
  refine bind_ne_error selectRow_ne_deferred fun p ↦ bind_ne_error (require_ne_error nofun) fun _ ↦ ?_
  refine bind_ne_error ?_ fun _ ↦ nofun
  exact bind_ne_error (require_ne_error nofun) fun _ ↦ bind_ne_error insertRow_ne_deferred fun _ ↦ nofun

theorem snapshotPayload_ne_deferred : snapshotPayload codec env req db ≠ .error .deferred := by
  unfold snapshotPayload
  split
  · unfold cloneDeliveryPayload
    split
    · exact bind_ne_error selectRow_ne_deferred fun d ↦ createDeliveryPayload_ne_deferred
    · exact copyDeliveryPayload_ne_deferred
  · exact createDeliveryPayload_ne_deferred

theorem createDeliverySnapshot_ne_deferred : createDeliverySnapshot codec req env db ≠ .error .deferred := by
  have hevidence (result : DeliverySnapshotResult) (db : DB) :
      snapshotEvidence env req result db ≠ .error .deferred := by
    unfold snapshotEvidence
    split
    · exact nofun
    · refine bind_ne_error (require_ne_error nofun) fun _ ↦ ?_
      exact bind_ne_error insertRow_ne_deferred fun _ ↦ bind_ne_error insertRow_ne_deferred fun _ ↦ nofun
  have hhash (payloadID : String) (db : DB) :
      deliveryPayloadSHA256 req.tenantID payloadID db ≠ .error .deferred := by
    unfold deliveryPayloadSHA256
    split
    · exact nofun
    · exact map_ne_error selectRow_ne_deferred
  refine bind_ne_error ?_ fun db₁ ↦ bind_ne_error snapshotPayload_ne_deferred fun payload ↦ ?_
  · exact bind_ne_error (require_ne_error nofun) fun _ ↦ bind_ne_error insertRow_ne_deferred fun _ ↦ nofun
  · exact bind_ne_error (hhash _ _) fun hash ↦ bind_ne_error (hevidence _ _) fun _ ↦ nofun

end Errors

/-! ### Snapshots that committed -/

section Committed

variable {codec : PayloadCodec} {env : Env} {req : DeliverySnapshotRequest} {db db' : DB}
  {ref : PayloadRef} {result : DeliverySnapshotResult}

/-- What is known of the payload that a snapshot inserts: it is hashed, or copied with its hash from a
payload that was not deleted. -/
structure NewPayload (codec : PayloadCodec) (env : Env) (tenantID deliveryID : String) (ref : PayloadRef)
    (rows : List DeliveryPayload) (p : DeliveryPayload) : Prop where
  id : p.id = env.mustID "dpl" 0
  ref : ref.payloadID = p.id
  tenantID : p.tenantID = tenantID
  deliveryID : p.deliveryID = deliveryID
  stored : p.storageStatus = .stored
  hash : p.sha256 = hashSHA256 codec.crypto p.body ∨ ∃ p₀ ∈ rows,
    p₀.storageStatus ≠ .deleted ∧ p.sha256 = p₀.sha256 ∧ p.body = p₀.body

theorem insertDeliveryPayload_eq_ok (h : insertDeliveryPayload row db = .ok db') :
    ∃ t, t.rows = db.deliveryPayloads.rows ++ [row] ∧ db' = { db with deliveryPayloads := t } := by
  obtain ⟨_, -, h⟩ := bind_eq_ok.mp h
  obtain ⟨t, ht, h⟩ := bind_eq_ok.mp h
  exact ⟨t, Table.rows_insert? (insertRow_eq_ok.mp ht), (Except.ok.inj h).symm⟩

/-- A payload that was copied from another one. -/
structure CopyOf (p₀ p : DeliveryPayload) : Prop where
  stored : p₀.storageStatus ≠ .deleted
  body : p.body = p₀.body
  sha256 : p.sha256 = p₀.sha256
  version : p.transformationVersionID = p₀.transformationVersionID

theorem createDeliveryPayload_eq_ok
    (h : createDeliveryPayload codec env tenantID eventID deliveryID versionID db = .ok (ref, db')) :
    ref.transformationVersionID = versionID ∧
      ∃ t p, NewPayload codec env tenantID deliveryID ref db.deliveryPayloads.rows p ∧
      p.transformationVersionID = ref.transformationVersionID ∧
      t.rows = db.deliveryPayloads.rows ++ [p] ∧
      db' = setDeliveryPayload tenantID deliveryID ref { db with deliveryPayloads := t } := by
  obtain ⟨⟨_, _, _⟩, -, h⟩ := bind_eq_ok.mp h
  obtain ⟨_, -, h⟩ := bind_eq_ok.mp h
  obtain ⟨_, hinsert, h⟩ := bind_eq_ok.mp h
  obtain ⟨t, hrows, rfl⟩ := insertDeliveryPayload_eq_ok hinsert
  cases h
  exact ⟨rfl, t, _, ⟨rfl, rfl, rfl, rfl, rfl, .inl rfl⟩, rfl, hrows, rfl⟩

theorem copyDeliveryPayload_eq_ok
    (h : copyDeliveryPayload env tenantID sourcePayloadID deliveryID db = .ok (ref, db')) :
    ∃ t p, NewPayload codec env tenantID deliveryID ref db.deliveryPayloads.rows p ∧
      p.transformationVersionID = ref.transformationVersionID ∧
      (∃ p₀ ∈ db.deliveryPayloads, p₀.tenantID = tenantID ∧ p₀.id = sourcePayloadID ∧ CopyOf p₀ p) ∧
      t.rows = db.deliveryPayloads.rows ++ [p] ∧
      db' = setDeliveryPayload tenantID deliveryID ref { db with deliveryPayloads := t } := by
  obtain ⟨p₀, hselect, h⟩ := bind_eq_ok.mp h
  obtain ⟨_, hstored, h⟩ := bind_eq_ok.mp h
  obtain ⟨_, hinsert, h⟩ := bind_eq_ok.mp h
  obtain ⟨t, hrows, rfl⟩ := insertDeliveryPayload_eq_ok hinsert
  cases h
  have hstatus : p₀.storageStatus ≠ .deleted := bne_iff_ne.mp (require_eq_ok.mp hstored)
  obtain ⟨hp₀, htenant, hid⟩ := selectRow_columns hselect
  refine ⟨t, _, ?new, ?version, ?copy, hrows, rfl⟩
  case new => exact ⟨rfl, rfl, rfl, rfl, rfl, .inr ⟨p₀, hp₀, hstatus, rfl, rfl⟩⟩
  case version => rfl
  case copy => exact ⟨p₀, hp₀, htenant, hid, hstatus, rfl, rfl, rfl⟩

/-- The payload of a snapshot: a materialized one keeps the requested transformation version, and a
cloned one is a copy of the source payload, if there is one. -/
theorem snapshotPayload_eq_ok (h : snapshotPayload codec env req db = .ok (ref, db')) :
    ∃ t p, NewPayload codec env req.tenantID (env.mustID "del" 0) ref db.deliveryPayloads.rows p ∧
      p.transformationVersionID = ref.transformationVersionID ∧
      (req.deliveryPayloadMode = .materialize →
        ref.transformationVersionID = req.transformationVersionID) ∧
      (req.deliveryPayloadMode = .clone → req.sourceDeliveryPayloadID ≠ "" →
        ∃ p₀ ∈ db.deliveryPayloads, p₀.tenantID = req.tenantID ∧ p₀.id = req.sourceDeliveryPayloadID ∧
          CopyOf p₀ p) ∧
      t.rows = db.deliveryPayloads.rows ++ [p] ∧
      db' = setDeliveryPayload req.tenantID (env.mustID "del" 0) ref
        { db with deliveryPayloads := t } := by
  unfold snapshotPayload at h
  split at h
  case h_1 hclone =>
    have hmode : req.deliveryPayloadMode ≠ .materialize := by simp [hclone]
    unfold cloneDeliveryPayload at h
    split at h
    case isTrue hnone =>
      obtain ⟨_, -, h⟩ := bind_eq_ok.mp h
      obtain ⟨-, t, p, hp, hversion, hrows, hdb⟩ := createDeliveryPayload_eq_ok h
      exact ⟨t, p, hp, hversion, fun h ↦ absurd h hmode, fun _ h ↦ absurd hnone h, hrows, hdb⟩
    case isFalse =>
      obtain ⟨t, p, hp, hversion, hcopy, hrows, hdb⟩ := copyDeliveryPayload_eq_ok h
      exact ⟨t, p, hp, hversion, fun h ↦ absurd h hmode, fun _ _ ↦ hcopy, hrows, hdb⟩
  case h_2 hmaterialize =>
    have hmode : req.deliveryPayloadMode ≠ .clone := by simp [hmaterialize]
    obtain ⟨hrequested, t, p, hp, hversion, hrows, hdb⟩ := createDeliveryPayload_eq_ok h
    exact ⟨t, p, hp, hversion, fun _ ↦ hrequested, fun h ↦ absurd h hmode, hrows, hdb⟩

/-- A snapshot of a replay adds one item and one receipt, any other one adds none. -/
theorem snapshotEvidence_eq_ok (h : snapshotEvidence env req result db = .ok db') :
    ∃ items receipts,
      items.rows = db.replayItems.rows ++ (if req.replayJobID = "" then [] else [replayItemRow env req result]) ∧
      receipts.rows = db.replayReceipts.rows ++
        (if req.replayJobID = "" then [] else [replayReceiptRow env req result]) ∧
      db' = { db with replayItems := items, replayReceipts := receipts } := by
  unfold snapshotEvidence at h
  split at h
  case isTrue hlive =>
    refine ⟨db.replayItems, db.replayReceipts, ?_, ?_, (Except.ok.inj h).symm⟩
    · rw [if_pos hlive, List.append_nil]
    · rw [if_pos hlive, List.append_nil]
  case isFalse hreplay =>
    obtain ⟨_, -, h⟩ := bind_eq_ok.mp h
    obtain ⟨items, hitems, h⟩ := bind_eq_ok.mp h
    obtain ⟨receipts, hreceipts, h⟩ := bind_eq_ok.mp h
    refine ⟨items, receipts, ?_, ?_, (Except.ok.inj h).symm⟩
    · rw [if_neg hreplay, Table.rows_insert? (insertRow_eq_ok.mp hitems)]
    · rw [if_neg hreplay, Table.rows_insert? (insertRow_eq_ok.mp hreceipts)]

/-- What a snapshot that committed did: it added one delivery, for an event and an endpoint that exist,
with its payload and the evidence of a replay, and touched no other table. -/
structure SnapshotTaken (codec : PayloadCodec) (env : Env) (req : DeliverySnapshotRequest) (db : DB)
    (ref : PayloadRef) (p : DeliveryPayload) (db' : DB) : Prop where
  payload : NewPayload codec env req.tenantID (env.mustID "del" 0) ref db.deliveryPayloads.rows p
  version : p.transformationVersionID = ref.transformationVersionID
  materialized : req.deliveryPayloadMode = .materialize →
    ref.transformationVersionID = req.transformationVersionID
  copied : req.deliveryPayloadMode = .clone → req.sourceDeliveryPayloadID ≠ "" →
    ∃ p₀ ∈ db.deliveryPayloads, p₀.tenantID = req.tenantID ∧ p₀.id = req.sourceDeliveryPayloadID ∧
      CopyOf p₀ p
  deliveries : db'.deliveries.rows =
    db.deliveries.rows ++ [(deliveryRow codec.crypto env req).withPayload ref]
  payloads : db'.deliveryPayloads.rows = db.deliveryPayloads.rows ++ [p]
  items : db'.replayItems.rows = db.replayItems.rows ++
    if req.replayJobID = "" then [] else [replayItemRow env req (snapshotResult env ref p.sha256)]
  receipts : db'.replayReceipts.rows = db.replayReceipts.rows ++
    if req.replayJobID = "" then [] else [replayReceiptRow env req (snapshotResult env ref p.sha256)]
  frame : db' = { db with
    deliveries := db'.deliveries, deliveryPayloads := db'.deliveryPayloads,
    replayItems := db'.replayItems, replayReceipts := db'.replayReceipts }

theorem createDeliverySnapshot_taken (h : createDeliverySnapshot codec req env db = .ok (result, db')) :
    ∃ ref p, SnapshotTaken codec env req db ref p db' := by
  obtain ⟨_, hinsert, h⟩ := bind_eq_ok.mp h
  obtain ⟨-, t, ht, rfl⟩ := require_insertRow_eq_ok.mp hinsert
  obtain ⟨⟨ref, _⟩, hpayload, h⟩ := bind_eq_ok.mp h
  obtain ⟨payloads, p, hp, hversion, hmaterialized, hcopied, hrows, rfl⟩ := snapshotPayload_eq_ok hpayload
  obtain ⟨hash, hhash, h⟩ := bind_eq_ok.mp h
  -- the hash is read back from the row of the payload
  obtain rfl : hash = p.sha256 := by
    unfold deliveryPayloadSHA256 at hhash
    have hne : ref.payloadID ≠ "" := by
      rw [hp.ref, hp.id]
      exact env.mustID_ne_empty "dpl" 0
    rw [if_neg hne] at hhash
    obtain ⟨_, hselect, rfl⟩ := map_eq_ok.mp hhash
    obtain ⟨hp', -, hid⟩ := selectRow_columns hselect
    have hlast : p ∈ payloads := by
      exact (Table.mem_of_rows_append hrows).mpr (.inr rfl)
    rw [Table.eq_of_key_eq hp' hlast (hid.trans hp.ref)]
  obtain ⟨_, hevidence, h⟩ := bind_eq_ok.mp h
  obtain ⟨_, _, hitems, hreceipts, rfl⟩ := snapshotEvidence_eq_ok hevidence
  cases h
  refine ⟨ref, p, hp, hversion, hmaterialized, hcopied, ?_, hrows, hitems, hreceipts, rfl⟩
  change t.rows.map _ = _
  rw [Table.map_rows_insert? ht fun d hd ↦ if_neg fun hrow ↦ hd hrow.2]
  exact congrArg (fun d ↦ db.deliveries.rows ++ [d]) (if_pos ⟨rfl, rfl⟩)

/-- A snapshot of a replay that committed is recorded with the delivery it replays. -/
theorem SnapshotTaken.replayItems (h : SnapshotTaken codec env req db ref p db') :
    ∃ items : List ReplayItem, db'.replayItems.rows = db.replayItems.rows ++ items ∧
      (req.replayJobID ≠ "" → items.length = 1) ∧ items.length ≤ 1 ∧
      ∀ i ∈ items, i.replayJobID = req.replayJobID ∧ i.originalDeliveryID = req.originalDeliveryID ∧
        i.newDeliveryID = env.mustID "del" 0 := by
  refine ⟨_, h.items, ?_⟩
  split
  case isTrue hlive => exact ⟨fun h ↦ absurd hlive h, by simp, nofun⟩
  case isFalse =>
    refine ⟨fun _ ↦ rfl, le_rfl, fun i hi ↦ ?_⟩
    rw [List.mem_singleton.mp hi]
    exact ⟨rfl, rfl, rfl⟩

end Committed

/-! ## Operators -/

/-- `UPDATE deliveries` of one row that meets the guard. -/
def updateDelivery (tenantID deliveryID : String) (guard : Delivery → Bool) (f : Delivery → Delivery)
    (hid : ∀ d, (f d).id = d.id) (db : DB) : Except StoreError (Unit × DB) := do
  let _ ← selectRow db.deliveries fun d ↦ d.tenantID == tenantID && d.id == deliveryID && guard d
  return ((), { db with
    deliveries := db.deliveries.modify
      (fun d ↦ if (d.tenantID == tenantID && d.id == deliveryID && guard d) = true then f d else d)
      (fun d ↦ by split; exacts [hid d, rfl]) (fun _ ↦ rfl) })

def retryDelivery (tenantID deliveryID : String) (env : Env) : DB → Except StoreError (Unit × DB) :=
  updateDelivery tenantID deliveryID (fun _ ↦ true)
    (fun d ↦ { d with
      state := .scheduled, nextAttemptAt := timestamptz env.now, lockedBy := none, lockExpiresAt := none })
    (fun _ ↦ rfl)

def cancelDelivery (tenantID deliveryID : String) : DB → Except StoreError (Unit × DB) :=
  updateDelivery tenantID deliveryID
    (fun d ↦ !(d.state == .succeeded || d.state == .deadLettered || d.state == .canceled))
    (fun d ↦ { d with state := .canceled, lockedBy := none, lockExpiresAt := none }) (fun _ ↦ rfl)

theorem updateDelivery_eq_ok {tenantID deliveryID : String} {guard : Delivery → Bool}
    {f : Delivery → Delivery} {hid : ∀ d, (f d).id = d.id} {db db' : DB}
    (h : updateDelivery tenantID deliveryID guard f hid db = .ok ((), db')) :
    db' = { db with deliveries := db'.deliveries } ∧
      ∀ d' ∈ db'.deliveries, ∃ d ∈ db.deliveries, d' = d ∨ d' = f d := by
  obtain ⟨_, -, h⟩ := bind_eq_ok.mp h
  cases h
  refine ⟨rfl, fun d' hd' ↦ ?_⟩
  obtain ⟨d, hd, rfl⟩ := List.mem_map.mp hd'
  refine ⟨d, hd, ?_⟩
  split
  · exact .inr rfl
  · exact .inl rfl

end Webhookery.Store
