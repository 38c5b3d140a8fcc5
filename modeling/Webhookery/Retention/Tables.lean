import Webhookery.Audit.Tables
import Webhookery.Store.Attempts
import Mathlib.Data.Finmap

/-!
# Retention policies and what they delete

A policy of a tenant names a type of resource, an age, and optionally a source. Applying it selects the oldest
hundred items of that type that are over the age, deletes their bodies or rows, and records the run with one row
for each item and an audit event. A policy under legal hold is not applied.

The tables of captures and deliveries are those of the store. Where the bytes of a raw payload are kept is in
columns of its own here, and so are the responses of provider APIs.
-/

namespace Webhookery.Retention

open Go Relational Store Audit

/-! ## Rows -/

/-- `resource_type`; the column is a text. -/
inductive RetentionResource where
  | rawPayload
  | normalized
  | deliveryPayload
  | providerAPI
  | auditEvent
  | other (text : String)
  deriving DecidableEq, Repr

def RetentionResource.text : RetentionResource → String
  | .rawPayload => "raw_payload"
  | .normalized => "normalized_envelope_data"
  | .deliveryPayload => "delivery_payload"
  | .providerAPI => "provider_api_evidence"
  | .auditEvent => "audit_event"
  | .other text => text

/-- A row of `retention_policies`; no source means every source. -/
structure RetentionPolicy where
  (id tenantID : String)
  resourceType : RetentionResource
  sourceID : String
  retentionDays : Int
  state : ConfigState
  legalHold : Bool
  (holdReason createdBy : String)
  updatedAt : Time
  deriving DecidableEq, Repr

inductive RetentionRunState where
  | running
  | completed
  deriving DecidableEq, Repr

structure RetentionRun where
  (id tenantID policyID : String)
  resourceType : RetentionResource
  state : RetentionRunState
  (matchedItems processedItems : Nat)
  completedAt : Option Time
  deriving DecidableEq, Repr

inductive ItemAction where
  | deleteBody
  | deleteRow
  deriving DecidableEq, Repr

structure RetentionRunItem where
  (id tenantID retentionRunID : String)
  resourceType : RetentionResource
  resourceID : String
  action : ItemAction
  deriving DecidableEq, Repr

inductive RawStorage where
  | postgres
  | s3
  deriving DecidableEq, Repr

/-- The columns `storage_backend`, `object_bucket` and `object_key` of a raw payload. -/
structure RawPayloadStorage where
  rawPayloadID : String
  backend : RawStorage
  (bucket key : String)
  deriving DecidableEq, Repr

structure ProviderAPIEvidence where
  (id tenantID jobID connectionID responseSHA256 : String)
  responseBody : Bytes
  storageStatus : StorageStatus
  createdAt : Time

structure RetentionDB where
  store : DB
  storage : Table RawPayloadStorage RawPayloadStorage.rawPayloadID noIndex
  providerAPIEvidence : Table ProviderAPIEvidence ProviderAPIEvidence.id noIndex
  audit : AuditTables
  policies : Table RetentionPolicy RetentionPolicy.id (fun p ↦ some (p.tenantID, p.resourceType, p.sourceID))
  runs : Table RetentionRun RetentionRun.id noIndex
  runItems : Table RetentionRunItem RetentionRunItem.id noIndex

/-! ## Writing policies -/

structure CreateRetentionPolicyRequest where
  resourceType : RetentionResource
  sourceID : String
  retentionDays : Int
  state : ConfigState
  legalHold : Bool
  holdReason : String
  deriving DecidableEq, Repr

structure UpdateRetentionPolicyRequest where
  retentionDays : Option Int
  state : Option ConfigState
  sourceID : Option String
  legalHold : Option Bool
  holdReason : Option String
  deriving DecidableEq, Repr

/-- The row of a new policy. -/
def policyRow (env : Env) (tenantID actorID : String) (req : CreateRetentionPolicyRequest) : RetentionPolicy where
  id := env.mustID "ret" 0
  tenantID := tenantID
  resourceType := req.resourceType
  sourceID := req.sourceID
  retentionDays := req.retentionDays
  state := req.state
  legalHold := req.legalHold
  holdReason := req.holdReason
  createdBy := actorID
  updatedAt := timestamptz env.now

/-- A policy with the values of another one for the same scope. -/
def RetentionPolicy.upsert (row p : RetentionPolicy) : RetentionPolicy :=
  { p with retentionDays := row.retentionDays, state := row.state, legalHold := row.legalHold,
           holdReason := row.holdReason, updatedAt := row.updatedAt }

/-- `CreateRetentionPolicy`: a policy of the same scope is overwritten. -/
def createRetentionPolicy (env : Env) (tenantID actorID : String) (req : CreateRetentionPolicyRequest)
    (db : RetentionDB) : Except StoreError RetentionDB := do
  let row := policyRow env tenantID actorID req
  require ([tenantID, req.resourceType.text, req.sourceID, req.holdReason, actorID].all textAccepts) .failed
  match db.policies.byIndex (row.tenantID, row.resourceType, row.sourceID) with
  | some _ =>
    return { db with
      policies := db.policies.modify
        (fun p ↦ if p.tenantID = row.tenantID ∧ p.resourceType = row.resourceType ∧ p.sourceID = row.sourceID then
          row.upsert p else p)
        (fun p ↦ by split <;> rfl) (fun p ↦ by split <;> rfl) }
  | none =>
    let policies ← insertRow db.policies row
    return { db with policies }

/-- The first statement of `UpdateRetentionPolicy`: the row as it is. -/
def readRetentionPolicy (tenantID policyID : String) (db : RetentionDB) : Except StoreError RetentionPolicy :=
  selectRow db.policies fun p ↦ p.tenantID == tenantID && p.id == policyID

/-- The row that was read, with what the request changes. -/
def RetentionPolicy.updated (req : UpdateRetentionPolicyRequest) (existing : RetentionPolicy) : RetentionPolicy :=
  { existing with
    retentionDays := req.retentionDays.getD existing.retentionDays
    state := req.state.getD existing.state
    sourceID := req.sourceID.getD existing.sourceID
    legalHold := req.legalHold.getD existing.legalHold
    holdReason := req.holdReason.getD existing.holdReason }

/-- The second statement of `UpdateRetentionPolicy`: all columns are written, also those that were only read. -/
def writeRetentionPolicy (env : Env) (tenantID policyID : String) (existing : RetentionPolicy) (db : RetentionDB) :
    Except StoreError RetentionDB := do
  require ([existing.sourceID, existing.holdReason].all textAccepts) .failed
  match db.policies.modify? fun p ↦
      if p.tenantID = tenantID ∧ p.id = policyID then
        { existing.upsert p with sourceID := existing.sourceID, updatedAt := timestamptz env.now }
      else p with
  | some policies => return { db with policies }
  | none => .error .failed

/-- The policies a worker goes through: active ones without a hold, those that were not touched for longest
first. -/
def activePolicies (scan : Scan RetentionPolicy) (limit : Int) (db : RetentionDB) : List RetentionPolicy :=
  (((scan.order db.policies.rows).filter fun p ↦ p.state == .active && !p.legalHold).insertionSort fun p p' ↦
    p.updatedAt ≤ p'.updatedAt).take (if limit ≤ 0 then 10 else limit).toNat

/-! ## What can be deleted -/

/-- A resource that retention may delete: since when it is there, and the source it belongs to. -/
structure Item where
  (id tenantID : String)
  since : Time
  source : Option String
  deriving DecidableEq, Repr

/-- The source of an event, through the join with `events`. -/
def eventSource (db : DB) (tenantID eventID : String) : Option String :=
  (db.events.find? fun e ↦ e.tenantID == tenantID && e.id == eventID).map Event.sourceID

/-- The items of rows with a body, as long as the body is there. -/
def storedItems {α : Type} (status : α → StorageStatus) (item : α → Item) (rows : List α) : List Item :=
  (rows.filter fun r ↦ status r == .stored).map item

/-- An `UPDATE` of the row of a tenant with an identifier. -/
def blankWhere {α : Type} (tenantOf idOf : α → String) (blank : α → α) (tenantID id : String) (r : α) : α :=
  if tenantOf r = tenantID ∧ idOf r = id then blank r else r

/-- What the retention of one type of resource reads and writes: the items that are there, whether the query
filters by the source of the policy, and what happens to the row of a selected item. -/
structure ResourceRetention where
  items : RetentionDB → List Item
  bySource : Bool
  delete : Time → RetentionPolicy → String → RetentionDB → RetentionDB
  action : ItemAction

def blankRawPayload (r : RawPayload) : RawPayload := { r with body := [], storageStatus := .deleted }

/-- `applyRawPayloadRetention`, apart from the objects. -/
def rawPayloadRetention : ResourceRetention where
  items db := storedItems RawPayload.storageStatus (fun r ↦
    ⟨r.id, r.tenantID, r.createdAt, r.eventID.bind (eventSource db.store r.tenantID)⟩) db.store.rawPayloads.rows
  bySource := true
  delete _ policy id db := { db with store := { db.store with
    rawPayloads := db.store.rawPayloads.modify
      (blankWhere RawPayload.tenantID RawPayload.id blankRawPayload policy.tenantID id)
      (fun r ↦ by unfold blankWhere; split <;> rfl) (fun _ ↦ rfl) } }
  action := .deleteBody

/-- The metadata of an envelope stays. -/
def blankNormalized (r : NormalizedRow) : NormalizedRow :=
  { r with envelope := bytesOf "\x7b\x7d", data := bytesOf "\x7b\x7d", storageStatus := .deleted }

/-- `applyNormalizedEnvelopeRetention`. -/
def normalizedEnvelopeRetention : ResourceRetention where
  items db := storedItems NormalizedRow.storageStatus (fun r ↦
    ⟨r.id, r.tenantID, r.createdAt, eventSource db.store r.tenantID r.eventID⟩) db.store.normalized.rows
  bySource := true
  delete _ policy id db := { db with store := { db.store with
    normalized := db.store.normalized.modify
      (blankWhere NormalizedRow.tenantID NormalizedRow.id blankNormalized policy.tenantID id)
      (fun r ↦ by unfold blankWhere; split <;> rfl) (fun r ↦ by unfold blankWhere; split <;> rfl) } }
  action := .deleteBody

/-- `applyDeliveryPayloadRetention`. -/
def deliveryPayloadRetention : ResourceRetention where
  items db := storedItems DeliveryPayload.storageStatus (fun r ↦
    ⟨r.id, r.tenantID, r.createdAt, eventSource db.store r.tenantID r.eventID⟩) db.store.deliveryPayloads.rows
  bySource := true
  delete _ policy id db := { db with store := { db.store with
    deliveryPayloads := db.store.deliveryPayloads.modify
      (blankWhere DeliveryPayload.tenantID DeliveryPayload.id DeliveryPayload.withoutBody policy.tenantID id)
      (fun r ↦ by unfold blankWhere; split <;> rfl) (fun r ↦ by unfold blankWhere; split <;> rfl) } }
  action := .deleteBody

def blankEvidence (r : ProviderAPIEvidence) : ProviderAPIEvidence :=
  { r with responseBody := [], storageStatus := .deleted }

/-- `applyProviderAPIEvidenceRetention`: the query has no filter for a source, and the responses of a provider
belong to none. -/
def providerAPIEvidenceRetention : ResourceRetention where
  items db := storedItems ProviderAPIEvidence.storageStatus (fun r ↦
    ⟨r.id, r.tenantID, r.createdAt, none⟩) db.providerAPIEvidence.rows
  bySource := false
  delete _ policy id db := { db with
    providerAPIEvidence := db.providerAPIEvidence.modify
      (blankWhere ProviderAPIEvidence.tenantID ProviderAPIEvidence.id blankEvidence policy.tenantID id)
      (fun r ↦ by unfold blankWhere; split <;> rfl) (fun _ ↦ rfl) }
  action := .deleteBody

/-- The policy as the tombstones of the audit chain name it. -/
def RetentionPolicy.forAudit (policy : RetentionPolicy) : Audit.RetentionPolicy :=
  ⟨policy.id, policy.tenantID, policy.retentionDays, policy.legalHold⟩

/-- `applyAuditEventRetention`: the query has no filter for a source, rows are deleted, and the entry of the
chain becomes a tombstone. -/
def auditEventRetention : ResourceRetention where
  items db := db.audit.events.rows.map fun e ↦ ⟨e.id, e.tenantID, e.occurredAt, none⟩
  bySource := false
  delete now policy id db :=
    { db with audit := deleteEvent policy.tenantID id (retainEntry now policy.forAudit id db.audit) }
  action := .deleteRow

/-- The `switch` over the type of a policy; there is none for an unsupported type. -/
def RetentionResource.retention : RetentionResource → Option ResourceRetention
  | .rawPayload => some rawPayloadRetention
  | .normalized => some normalizedEnvelopeRetention
  | .deliveryPayload => some deliveryPayloadRetention
  | .providerAPI => some providerAPIEvidenceRetention
  | .auditEvent => some auditEventRetention
  | .other _ => none

/-- `time.Now().UTC().AddDate(0, 0, -policy.RetentionDays)`. -/
def RetentionPolicy.cutoff (now : Time) (policy : RetentionPolicy) : Time := policy.forAudit.cutoff now

/-- An item that the query of a policy finds. -/
def ResourceRetention.selects (r : ResourceRetention) (policy : RetentionPolicy) (cutoff : Time) (item : Item) : Bool :=
  item.tenantID == policy.tenantID && decide (item.since < timestamptz cutoff) &&
    (!r.bySource || policy.sourceID == "" || item.source == some policy.sourceID)

/-- The oldest hundred items that a policy finds. -/
def ResourceRetention.expired (r : ResourceRetention) (scan : Scan Item) (policy : RetentionPolicy)
    (cutoff : Time) (db : RetentionDB) : List Item :=
  (((scan.order (r.items db)).filter (r.selects policy cutoff)).insertionSort fun i i' ↦ i.since ≤ i'.since).take 100

/-! ## The run -/

def runRow (env : Env) (policy : RetentionPolicy) : RetentionRun where
  id := env.mustID "rrn" 0
  tenantID := policy.tenantID
  policyID := policy.id
  resourceType := policy.resourceType
  state := .running
  matchedItems := 0
  processedItems := 0
  completedAt := none

/-- The run belongs to a policy that is there. -/
def insertRun (env : Env) (policy : RetentionPolicy) (db : RetentionDB) : Except StoreError RetentionDB := do
  require (db.policies.rows.any fun p ↦ p.id == policy.id) .failed
  let runs ← insertRow db.runs (runRow env policy)
  return { db with runs }

def runItemRow (r : ResourceRetention) (env : Env) (n : Nat) (policy : RetentionPolicy) (id : String) :
    RetentionRunItem where
  id := env.mustID "rri" n
  tenantID := policy.tenantID
  retentionRunID := env.mustID "rrn" 0
  resourceType := policy.resourceType
  resourceID := id
  action := r.action

/-- The loop over the selected items: each is deleted and recorded, the first one as number `n`. -/
def deleteItems (r : ResourceRetention) (env : Env) (policy : RetentionPolicy) :
    Nat → List String → RetentionDB → Except StoreError RetentionDB
  | _, [], db => .ok db
  | n, id :: rest, db => do
    let db := r.delete env.now policy id db
    let runItems ← insertRow db.runItems (runItemRow r env n policy id)
    deleteItems r env policy (n + 1) rest { db with runItems }

def RetentionRun.complete (now : Time) (processed : Nat) (run : RetentionRun) : RetentionRun :=
  { run with
    state := .completed
    matchedItems := processed
    processedItems := processed
    completedAt := some (timestamptz now) }

def completeRun (env : Env) (policy : RetentionPolicy) (processed : Nat) (db : RetentionDB) : RetentionDB :=
  { db with
    runs := db.runs.modify
      (fun run ↦ if run.tenantID = policy.tenantID ∧ run.id = env.mustID "rrn" 0 then run.complete env.now processed else run)
      (fun run ↦ by split <;> rfl) (fun _ ↦ rfl) }

/-- What a run records about itself. -/
def RetentionPolicy.completed (workerID : String) (policy : RetentionPolicy) : AuditEventInput :=
  { policy.forAudit.completed workerID with reason := policy.resourceType.text }

/-- What the transaction of a run writes, for the items it has selected. -/
def retentionTx (crypto : Crypto) (r : ResourceRetention) (env : Env) (workerID : String) (policy : RetentionPolicy)
    (ids : List String) (db : RetentionDB) : Except StoreError RetentionDB := do
  let db ← insertRun env policy db
  let db ← deleteItems r env policy 0 ids db
  let db := completeRun env policy ids.length db
  let (_, audit) ← recordAuditEventTx crypto env 0 (policy.completed workerID) db.audit
  return { db with audit }

end Webhookery.Retention
