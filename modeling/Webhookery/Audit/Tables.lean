import Webhookery.Audit.Chain
import Webhookery.Store.Database
import Mathlib.Data.List.Sort

/-!
# Writers of the audit chain

The tables of the audit chain and the transactions that write them: recording an event, alone or within
another operation's transaction; a batch of the backfill, which chains events that were written before there
was a chain; and a retention run, which deletes old events and leaves their entries behind.

A chain entry is kept under its tenant and sequence number. The other two constraints of its table, the
identifier and the event of a tenant, are checked where an entry is inserted.
-/

namespace Webhookery.Audit

open Go Relational Store

/-- A row of `audit_chain_heads`. -/
structure AuditChainHead where
  tenantID : String
  sequence : Int
  (chainHash lastAuditEventID : String)
  updatedAt : Time
  deriving DecidableEq, Repr

/-- A row of `worker_leases`. -/
structure WorkerLease where
  (id workerID : String)
  expiresAt : Time
  deriving DecidableEq, Repr

structure AuditTables where
  events : Table AuditEvent AuditEvent.id noIndex
  entries : Table AuditChainEntry (fun e ↦ (e.tenantID, e.sequence)) noIndex
  heads : Table AuditChainHead AuditChainHead.tenantID noIndex
  leases : Table WorkerLease WorkerLease.id noIndex

namespace AuditTables

variable (db : AuditTables)

/-- The entry of an event: the join of `audit_chain_entries` with `audit_events`. -/
def isEntryOf (event : AuditEvent) (entry : AuditChainEntry) : Bool :=
  entry.tenantID == event.tenantID && entry.auditEventID == event.id

/-- The columns of the event in the `LEFT JOIN`, with `COALESCE` for an event that is not there. -/
def joinedEvent (entry : AuditChainEntry) : AuditEvent :=
  (db.events.find? fun event ↦ isEntryOf event entry).getD ⟨"", "", "", "", "", "", "", 0⟩

/-- The event has an entry. -/
def chained (event : AuditEvent) : Bool := db.entries.rows.any (isEntryOf event)

/-- The chain of a tenant in the order of insertion. -/
def chainOf (tenantID : String) : List AuditChainEntry :=
  db.entries.rows.filter fun e ↦ e.tenantID == tenantID

/-- The sequence number and the chain hash of the head row; both are zero values while there is none. -/
def headOf (tenantID : String) : Int × String :=
  match db.heads.find? fun h ↦ h.tenantID == tenantID with
  | some head => (head.sequence, head.chainHash)
  | none => (0, "")

end AuditTables

/-! ## Statements on the chain -/

/-- `ensureAuditChainHead`: the head row, inserted when there was none. -/
def ensureAuditChainHead (now : Time) (tenantID : String) (db : AuditTables) :
    Except StoreError (Int × String × AuditTables) :=
  match db.heads.find? fun h ↦ h.tenantID == tenantID with
  | some head => .ok (head.sequence, head.chainHash, db)
  | none => do
    let heads ← insertRow db.heads ⟨tenantID, 0, "", "", timestamptz now⟩
    return (0, "", { db with heads })

/-- `insertAuditChainEntry`: nothing is written when the event has an entry. -/
def insertAuditChainEntry (entry : AuditChainEntry) (db : AuditTables) : Except StoreError AuditTables :=
  if db.entries.rows.any fun e ↦ e.tenantID == entry.tenantID && e.auditEventID == entry.auditEventID then .ok db
  else do
    require (textAccepts entry.source && !db.entries.rows.any fun e ↦ e.id == entry.id) .failed
    let entries ← insertRow db.entries { entry with createdAt := timestamptz entry.createdAt }
    return { db with entries }

/-- The `UPDATE` of the head row. -/
def updateHead (now : Time) (tenantID : String) (sequence : Int) (chainHash lastAuditEventID : String)
    (db : AuditTables) : AuditTables :=
  { db with
    heads := db.heads.replace ⟨tenantID, sequence, chainHash, lastAuditEventID, timestamptz now⟩ fun _ _ ↦ rfl }

/-! ## Recording -/

structure AuditEventInput where
  (tenantID actorID action resource resourceID reason : String)
  occurredAt : Time
  source : String
  deriving DecidableEq, Repr

/-- The event that an input describes. -/
def AuditEventInput.event (env : Env) (n : Nat) (input : AuditEventInput) : AuditEvent :=
  let occurredAt := if input.occurredAt = Time.zero then env.now else input.occurredAt
  { id := env.mustID "aud" n, tenantID := input.tenantID, actorID := input.actorID, action := input.action,
    resource := input.resource, resourceID := input.resourceID, reason := input.reason,
    occurredAt := timestamptz occurredAt }

/-- `INSERT INTO audit_events`. -/
def insertAuditEvent (event : AuditEvent) (db : AuditTables) : Except StoreError AuditTables := do
  require ([event.id, event.tenantID, event.actorID, event.action, event.resource, event.resourceID,
    event.reason].all textAccepts) .failed
  let events ← insertRow db.events event
  return { db with events }

variable (crypto : Crypto)

/-- `recordAuditEventTx`, as the `n`-th event of its transaction. -/
def recordAuditEventTx (env : Env) (n : Nat) (input : AuditEventInput) (db : AuditTables) :
    Except StoreError (AuditEvent × AuditTables) := do
  let source := if input.source = "" then "live" else input.source
  let event := input.event env n
  let db ← insertAuditEvent event db
  let (sequence, previousHash, db) ← ensureAuditChainHead env.now event.tenantID db
  let entry := computeEntry crypto (env.mustID "ace" n) event (sequence + 1) previousHash source event.occurredAt
  let db ← insertAuditChainEntry entry db
  return (event, updateHead env.now event.tenantID entry.sequence entry.chainHash event.id db)

/-- The events that one transaction records, in turn. -/
def recordAuditEvents (env : Env) : Nat → List AuditEventInput → AuditTables →
    Except StoreError (List AuditEvent × AuditTables)
  | _, [], db => .ok ([], db)
  | n, input :: rest, db => do
    let (event, db) ← recordAuditEventTx crypto env n input db
    let (events, db) ← recordAuditEvents env (n + 1) rest db
    return (event :: events, db)

/-! ## Backfill -/

def auditChainBackfillLeaseID : String := "audit-chain-backfill"

def auditChainBackfillMax : Int := 1000

/-- The lease is taken when it is free, expired or already the worker's. -/
def acquireLease (now : Time) (lease : WorkerLease) (db : AuditTables) : Except StoreError (Bool × AuditTables) :=
  match db.leases.find? fun l ↦ l.id == lease.id with
  | none => do
    let leases ← insertRow db.leases lease
    return (true, { db with leases })
  | some held =>
    if held.expiresAt ≤ now ∨ held.workerID = lease.workerID then
      .ok (true, { db with leases := db.leases.replace lease fun _ _ ↦ rfl })
    else .ok (false, db)

/-- The lease that a worker asks for. -/
def workerLease (now : Time) (leaseID workerID : String) (ttl : Duration) : WorkerLease :=
  let leaseID := if trimSpace leaseID = "" then "worker" else trimSpace leaseID
  let workerID := if trimSpace workerID = "" then "worker" else trimSpace workerID
  let seconds := if ttl / second ≤ 0 then 60 else ttl / second
  ⟨leaseID, workerID, timestamptz (now + seconds * second)⟩

def tryAcquireWorkerLease (now : Time) (leaseID workerID : String) (ttl : Duration) (db : AuditTables) :
    Except StoreError (Bool × AuditTables) :=
  acquireLease now (workerLease now leaseID workerID ttl) db

/-- `ORDER BY occurred_at ASC, id ASC`. -/
def AuditEvent.order (e e' : AuditEvent) : Bool :=
  ((compare e.occurredAt e'.occurredAt).then (compare e.id e'.id)).isLE

/-- The events of a tenant without an entry, the oldest first. -/
def unchainedEvents (tenantID : String) (limit : Nat) (db : AuditTables) : List AuditEvent :=
  ((db.events.rows.filter fun e ↦ e.tenantID == tenantID && !db.chained e).insertionSort fun e e' ↦
    e.order e' = true).take limit

/-- The least of some values; `MIN`. -/
def least {α : Type} [Ord α] (values : List α) : Option α :=
  (values.insertionSort fun a b ↦ (compare a b).isLE = true).head?

/-- The tenants with such events, `ORDER BY min(occurred_at), min(id), tenant_id`. -/
def unchainedTenants (limit : Nat) (db : AuditTables) : List String :=
  let unchained := db.events.rows.filter fun e ↦ !db.chained e
  let group (tenantID : String) := unchained.filter fun e ↦ e.tenantID == tenantID
  let order (t t' : String) : Bool :=
    ((compare (least ((group t).map AuditEvent.occurredAt)) (least ((group t').map AuditEvent.occurredAt))).then
      ((compare (least ((group t).map AuditEvent.id)) (least ((group t').map AuditEvent.id))).then
        (compare t t'))).isLE
  ((unchained.map AuditEvent.tenantID).dedup.insertionSort fun t t' ↦ order t t' = true).take limit

/-- The variables of the loop over a tenant's events. -/
structure BackfillState where
  sequence : Int
  (previousHash lastAuditEventID : String)
  backfilled : Nat

/-- One round of the loop. `used` identifiers were generated for other tenants of the batch. -/
def backfillEvent (env : Env) (used : Nat) (v : BackfillState × AuditTables) (event : AuditEvent) :
    Except StoreError (BackfillState × AuditTables) := do
  let sequence := v.1.sequence + 1
  let entry := computeEntry crypto (env.mustID "ace" (used + v.1.backfilled)) event sequence v.1.previousHash
    "backfill" env.now
  let db ← insertAuditChainEntry entry v.2
  return (⟨sequence, entry.chainHash, event.id, v.1.backfilled + 1⟩, db)

def backfillTenantAuditChain (env : Env) (used : Nat) (tenantID : String) (limit : Nat) (db : AuditTables) :
    Except StoreError (Nat × AuditTables) := do
  let (sequence, previousHash, db) ← ensureAuditChainHead env.now tenantID db
  let (v, db) ← (unchainedEvents tenantID limit db).foldlM (backfillEvent crypto env used)
    (⟨sequence, previousHash, "", 0⟩, db)
  return (v.backfilled,
    if v.lastAuditEventID ≠ "" then updateHead env.now tenantID v.sequence v.previousHash v.lastAuditEventID db
    else db)

structure AuditChainBackfillResult where
  leaseAcquired : Bool
  (tenantsScanned eventsBackfilled : Nat)
  more : Bool
  deriving DecidableEq, Repr

/-- The loop over the tenants; it ends early when the batch is full. -/
def backfillTenants (env : Env) : List String → Nat → AuditChainBackfillResult → AuditTables →
    Except StoreError (AuditChainBackfillResult × AuditTables)
  | [], _, result, db => .ok (result, db)
  | tenantID :: rest, remaining, result, db =>
    if remaining = 0 then .ok (result, db)
    else do
      let (backfilled, db) ← backfillTenantAuditChain crypto env result.eventsBackfilled tenantID remaining db
      backfillTenants env rest (remaining - backfilled)
        { result with tenantsScanned := result.tenantsScanned + 1,
                      eventsBackfilled := result.eventsBackfilled + backfilled } db

def backfillLimit (limit : Int) : Nat :=
  (if limit ≤ 0 then 100 else if auditChainBackfillMax < limit then auditChainBackfillMax else limit).toNat

def backfillAuditChain (env : Env) (workerID : String) (limit : Int) (db : AuditTables) :
    Except StoreError (AuditChainBackfillResult × AuditTables) := do
  let (acquired, db) ← tryAcquireWorkerLease env.now auditChainBackfillLeaseID workerID minute db
  if !acquired then return (⟨false, 0, 0, false⟩, db)
  else
    let (result, db) ← backfillTenants crypto env (unchainedTenants (backfillLimit limit) db)
      (backfillLimit limit) ⟨true, 0, 0, false⟩ db
    return ({ result with more := db.events.rows.any fun e ↦ !db.chained e }, db)

/-! ## Retention -/

/-- A retention policy for audit events. -/
structure RetentionPolicy where
  (id tenantID : String)
  retentionDays : Int
  legalHold : Bool
  deriving DecidableEq, Repr

/-- `time.Now().UTC().AddDate(0, 0, -policy.RetentionDays)`. -/
def RetentionPolicy.cutoff (now : Time) (policy : RetentionPolicy) : Time :=
  now - policy.retentionDays * (24 * 60 * minute)

/-- The events a retention run deletes. -/
def expiredEvents (scan : Scan AuditEvent) (tenantID : String) (cutoff : Time) (db : AuditTables) : List AuditEvent :=
  (((scan.order db.events.rows).filter fun e ↦ e.tenantID == tenantID && decide (e.occurredAt < cutoff)).insertionSort
    fun e e' ↦ e.occurredAt ≤ e'.occurredAt).take 100

/-- What is left of an entry whose event is deleted. -/
def AuditChainEntry.tombstone (now : Time) (policy : RetentionPolicy) (entry : AuditChainEntry) : AuditChainEntry :=
  { entry with
    state := .retained
    auditEventDeletedAt := some (timestamptz now)
    tombstoneReason := "retention_policy:" ++ policy.id }

/-- The entry of an event that is about to be deleted becomes a tombstone; others stay. -/
def AuditChainEntry.retain (now : Time) (policy : RetentionPolicy) (eventID : String) (entry : AuditChainEntry) :
    AuditChainEntry :=
  if entry.tenantID = policy.tenantID ∧ entry.auditEventID = eventID ∧ entry.state ≠ .retained then
    entry.tombstone now policy
  else entry

/-- The `UPDATE` of the entry of an event that is about to be deleted. -/
def retainEntry (now : Time) (policy : RetentionPolicy) (eventID : String) (db : AuditTables) : AuditTables :=
  { db with
    entries := db.entries.modify (AuditChainEntry.retain now policy eventID)
      (fun _ ↦ by unfold AuditChainEntry.retain; split <;> rfl) fun _ ↦ rfl }

/-- `DELETE FROM audit_events`. -/
def deleteEvent (tenantID eventID : String) (db : AuditTables) : AuditTables :=
  { db with events := db.events.delete fun e ↦ e.tenantID == tenantID && e.id == eventID }

def applyAuditEventRetention (env : Env) (scan : Scan AuditEvent) (policy : RetentionPolicy) (cutoff : Time)
    (db : AuditTables) : AuditTables :=
  (expiredEvents scan policy.tenantID cutoff db).foldl (fun db event ↦
    deleteEvent policy.tenantID event.id (retainEntry env.now policy event.id db)) db

/-- What a run records about itself. -/
def RetentionPolicy.completed (workerID : String) (policy : RetentionPolicy) : AuditEventInput where
  tenantID := policy.tenantID
  actorID := workerID
  action := "retention.run.completed"
  resource := "retention_policy"
  resourceID := policy.id
  reason := "audit_event"
  occurredAt := Time.zero
  source := ""

/-- `applyRetentionPolicy` for audit events: the run is recorded in the transaction that deletes. -/
def applyRetentionPolicy (env : Env) (scan : Scan AuditEvent) (workerID : String) (policy : RetentionPolicy)
    (db : AuditTables) : Except StoreError (List AuditEvent × AuditTables) :=
  if policy.legalHold then .ok ([], db)
  else
    recordAuditEvents crypto env 0 [policy.completed workerID]
      (applyAuditEventRetention env scan policy (policy.cutoff env.now) db)

end Webhookery.Audit
