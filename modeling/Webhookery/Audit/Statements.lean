import Webhookery.Audit.Ledger
import Webhookery.Concurrency.ReadCommitted

/-!
# Backfill and retention, statement by statement

The transactions of the backfill and of retention runs as the statements they consist of. A statement sees
what is committed and what its own transaction wrote. The head row of a tenant is locked by `SELECT ... FOR
UPDATE` and by its insertion, the lease by the backfill that takes it, and rows that are updated or deleted
by who does so; a statement that needs a row which another transaction holds waits. Entries of a tenant are
inserted under the lock of its head row only, so their constraints make nobody wait.
-/

namespace Webhookery.Audit

open Go Relational Store AuditTables Concurrency

/-! ## Pending writes -/

/-- The tables with a row that a statement has inserted and checked before. -/
def putEntry (db : AuditTables) (entry : AuditChainEntry) : AuditTables :=
  match db.entries.insert? entry with
  | some entries => { db with entries }
  | none => db

def putEvent (db : AuditTables) (event : AuditEvent) : AuditTables :=
  match db.events.insert? event with
  | some events => { db with events }
  | none => db

/-- The tables with a head row that was inserted or updated. -/
def putHead (db : AuditTables) (head : AuditChainHead) : AuditTables :=
  match db.heads.insert? head with
  | some heads => { db with heads }
  | none => { db with heads := db.heads.replace head fun _ _ ↦ rfl }

def putLease (db : AuditTables) (lease : WorkerLease) : AuditTables :=
  match db.leases.insert? lease with
  | some leases => { db with leases }
  | none => { db with leases := db.leases.replace lease (noIndex_eq lease) }

/-! ## Transactions -/

/-- What a backfill does next; the tenants after the current one and the number of events that are left
for them go with it. -/
inductive BackfillStage where
  | lease (workerID : String) (limit : Nat)
  | tenants (limit : Nat)
  | insertHead (tenantID : String) (rest : List String) (remaining : Nat)
  | lockHead (tenantID : String) (rest : List String) (remaining : Nat)
  | select (tenantID : String) (rest : List String) (remaining : Nat) (sequence : Int) (previousHash : String)
  | insertEntries (tenantID : String) (rest : List String) (remaining : Nat) (events : List AuditEvent)
    (v : BackfillState)
  | commit

/-- A backfill transaction: `now()` of its statements, the time it takes after it has read the tenants, its
stage, what it wrote, the tenants whose head rows it holds, and the events it has read. -/
structure BackfillTx where
  (started now : Time)
  stage : BackfillStage
  lease : Option WorkerLease
  entries : List AuditChainEntry
  heads : List AuditChainHead
  locked : List String
  read : List AuditEvent

inductive RetentionStage where
  | select
  | update (ids : List String)
  | delete (id : String) (rest : List String)
  | insertEvent
  | insertHead (event : AuditEvent)
  | lockHead (event : AuditEvent)
  | insertEntry (event : AuditEvent) (sequence : Int) (previousHash : String)
  | updateHead (event : AuditEvent) (entry : AuditChainEntry)
  | commit

/-- A retention transaction: `now()` of its statements, the events whose entries it has updated, the rows
that this changed, and what else it wrote. -/
structure RetentionTx where
  started : Time
  workerID : String
  policy : RetentionPolicy
  scan : Scan AuditEvent
  stage : RetentionStage
  marked : List String
  tombstones : List (String × Int)
  deleted : List String
  event : Option AuditEvent
  entry : Option AuditChainEntry
  heads : List AuditChainHead
  locked : List String

inductive AuditTx where
  | backfill (b : BackfillTx)
  | retention (r : RetentionTx)

/-- The tables as a backfill sees them, and commits them. -/
def BackfillTx.view (b : BackfillTx) (db : AuditTables) : AuditTables :=
  b.heads.foldl putHead (b.entries.foldl putEntry (b.lease.toList.foldl putLease db))

/-- The tombstones of a transaction. -/
def RetentionTx.tombstone (r : RetentionTx) (entry : AuditChainEntry) : AuditChainEntry :=
  if r.tombstones.contains (entry.tenantID, entry.sequence) then entry.tombstone r.started r.policy else entry

/-- The tables without the events that were deleted. -/
def RetentionTx.retire (r : RetentionTx) (db : AuditTables) : AuditTables :=
  { db with
    entries := db.entries.modify r.tombstone (fun _ ↦ by unfold RetentionTx.tombstone; split <;> rfl) fun _ ↦ rfl
    events := db.events.delete fun e ↦ e.tenantID == r.policy.tenantID && r.deleted.contains e.id }

/-- The tables as a retention run sees them, and commits them. -/
def RetentionTx.view (r : RetentionTx) (db : AuditTables) : AuditTables :=
  r.heads.foldl putHead (r.entry.toList.foldl putEntry (r.event.toList.foldl putEvent (r.retire db)))

namespace AuditTx

/-- The events that a transaction has read in order to chain them. -/
def read : AuditTx → List AuditEvent
  | backfill b => b.read
  | retention _ => []

/-- The events, by tenant and identifier, whose entries a transaction has updated before deleting them. -/
def marked : AuditTx → List (String × String)
  | backfill _ => []
  | retention r => r.marked.map fun id ↦ (r.policy.tenantID, id)

def holdsHead (tenantID : String) : AuditTx → Bool
  | backfill b => b.locked.contains tenantID
  | retention r => r.locked.contains tenantID

def holdsLease : AuditTx → Bool
  | backfill b => b.lease.isSome
  | retention _ => false

def updates (entry : AuditChainEntry) : AuditTx → Bool
  | backfill _ => false
  | retention r => r.tombstones.contains (entry.tenantID, entry.sequence)

def deletes (tenantID eventID : String) : AuditTx → Bool
  | backfill _ => false
  | retention r => r.policy.tenantID == tenantID && r.deleted.contains eventID

def view : AuditTx → AuditTables → AuditTables
  | backfill b => b.view
  | retention r => r.view

end AuditTx

/-! ## Statements -/

/-- The loop over the tenants of a batch. -/
def nextTenant : List String → Nat → BackfillStage
  | _, 0 => .commit
  | [], _ => .commit
  | tenantID :: rest, remaining => .insertHead tenantID rest remaining

/-- The next statement of a backfill. -/
def BackfillTx.statement (crypto : Crypto) (env : Env) (db : AuditTables) (others : List AuditTx)
    (b : BackfillTx) : Outcome BackfillTx :=
  match b.stage with
  | .lease workerID limit =>
    if others.any AuditTx.holdsLease then .waits
    else
      let lease := workerLease b.started auditChainBackfillLeaseID workerID minute
      match acquireLease b.started lease (b.view db) with
      | .error _ => .fails
      | .ok (true, _) => .goes { b with stage := .tenants limit, lease := some lease }
      | .ok (false, _) => .goes { b with stage := .commit }
  | .tenants limit =>
    .goes { b with stage := nextTenant (unchainedTenants limit (b.view db)) limit, now := env.now }
  | .insertHead tenantID rest remaining =>
    if ((b.view db).heads.find? fun h ↦ h.tenantID == tenantID).isSome then
      .goes { b with stage := .lockHead tenantID rest remaining }
    else if others.any (AuditTx.holdsHead tenantID) then .waits
    else
      .goes { b with
        stage := .lockHead tenantID rest remaining
        heads := b.heads ++ [⟨tenantID, 0, "", "", timestamptz b.started⟩]
        locked := tenantID :: b.locked }
  | .lockHead tenantID rest remaining =>
    if others.any (AuditTx.holdsHead tenantID) then .waits
    else
      .goes { b with
        stage := .select tenantID rest remaining ((b.view db).headOf tenantID).1 ((b.view db).headOf tenantID).2
        locked := tenantID :: b.locked }
  | .select tenantID rest remaining sequence previousHash =>
    let events := unchainedEvents tenantID remaining (b.view db)
    .goes { b with
      stage := .insertEntries tenantID rest remaining events ⟨sequence, previousHash, "", 0⟩
      read := b.read ++ events }
  | .insertEntries tenantID rest remaining (event :: events) v =>
    let entry := computeEntry crypto (env.mustID "ace" 0) event (v.sequence + 1) v.previousHash "backfill" b.now
    match insertAuditChainEntry entry (b.view db) with
    | .error _ => .fails
    | .ok _ =>
      .goes { b with
        stage := .insertEntries tenantID rest remaining events
          ⟨v.sequence + 1, entry.chainHash, event.id, v.backfilled + 1⟩
        entries := if (b.view db).chained event then b.entries else b.entries ++ [entry.stored] }
  | .insertEntries tenantID rest remaining [] v =>
    .goes { b with
      stage := nextTenant rest (remaining - v.backfilled)
      heads := if v.lastAuditEventID ≠ "" then
          b.heads ++ [⟨tenantID, v.sequence, v.previousHash, v.lastAuditEventID, timestamptz b.started⟩]
        else b.heads }
  | .commit => .commits

/-- The next statement of a retention run. -/
def RetentionTx.statement (crypto : Crypto) (env : Env) (db : AuditTables) (others : List AuditTx)
    (r : RetentionTx) : Outcome RetentionTx :=
  match r.stage with
  | .select =>
    .goes { r with stage := .update ((expiredEvents r.scan r.policy.tenantID (r.policy.cutoff env.now)
      (r.view db)).map AuditEvent.id) }
  | .update [] => .goes { r with stage := .insertEvent }
  | .update (id :: rest) =>
    let matched := (r.view db).entries.rows.filter fun e ↦
      e.tenantID == r.policy.tenantID && e.auditEventID == id && e.state != .retained
    if matched.any fun e ↦ others.any (AuditTx.updates e) then .waits
    else
      .goes { r with
        stage := .delete id rest
        marked := id :: r.marked
        tombstones := r.tombstones ++ matched.map fun e ↦ (e.tenantID, e.sequence) }
  | .delete id rest =>
    if others.any (AuditTx.deletes r.policy.tenantID id) then .waits
    else .goes { r with stage := .update rest, deleted := id :: r.deleted }
  | .insertEvent =>
    let event := (r.policy.completed r.workerID).event env 0
    match insertAuditEvent event (r.view db) with
    | .error _ => .fails
    | .ok _ => .goes { r with stage := .insertHead event, event := some event }
  | .insertHead event =>
    if ((r.view db).heads.find? fun h ↦ h.tenantID == r.policy.tenantID).isSome then
      .goes { r with stage := .lockHead event }
    else if others.any (AuditTx.holdsHead r.policy.tenantID) then .waits
    else
      .goes { r with
        stage := .lockHead event
        heads := r.heads ++ [⟨r.policy.tenantID, 0, "", "", timestamptz r.started⟩]
        locked := r.policy.tenantID :: r.locked }
  | .lockHead event =>
    if others.any (AuditTx.holdsHead r.policy.tenantID) then .waits
    else
      .goes { r with
        stage := .insertEntry event ((r.view db).headOf r.policy.tenantID).1
          ((r.view db).headOf r.policy.tenantID).2
        locked := r.policy.tenantID :: r.locked }
  | .insertEntry event sequence previousHash =>
    let entry := computeEntry crypto (env.mustID "ace" 0) event (sequence + 1) previousHash "live" event.occurredAt
    match insertAuditChainEntry entry (r.view db) with
    | .error _ => .fails
    | .ok _ =>
      .goes { r with
        stage := .updateHead event entry
        entry := if (r.view db).chained event then r.entry else some entry.stored }
  | .updateHead event entry =>
    .goes { r with
      stage := .commit
      heads := r.heads ++ [⟨r.policy.tenantID, entry.sequence, entry.chainHash, event.id, timestamptz r.started⟩] }
  | .commit => .commits

/-- The events that the next statement reads in order to chain them. -/
def AuditTx.reads (db : AuditTables) : AuditTx → List AuditEvent
  | backfill b =>
    match b.stage with
    | .select tenantID _ remaining _ _ => unchainedEvents tenantID remaining (b.view db)
    | _ => []
  | retention _ => []

/-- The event, if any, whose entry the next statement updates. -/
def AuditTx.marks : AuditTx → List (String × String)
  | backfill _ => []
  | retention r =>
    match r.stage with
    | .update (id :: _) => [(r.policy.tenantID, id)]
    | _ => []

/-- `BackfillAuditChain` begins. -/
def beginBackfill (started : Time) (workerID : String) (limit : Int) : AuditTx :=
  .backfill ⟨started, started, .lease workerID (backfillLimit limit), none, [], [], [], []⟩

/-- `applyRetentionPolicy` begins. -/
def beginRetention (started : Time) (scan : Scan AuditEvent) (workerID : String) (policy : RetentionPolicy) : AuditTx :=
  .retention ⟨started, workerID, policy, scan, .select, [], [], [], none, none, [], []⟩

/-- A transaction that has done nothing yet. -/
def AuditTx.begins : AuditTx → Bool
  | backfill b => b.lease.isNone && b.entries.isEmpty && b.heads.isEmpty && b.locked.isEmpty && b.read.isEmpty &&
    match b.stage with
    | .lease _ _ => true
    | _ => false
  | retention r => !r.policy.legalHold && r.marked.isEmpty && r.tombstones.isEmpty && r.deleted.isEmpty &&
    r.event.isNone && r.entry.isNone && r.heads.isEmpty && r.locked.isEmpty &&
    match r.stage with
    | .select => true
    | _ => false

def auditIsolation (crypto : Crypto) : Isolation AuditTables AuditTx Env where
  begins := AuditTx.begins
  statement env db others
    | .backfill b => (b.statement crypto env db others).map .backfill
    | .retention r => (r.statement crypto env db others).map .retention
  view := AuditTx.view

end Webhookery.Audit
