import Webhookery.Store.Outbox

/-!
# Reconciliation jobs

The store operations of a reconciliation worker: the job and its connection, the events a provider
object is already known as, the items of a job, and the capture of a recovered object with the
outbox row that routes it.
-/

namespace Webhookery.Store

open Go

/-- `getProviderConnectionSecret`; the credential itself is not modelled. -/
def getProviderConnection (tenantID connectionID : String) (db : DB) : Except StoreError ProviderConnection :=
  selectRow db.connections fun c ↦ c.tenantID == tenantID && c.id == connectionID && c.state == .active

def getReconciliationWork (tenantID jobID : String) : Work (ReconciliationJob × ProviderConnection) := do
  let job ← query fun db ↦
    selectRow db.reconciliationJobs fun j ↦ j.tenantID == tenantID && j.id == jobID
  let conn ← query (getProviderConnection tenantID job.connectionID)
  return (job, conn)

/-- `UPDATE reconciliation_jobs` of the rows that meet a condition. -/
def updateReconciliationJobs (p : ReconciliationJob → Bool) (f : ReconciliationJob → ReconciliationJob)
    (hid : ∀ j, (f j).id = j.id) (db : DB) : DB :=
  { db with
    reconciliationJobs := db.reconciliationJobs.modify (fun j ↦ if p j then f j else j)
      (fun j ↦ by split; exacts [hid j, rfl]) (fun _ ↦ rfl) }

/-- `StartReconciliationJob`: whether the job was still scheduled. -/
def startReconciliationJob (tenantID jobID : String) (db : DB) : Except StoreError (Bool × DB) :=
  let scheduled := fun j : ReconciliationJob ↦
    j.tenantID == tenantID && j.id == jobID && j.state == .scheduled
  .ok (db.reconciliationJobs.rows.any scheduled,
    updateReconciliationJobs scheduled (fun j ↦ { j with state := .running }) (fun _ ↦ rfl) db)

/-- The outcomes of the items of a job. -/
def itemOutcomes (tenantID jobID : String) (db : DB) : List ReconciliationOutcome :=
  (db.reconciliationItems.rows.filter fun i ↦ i.tenantID == tenantID && i.jobID == jobID).map
    ReconciliationItem.outcome

def countOutcomes (outcomes : List ReconciliationOutcome) : ReconciliationCounts where
  total := outcomes.length
  matched := outcomes.count .matched
  missing := outcomes.count .missing
  captured := outcomes.count .captured
  redelivered := outcomes.count .redeliveryRequested
  unrecoverable := outcomes.count .unrecoverable
  failed := outcomes.count .failed

def ReconciliationJob.notCanceled (tenantID jobID : String) (j : ReconciliationJob) : Bool :=
  j.tenantID == tenantID && j.id == jobID && j.state != .canceled

def completeReconciliationJob (tenantID jobID : String) (db : DB) : Except StoreError (Unit × DB) :=
  let counts := countOutcomes (itemOutcomes tenantID jobID db)
  .ok ((), updateReconciliationJobs (ReconciliationJob.notCanceled tenantID jobID)
    (fun j ↦ { j with state := .completed, counts }) (fun _ ↦ rfl) db)

def failReconciliationJob (tenantID jobID errorText : String) (db : DB) : Except StoreError (Unit × DB) :=
  .ok ((), updateReconciliationJobs (ReconciliationJob.notCanceled tenantID jobID)
    (fun j ↦ { j with state := .failed, error := errorText }) (fun _ ↦ rfl) db)

def updateReconciliationCursor (tenantID jobID cursor : String) (db : DB) : Except StoreError (Unit × DB) :=
  .ok ((), updateReconciliationJobs (fun j ↦ j.tenantID == tenantID && j.id == jobID)
    (fun j ↦ { j with cursor }) (fun _ ↦ rfl) db)

/-- `findLocalProviderEvent`: the first event received for a provider object, empty when none. -/
def findLocalProviderEvent (tenantID : String) (conn : ProviderConnection) (objectID : String) (db : DB) : String :=
  match db.events.firstBy
      (fun e ↦ e.tenantID == tenantID && e.provider == conn.provider && e.providerID == objectID &&
        (conn.sourceID == "" || e.sourceID == conn.sourceID))
      (fun e e' ↦ e.receivedAt < e'.receivedAt) with
  | some e => e.id
  | none => ""

def insertReconciliationItem (item : ReconciliationItem) (env : Env) (db : DB) :
    Except StoreError (String × DB) := do
  require (db.reconciliationJobs.rows.any (·.id == item.jobID)) .failed
  let reconciliationItems ← insertRow db.reconciliationItems { item with id := env.mustID "rci" 0 }
  return (env.mustID "rci" 0, { db with reconciliationItems })

/-- `RecordProviderAPIEvidence`: evidence rows are read by no modelled operation, so that only the
identifier is kept. -/
def recordProviderAPIEvidence : Work String :=
  transaction fun env db ↦ .ok (env.mustID "pae" 0, db)

def attachProviderEvidenceToItem : Work Unit := transaction fun _ db ↦ .ok ((), db)

/-- The outbox row of a recovered event, when recovered events are routed. -/
def routeRecoveredEvent (input : RecoveredCapture) (eventID : String) : Work Unit :=
  if input.routeRecovered then
    transaction (enqueueRouteEvent input.connection.tenantID eventID true)
  else return ()

/-- `CaptureRecoveredProviderEvent`: the source, the transaction and the outbox row are separate
steps. -/
def captureRecoveredProviderEvent (crypto : Crypto) (input : RecoveredCapture) : Work String := do
  let source ← query (findRecoverySource input.connection)
  let now ← clockNow
  let eventID ← transaction fun env ↦ captureRecovered crypto env input source now
  routeRecoveredEvent input eventID
  return eventID

end Webhookery.Store
