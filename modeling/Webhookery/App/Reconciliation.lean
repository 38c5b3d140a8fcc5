import Webhookery.Store.Reconciliation

/-!
# Reconciliation workers

`ReconciliationService`. The provider's API is a parameter: its answers to a scan, to lookups and to
redelivery requests, the last two numbered by the object of the scan that they are about.
-/

namespace Webhookery.App

open Go Store Provider

structure ProviderObject where
  (id eventType : String)
  (failed recoverable redeliverable : Bool)
  rawBody : Bytes
  requestHeaders : List HeaderPair

/-- The answer of the API to a lookup: the object, that lookups are not supported, or an error. -/
inductive LookupResult where
  | found (object : ProviderObject)
  | unsupported
  | failed (errText : String)

/-- What one scan returned: the objects or an error, and how many calls it recorded. -/
structure ScanResult where
  objects : Except String (List ProviderObject)
  evidence : Nat
  nextCursor : String

/-- The adapter of a provider: whether it can scan, its limitations, and the answers of the API.
Lookups and redelivery requests come with the number of calls they recorded. -/
structure ReconcileAdapter where
  canScanEvents : Bool
  limitations : String
  scan : ScanResult
  lookup : Nat → LookupResult × Nat
  requestRedelivery : Nat → Option String × Nat

/-- `providerErrorForDB`: a text that may hold a credential is replaced. -/
def providerErrorForDB (e : StoreError) : String :=
  if ["sk_", "ghp_", "github_pat_", "xoxb-", "shpat_"].any (Go.contains e.message ·) then
    "provider request failed"
  else e.message

/-- The evidence of some calls; the last identifier is kept. -/
def recordEvidence (last : String) : Nat → Work String
  | 0 => return last
  | calls + 1 => do
    let id ← recordProviderAPIEvidence
    recordEvidence id calls

/-- What is known about an object while it is reconciled. -/
structure ObjectProgress where
  outcome : ReconciliationOutcome
  (recoveredEventID evidenceID error : String)

/-- The object whose payload is captured: the scanned one, or what a lookup returned for it. -/
def lookupPayload (adapter : ReconcileAdapter) (n : Nat) (object : ProviderObject) : LookupResult × Nat :=
  if object.rawBody = [] ∨ object.recoverable = false then adapter.lookup n else (.found object, 0)

section

variable (crypto : Crypto) (adapter : ReconcileAdapter) (job : ReconciliationJob) (conn : ProviderConnection)

/-- The capture of a missing object whose payload is known; a failed capture is an outcome. -/
def captureMissing (object : ProviderObject) (evidenceID : String) : Work ObjectProgress :=
  if object.recoverable = true ∧ object.rawBody ≠ [] then do
    let captured ← (captureRecoveredProviderEvent crypto
      { connection := conn, objectID := object.id, eventType := object.eventType,
        rawBody := object.rawBody, requestHeaders := object.requestHeaders,
        routeRecovered := job.routeRecovered }).attempt
    match captured with
    | .ok eventID => return ⟨.captured, eventID, evidenceID, ""⟩
    | .error e => return ⟨.failed, "", evidenceID, e.message⟩
  else
    return ⟨.unrecoverable, "", evidenceID, "provider API did not include a recoverable payload body"⟩

/-- The recovery of an object without local event. -/
def recoverMissing (n : Nat) (object : ProviderObject) : Work ObjectProgress := do
  let (found, calls) := lookupPayload adapter n object
  let evidenceID ← recordEvidence "" calls
  match found with
  | .found lookedUp => captureMissing crypto job conn lookedUp evidenceID
  | .unsupported => return ⟨.unrecoverable, "", evidenceID,
      "provider does not expose recoverable payload evidence for this object"⟩
  | .failed errText => return ⟨.failed, "", evidenceID, errText⟩

/-- The redelivery of a failed object, when the job asks for it. -/
def redeliver (n : Nat) (object : ProviderObject) (progress : ObjectProgress) : Work (ObjectProgress × Bool) :=
  if job.redeliverFailed = true ∧ object.failed = true ∧ object.redeliverable = true then do
    let (failure, calls) := adapter.requestRedelivery n
    let evidenceID ← recordEvidence progress.evidenceID calls
    match failure with
    | some errText => return ({ progress with outcome := .failed, error := errText, evidenceID }, false)
    | none => return ({ progress with outcome := .redeliveryRequested, evidenceID }, true)
  else return (progress, false)

/-- The first outcome of an object, and its recovery when the job captures missing objects. -/
def recoverObject (n : Nat) (object : ProviderObject) (localEventID : String) : Work ObjectProgress :=
  if localEventID ≠ "" then return ⟨.matched, "", "", ""⟩
  else if job.captureMissing then recoverMissing crypto adapter job conn n object
  else return ⟨.missing, "", "", ""⟩

def attachEvidence (evidenceID : String) : Work Unit :=
  if evidenceID = "" then return () else attachProviderEvidenceToItem

def reconcileProviderObject (n : Nat) (object : ProviderObject) : Work Unit := do
  let localEventID ← query fun db ↦ .ok (findLocalProviderEvent job.tenantID conn object.id db)
  let progress ← recoverObject crypto adapter job conn n object localEventID
  let (progress, redelivered) ← redeliver adapter job n object progress
  let _ ← transaction (insertReconciliationItem
    { id := "", tenantID := job.tenantID, jobID := job.id, provider := conn.provider,
      objectID := object.id, outcome := progress.outcome, localEventID,
      recoveredEventID := progress.recoveredEventID, redeliveryRequested := redelivered,
      error := progress.error })
  attachEvidence progress.evidenceID

/-- The objects of a scan in order; one that fails stops the rest. -/
def reconcileObjects (objects : List ProviderObject) : Work Unit :=
  .forEach (fun p ↦ reconcileProviderObject crypto adapter job conn p.2 p.1) objects.zipIdx

end

/-- The cursor is kept when the scan returned one. -/
def keepCursor (tenantID jobID cursor : String) : Work Unit :=
  if cursor = "" then return ()
  else transaction fun _ ↦ updateReconciliationCursor tenantID jobID cursor

/-- A job of an adapter that can scan. -/
def scanJob (crypto : Crypto) (adapter : ReconcileAdapter) (tenantID jobID : String)
    (job : ReconciliationJob) (conn : ProviderConnection) : Work Unit := do
  let _ ← recordEvidence "" adapter.scan.evidence
  match adapter.scan.objects with
  | .error errText => transaction fun _ ↦ failReconciliationJob tenantID jobID errText
  | .ok objects => do
    match ← (reconcileObjects crypto adapter job conn objects).attempt with
    | .error e => transaction fun _ ↦ failReconciliationJob tenantID jobID (providerErrorForDB e)
    | .ok _ => do
      keepCursor tenantID jobID adapter.scan.nextCursor
      transaction fun _ ↦ completeReconciliationJob tenantID jobID

/-- A job of an adapter that cannot scan has one item. -/
def unsupportedJob (adapter : ReconcileAdapter) (tenantID jobID : String) (conn : ProviderConnection) :
    Work Unit := do
  let _ ← transaction (insertReconciliationItem
    { id := "", tenantID, jobID, provider := conn.provider, objectID := conn.provider ++ ":unsupported",
      outcome := .unrecoverable, localEventID := "", recoveredEventID := "",
      redeliveryRequested := false, error := adapter.limitations })
  transaction fun _ ↦ completeReconciliationJob tenantID jobID

/-- The adapters of the providers, with the answers their APIs give to one job. -/
abbrev ReconcileRegistry := (jobID provider : String) → Option ReconcileAdapter

/-- A job that is neither canceled nor completed. -/
def startedJob (crypto : Crypto) (adapter : ReconcileAdapter) (tenantID jobID : String)
    (job : ReconciliationJob) (conn : ProviderConnection) : Work Unit := do
  let started ← transaction fun _ ↦ startReconciliationJob tenantID jobID
  if started then
    if adapter.canScanEvents then scanJob crypto adapter tenantID jobID job conn
    else unsupportedJob adapter tenantID jobID conn
  else .fail .deferred

def runReconciliationJob (crypto : Crypto) (registry : ReconcileRegistry) (tenantID jobID : String) :
    Work Unit := do
  let (job, conn) ← getReconciliationWork tenantID jobID
  if job.state = .canceled ∨ job.state = .completed then return ()
  else
    match registry jobID (toLower (trimSpace conn.provider)) with
    | none => transaction fun _ ↦ failReconciliationJob tenantID jobID "unsupported"
    | some adapter => startedJob crypto adapter tenantID jobID job conn

end Webhookery.App
