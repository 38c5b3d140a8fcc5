import Webhookery.Store.Database

/-!
# Capturing inbound events

`CaptureInbound` and `CaptureRecoveredProviderEvent`: the transactions that store a raw payload, a
receipt and, when the dedupe key is new, an event. Each is cut into the statements of its source,
with one inversion lemma that says everything a committed capture did.
-/

namespace Webhookery.Store

open Go Relational Provider

/-- The input of `CaptureInbound`: the source, the raw payload, the receipt and the event that the
service has prepared. The envelope is present when normalization succeeded. -/
structure CaptureInboundInput where
  (tenantID sourceID provider adapter : String)
  body : Bytes
  (sha256 contentType : String)
  createdAt : Time
  rawHeaders : List HeaderPair
  remoteIP : String
  receivedAt : Time
  (eventType providerEventID dedupeKey : String)
  normalized : Option NormalizedEnvelope
  verificationOK : Bool
  verifyReason : String

structure CaptureInboundResult where
  (eventID receiptID rawPayloadID : String)
  dedupeStatus : DedupeStatus
  deriving DecidableEq, Repr

/-! ## Statements -/

/-- `lookupAdapterVersionID`: the newest active version of an adapter name, empty when none. -/
def lookupAdapterVersionID (adapter : String) (db : DB) : String :=
  let name := toLower (trimSpace adapter)
  if name = "" then ""
  else
    match db.adapterVersions.firstBy (fun v ↦ v.name == name && v.state == .active)
        (fun v w ↦ v.createdAt > w.createdAt) with
    | some v => v.id
    | none => ""

/-- The row of a raw payload before it is linked to its event. -/
def rawPayloadRow (id tenantID sha256 contentType : String) (body : Bytes) (createdAt : Time) : RawPayload where
  id := id
  tenantID := tenantID
  eventID := none
  sha256 := sha256
  contentType := contentType
  sizeBytes := body.length
  body := body
  storageStatus := .stored
  createdAt := timestamptz createdAt

def insertRawPayload (row : RawPayload) (db : DB) : Except StoreError DB := do
  require ([row.tenantID, row.sha256, row.contentType].all textAccepts) .failed
  let rawPayloads ← insertRow db.rawPayloads row
  return { db with rawPayloads }

/-- `UPDATE raw_payloads SET event_id`. -/
def linkRawPayload (rawID eventID : String) (db : DB) : DB :=
  { db with
    rawPayloads := db.rawPayloads.modify
      (fun r ↦ if r.id = rawID then { r with eventID := some eventID } else r)
      (fun r ↦ by split <;> rfl) (fun r ↦ rfl) }

/-- Whether every text of an event is accepted; it is checked before a conflict is looked for. -/
def eventAccepts (row : Event) : Bool :=
  [row.tenantID, row.sourceID, row.provider, row.type, row.providerID, row.rawPayloadHash,
    row.verifyReason, row.dedupeKey].all textAccepts

def insertEvent (row : Event) (db : DB) : Except StoreError DB := do
  require (eventAccepts row) .failed
  let events ← insertRow db.events row
  return { db with events }

/-- The row of a normalized envelope. -/
def normalizedRow (env : Env) (tenantID eventID adapterVersionID : String) (n : NormalizedEnvelope)
    (createdAt : Time) : NormalizedRow where
  id := env.mustID "nenv" 0
  tenantID := tenantID
  eventID := eventID
  adapterVersionID := adapterVersionID
  provider := n.provider
  providerEventID := n.providerEventID
  type := n.type
  source := n.source
  subject := n.subject
  envelope := n.envelope
  data := n.data
  metadata := n.metadata
  envelopeSHA256 := n.envelopeHash
  dataSHA256 := n.dataHash
  metadataSHA256 := n.metadataHash
  storageStatus := .stored
  createdAt := timestamptz createdAt

/-- The envelope that a row holds. -/
def NormalizedRow.content (row : NormalizedRow) : NormalizedEnvelope where
  source := row.source
  type := row.type
  subject := row.subject
  provider := row.provider
  providerEventID := row.providerEventID
  envelope := row.envelope
  data := row.data
  metadata := row.metadata
  envelopeHash := row.envelopeSHA256
  dataHash := row.dataSHA256
  metadataHash := row.metadataSHA256

def insertNormalized (row : NormalizedRow) (db : DB) : Except StoreError DB := do
  require ([row.provider, row.providerEventID, row.type, row.source, row.subject].all textAccepts)
    .failed
  require ([row.envelope, row.data, row.metadata].all jsonbAccepts) .failed
  let normalized ← insertRow db.normalized row
  return { db with normalized }

/-- The envelope of an event, when there is one. -/
def insertEnvelope (row? : Option NormalizedRow) (db : DB) : Except StoreError DB :=
  match row? with
  | some row => insertNormalized row db
  | none => .ok db

/-- A new outbox row is available at once. -/
def outboxRow (env : Env) (tenantID : String) (kind : OutboxKind) (resourceID : String) : OutboxRow where
  id := env.mustID "out" 0
  tenantID := tenantID
  kind := kind
  resourceID := resourceID
  state := .pending
  availableAt := env.now
  lockedBy := none
  lockExpiresAt := none

/-- `INSERT INTO outbox`. -/
def insertOutbox (env : Env) (tenantID : String) (kind : OutboxKind) (resourceID : String) (db : DB) :
    Except StoreError DB := do
  let outbox ← insertRow db.outbox (outboxRow env tenantID kind resourceID)
  return { db with outbox }

/-- The headers of a receipt as a JSON array of name and value. -/
def headersJSON (headers : List HeaderPair) : Bytes :=
  (Value.arr (headers.map fun h ↦
    .obj [("name", .str h.name), ("value", .str h.value)])).marshal

def insertReceipt (row : Receipt) (db : DB) : Except StoreError DB := do
  require (textAccepts row.remoteIP && textAccepts row.verifyReason &&
    jsonbAccepts (headersJSON row.rawHeaders)) .failed
  let receipts ← insertRow db.receipts row
  return { db with receipts }

/-- `INSERT INTO idempotency_records ... ON CONFLICT DO NOTHING`. -/
def recordIdempotency (tenantID dedupeKey eventID : String) (db : DB) : DB :=
  match db.idempotency.insert?
      { tenantID, dedupeKey, resourceID := eventID, statusCode := 202 } with
  | some idempotency => { db with idempotency }
  | none => db

/-- `INSERT INTO dedupe_records ... ON CONFLICT DO UPDATE`. -/
def recordDedupe (row : DedupeRecord) (db : DB) : DB :=
  match db.dedupe.insert? row with
  | some dedupe => { db with dedupe }
  | none =>
    { db with
      dedupe := db.dedupe.modify
        (fun r ↦
          if r.tenantID = row.tenantID ∧ r.dedupeKey = row.dedupeKey then
            { r with lastReceiptID := row.lastReceiptID, status := row.status }
          else r)
        (fun r ↦ by split <;> rfl) (fun r ↦ rfl) }

def insertQuarantine (row : QuarantineEntry) (db : DB) : Except StoreError DB := do
  let quarantine ← insertRow db.quarantine row
  return { db with quarantine }

/-! ## Live captures -/

section

variable (env : Env) (input : CaptureInboundInput)

/-- The event of a capture; an empty type is stored as `unknown`. -/
def captureEventRow : Event where
  id := env.mustID "evt" 0
  tenantID := input.tenantID
  sourceID := input.sourceID
  provider := input.provider
  type := if input.eventType = "" then "unknown" else input.eventType
  providerID := input.providerEventID
  rawPayloadID := env.mustID "raw" 0
  rawPayloadHash := input.sha256
  verified := input.verificationOK
  verifyReason := input.verifyReason
  dedupeKey := input.dedupeKey
  dedupeStatus := .unique
  receivedAt := timestamptz input.receivedAt

def captureRawRow : RawPayload :=
  rawPayloadRow (env.mustID "raw" 0) input.tenantID input.sha256 input.contentType input.body
    input.createdAt

def captureReceiptRow (eventID : String) : Receipt where
  id := env.mustID "rcp" 0
  tenantID := input.tenantID
  sourceID := input.sourceID
  eventID := eventID
  rawPayloadID := env.mustID "raw" 0
  rawHeaders := input.rawHeaders
  remoteIP := input.remoteIP
  verifyOK := input.verificationOK
  verifyReason := input.verifyReason
  receivedAt := timestamptz input.receivedAt

def captureEnvelopeRow (versionID : String) : Option NormalizedRow :=
  input.normalized.map fun n ↦
    normalizedRow env input.tenantID (env.mustID "evt" 0) versionID n input.createdAt

/-- The adapter version a capture records. -/
def captureVersionID (db : DB) : String :=
  lookupAdapterVersionID (firstNonBlank [input.adapter, input.provider]) db

/-- A new event with its envelope and its outbox row. -/
def captureNewEvent (db : DB) : Except StoreError DB := do
  let events ← insertRow db.events (captureEventRow env input)
  let db ← insertEnvelope (captureEnvelopeRow env input (captureVersionID input db)) { db with events }
  insertOutbox env input.tenantID .routeEvent (env.mustID "evt" 0) db

/-- `INSERT INTO events ... ON CONFLICT (tenant_id, dedupe_key) DO NOTHING`: the event of the key,
and whether it is new. -/
def captureEvent (db : DB) : Except StoreError (String × DedupeStatus × DB) := do
  require (eventAccepts (captureEventRow env input)) .failed
  match db.events.byIndex (input.tenantID, input.dedupeKey) with
  | some existing => return (existing.id, .duplicateSuppressed, db)
  | none =>
    let db ← captureNewEvent env input db
    return (env.mustID "evt" 0, .unique, db)

/-- The records of a dedupe key; an empty key leaves none. -/
def captureRecords (eventID : String) (status : DedupeStatus) (db : DB) : DB :=
  if input.dedupeKey = "" then db
  else
    recordDedupe
      { tenantID := input.tenantID, dedupeKey := input.dedupeKey, sourceID := input.sourceID,
        firstEventID := eventID, lastReceiptID := env.mustID "rcp" 0, status := status }
      (recordIdempotency input.tenantID input.dedupeKey eventID db)

def captureQuarantineRow (eventID : String) : QuarantineEntry where
  id := env.mustID "qua" 0
  tenantID := input.tenantID
  eventID := eventID
  reason := input.verifyReason
  state := .opened

/-- A request that did not verify is quarantined with its event. -/
def captureQuarantine (eventID : String) (db : DB) : Except StoreError DB :=
  if input.verificationOK then .ok db
  else insertQuarantine (captureQuarantineRow env input eventID) db

/-- The statements after the event is known: the link, the receipt, the records and the
quarantine entry. -/
def finishCapture (eventID : String)
    (status : DedupeStatus) (db : DB) : Except StoreError (CaptureInboundResult × DB) := do
  let db := linkRawPayload (env.mustID "raw" 0) eventID db
  let db ← insertReceipt (captureReceiptRow env input eventID) db
  let db := captureRecords env input eventID status db
  let db ← captureQuarantine env input eventID db
  return (⟨eventID, env.mustID "rcp" 0, env.mustID "raw" 0, status⟩, db)

def captureInbound (db : DB) : Except StoreError (CaptureInboundResult × DB) := do
  require (!env.connectionFails) .failed
  let db ← insertRawPayload (captureRawRow env input) db
  let (eventID, status, db) ← captureEvent env input db
  finishCapture env input eventID status db

end

/-! ## Recovered captures -/

/-- The input of `CaptureRecoveredProviderEvent` after its source was read. -/
structure RecoveredCapture where
  connection : ProviderConnection
  (objectID eventType : String)
  rawBody : Bytes
  requestHeaders : List HeaderPair
  routeRecovered : Bool

/-- The source a connection is configured for, blanks removed; empty when there is none. -/
def ProviderConnection.sourceID (conn : ProviderConnection) : String :=
  trimSpace ((conn.config.lookup "source_id").getD "")

/-- The active source of a recovered capture. -/
def findRecoverySource (conn : ProviderConnection) (db : DB) : Except StoreError Source :=
  if conn.sourceID = "" then .error .failed
  else
    selectRow db.sources fun s ↦
      s.tenantID == conn.tenantID && s.id == conn.sourceID && s.state == .active

/-- The key of a recovered object. -/
def recoveredDedupeKey (input : RecoveredCapture) (source : Source) : String :=
  "reconcile:" ++ input.connection.provider ++ ":" ++ source.id ++ ":" ++ input.objectID

/-- The event an object was recovered as before, empty when there is none. -/
def existingRecovered (input : RecoveredCapture) (source : Source) (db : DB) : String :=
  match db.events.byIndex (input.connection.tenantID, recoveredDedupeKey input source) with
  | some existing => existing.id
  | none => ""

/-- `headerPairsFromMap`; the order of the request headers is the one the map was read in. -/
def recoveredHeaders (input : RecoveredCapture) : List HeaderPair :=
  ⟨"Webhookery-Recovered-By", "provider-api-reconciliation"⟩ :: input.requestHeaders

section

variable (crypto : Crypto) (env : Env) (input : RecoveredCapture) (source : Source) (now : Time)

def recoveredEventRow : Event where
  id := env.mustID "evt" 0
  tenantID := input.connection.tenantID
  sourceID := source.id
  provider := source.provider
  type := firstNonBlank [input.eventType, "unknown"]
  providerID := input.objectID
  rawPayloadID := env.mustID "raw" 0
  rawPayloadHash := hashSHA256 crypto input.rawBody
  verified := false
  verifyReason := verificationReasonProviderAPIReconcile
  dedupeKey := recoveredDedupeKey input source
  dedupeStatus := .unique
  receivedAt := timestamptz now

def recoveredRawRow : RawPayload :=
  rawPayloadRow (env.mustID "raw" 0) input.connection.tenantID (hashSHA256 crypto input.rawBody)
    "application/json" input.rawBody now

def recoveredReceiptRow (eventID : String) : Receipt where
  id := env.mustID "rcp" 0
  tenantID := input.connection.tenantID
  sourceID := source.id
  eventID := eventID
  rawPayloadID := env.mustID "raw" 0
  rawHeaders := recoveredHeaders input
  remoteIP := "provider-api"
  verifyOK := false
  verifyReason := verificationReasonProviderAPIReconcile
  receivedAt := timestamptz now

/-- The envelope of a recovered object; normalization does not use a declarative definition. -/
def recoveredEnvelope : NormalizeResult :=
  normalize crypto 0
    { adapter := source.adapter, provider := source.provider, tenantID := input.connection.tenantID,
      sourceID := source.id, rawBody := input.rawBody,
      headers := canonicalHeaders (recoveredHeaders input), verified := false,
      verifyReason := verificationReasonProviderAPIReconcile,
      rawHash := hashSHA256 crypto input.rawBody, adapterDefinition := [] }

def recoveredEnvelopeRow (versionID : String) : Option NormalizedRow :=
  match recoveredEnvelope crypto input source with
  | .ok n =>
    some (normalizedRow env input.connection.tenantID (env.mustID "evt" 0) versionID n now)
  | _ => none

/-- The adapter version a recovered capture records. -/
def recoveredVersionID (source : Source) (db : DB) : String :=
  lookupAdapterVersionID (firstNonBlank [source.adapter, source.provider]) db

def recoveredRecords (eventID : String) (db : DB) : DB :=
  recordDedupe
    { tenantID := input.connection.tenantID, dedupeKey := recoveredDedupeKey input source,
      sourceID := source.id, firstEventID := eventID, lastReceiptID := env.mustID "rcp" 0,
      status := .unique }
    (recordIdempotency input.connection.tenantID (recoveredDedupeKey input source) eventID db)

/-- The statements for an object that has no event yet. -/
def recoverNewEvent (db : DB) : Except StoreError DB := do
  let eventID := env.mustID "evt" 0
  let db ← insertEvent (recoveredEventRow crypto env input source now) db
  let db := linkRawPayload (env.mustID "raw" 0) eventID db
  let versionID := recoveredVersionID source db
  let db ← insertEnvelope (recoveredEnvelopeRow crypto env input source now versionID) db
  return recoveredRecords env input source eventID db

/-- The event of a recovered object, new or recovered before, with the payload linked to it. -/
def recoverEvent (db : DB) : Except StoreError (String × DB) :=
  if existingRecovered input source db ≠ "" then
    .ok (existingRecovered input source db,
      linkRawPayload (env.mustID "raw" 0) (existingRecovered input source db) db)
  else do
    let db ← recoverNewEvent crypto env input source now db
    return (env.mustID "evt" 0, db)

/-- The transaction of `CaptureRecoveredProviderEvent`: it stores the payload and a receipt, and
an unverified event when the object has none. The outbox row is written separately. -/
def captureRecovered (db : DB) : Except StoreError (String × DB) := do
  require (!env.connectionFails) .failed
  let db ← insertRawPayload (recoveredRawRow crypto env input now) db
  let (eventID, db) ← recoverEvent crypto env input source now db
  let db ← insertReceipt (recoveredReceiptRow env input source now eventID) db
  return (eventID, db)

end

/-! ## What a committed capture wrote -/

/-- The rows a capture writes. The receipt and the quarantine entries name the event, which is
known once the insertion was tried; the last three are written for a new event only. -/
structure CaptureWrites where
  raw : RawPayload
  receipt : String → Receipt
  quarantine : String → List QuarantineEntry
  event : Event
  envelope : List NormalizedRow
  outbox : List OutboxRow

/-- The event a capture ended with: its own, or the one that had the key before. -/
inductive CaptureWrites.Resolves (w : CaptureWrites) (db db' : DB) (eventID : String)
    (status : DedupeStatus) : Prop
  | new (isNew : status = .unique) (id : eventID = w.event.id)
      (free : db.events.byIndex (w.event.tenantID, w.event.dedupeKey) = none)
      (events : db'.events.rows = db.events.rows ++ [w.event])
      (normalized : db'.normalized.rows = db.normalized.rows ++ w.envelope)
      (outbox : db'.outbox.rows = db.outbox.rows ++ w.outbox)
  | duplicate (existing : Event) (isDuplicate : status = .duplicateSuppressed)
      (id : eventID = existing.id)
      (taken : db.events.byIndex (w.event.tenantID, w.event.dedupeKey) = some existing)
      (events : db'.events = db.events) (normalized : db'.normalized = db.normalized)
      (outbox : db'.outbox = db.outbox)

/-- Everything a committed capture did to the tables. -/
structure CaptureWrites.Committed (w : CaptureWrites) (eventID : String) (status : DedupeStatus)
    (db db' : DB) : Prop where
  rawPayloads : db'.rawPayloads.rows = db.rawPayloads.rows ++ [{ w.raw with eventID := some eventID }]
  receipts : db'.receipts.rows = db.receipts.rows ++ [w.receipt eventID]
  quarantine : db'.quarantine.rows = db.quarantine.rows ++ w.quarantine eventID
  resolves : w.Resolves db db' eventID status
  frame : db' = { db with
    events := db'.events, rawPayloads := db'.rawPayloads, receipts := db'.receipts,
    normalized := db'.normalized, quarantine := db'.quarantine, idempotency := db'.idempotency,
    dedupe := db'.dedupe, outbox := db'.outbox }

/-! ### Statements that committed -/

section Statements

variable {db db' : DB}

theorem insertRawPayload_eq_ok :
    insertRawPayload row db = .ok db' ↔
      [row.tenantID, row.sha256, row.contentType].all textAccepts = true ∧
        ∃ t, db.rawPayloads.insert? row = some t ∧ { db with rawPayloads := t } = db' :=
  require_insertRow_eq_ok

theorem insertReceipt_eq_ok :
    insertReceipt row db = .ok db' ↔
      (textAccepts row.remoteIP && textAccepts row.verifyReason &&
        jsonbAccepts (headersJSON row.rawHeaders)) = true ∧
        ∃ t, db.receipts.insert? row = some t ∧ { db with receipts := t } = db' :=
  require_insertRow_eq_ok

/-- The texts and documents of a normalized envelope that the database checks. -/
def normalizedAccepts (row : NormalizedRow) : Bool :=
  [row.provider, row.providerEventID, row.type, row.source, row.subject].all textAccepts &&
    [row.envelope, row.data, row.metadata].all jsonbAccepts

theorem insertNormalized_eq_ok :
    insertNormalized row db = .ok db' ↔
      normalizedAccepts row = true ∧
        ∃ t, db.normalized.insert? row = some t ∧ { db with normalized := t } = db' := by
  rw [normalizedAccepts, Bool.and_eq_true, and_assoc]
  constructor
  · intro h
    obtain ⟨_, htexts, hrest⟩ := bind_eq_ok.mp h
    exact ⟨require_eq_ok.mp htexts, require_insertRow_eq_ok.mp hrest⟩
  · rintro ⟨htexts, hrest⟩
    exact bind_eq_ok.mpr ⟨(), require_eq_ok.mpr htexts, require_insertRow_eq_ok.mpr hrest⟩

theorem insertOutbox_eq_ok :
    insertOutbox env tenantID kind resourceID db = .ok db' ↔
      ∃ t, db.outbox.insert? (outboxRow env tenantID kind resourceID) = some t ∧
        { db with outbox := t } = db' := by
  simp only [insertOutbox, bind_eq_ok, insertRow_eq_ok, pure, Except.pure, Except.ok.injEq]

theorem insertQuarantine_eq_ok :
    insertQuarantine row db = .ok db' ↔
      ∃ t, db.quarantine.insert? row = some t ∧ { db with quarantine := t } = db' := by
  simp only [insertQuarantine, bind_eq_ok, insertRow_eq_ok, pure, Except.pure, Except.ok.injEq]

theorem insertEnvelope_eq_ok {row? : Option NormalizedRow} (h : insertEnvelope row? db = .ok db') :
    ∃ t, t.rows = db.normalized.rows ++ row?.toList ∧ { db with normalized := t } = db' := by
  cases row? with
  | none =>
    cases h
    exact ⟨db.normalized, by simp, rfl⟩
  | some =>
    obtain ⟨-, t, ht, hdb⟩ := insertNormalized_eq_ok.mp h
    exact ⟨t, Table.rows_insert? ht, hdb⟩

/-- The records of a key touch no other table. -/
theorem recordDedupe_recordIdempotency (row : DedupeRecord) (tenantID key eventID : String) (db : DB) :
    ∃ i d, recordDedupe row (recordIdempotency tenantID key eventID db) =
      { db with idempotency := i, dedupe := d } := by
  have hfirst : ∃ i, recordIdempotency tenantID key eventID db = { db with idempotency := i } := by
    unfold recordIdempotency
    split
    · exact ⟨_, rfl⟩
    · exact ⟨db.idempotency, rfl⟩
  obtain ⟨i, hi⟩ := hfirst
  rw [hi]
  unfold recordDedupe
  split
  · exact ⟨i, _, rfl⟩
  · exact ⟨i, _, rfl⟩

/-- Linking a payload that was inserted just before changes that row only. -/
theorem linkRawPayload_rows_of_insert? (db' : DB) (h : db.rawPayloads.insert? row = some db'.rawPayloads) :
    (linkRawPayload row.id eventID db').rawPayloads.rows =
      db.rawPayloads.rows ++ [{ row with eventID := some eventID }] := by
  change db'.rawPayloads.rows.map _ = _
  rw [Table.map_rows_insert? h fun _ hr ↦ if_neg hr, if_pos rfl]

end Statements

/-! ### Live captures that committed -/

section Live

variable {env : Env} {input : CaptureInboundInput} {db db' : DB}

/-- The rows of a live capture. -/
def captureWrites (env : Env) (input : CaptureInboundInput) (versionID : String) : CaptureWrites where
  raw := captureRawRow env input
  receipt := captureReceiptRow env input
  quarantine := fun eventID ↦
    if input.verificationOK then [] else [captureQuarantineRow env input eventID]
  event := captureEventRow env input
  envelope := (captureEnvelopeRow env input versionID).toList
  outbox := [outboxRow env input.tenantID .routeEvent (env.mustID "evt" 0)]

theorem captureNewEvent_eq_ok (h : captureNewEvent env input db = .ok db') :
    ∃ ev no out, { db with events := ev, normalized := no, outbox := out } = db' ∧
      ev.rows = db.events.rows ++ [captureEventRow env input] ∧
      no.rows = db.normalized.rows ++ (captureEnvelopeRow env input (captureVersionID input db)).toList ∧
      out.rows = db.outbox.rows ++ [outboxRow env input.tenantID .routeEvent (env.mustID "evt" 0)] := by
  obtain ⟨ev, hev, hrest⟩ := bind_eq_ok.mp h
  obtain ⟨_, hno, hinsert⟩ := bind_eq_ok.mp hrest
  obtain ⟨no, hnorows, rfl⟩ := insertEnvelope_eq_ok hno
  obtain ⟨out, hout, rfl⟩ := insertOutbox_eq_ok.mp hinsert
  exact ⟨ev, no, out, rfl, Table.rows_insert? (insertRow_eq_ok.mp hev), hnorows,
    Table.rows_insert? hout⟩

theorem captureEvent_eq_ok (h : captureEvent env input db = .ok (eventID, status, db')) :
    (∃ ev no out, { db with events := ev, normalized := no, outbox := out } = db') ∧
      (captureWrites env input (captureVersionID input db)).Resolves db db' eventID status := by
  obtain ⟨_, -, hrest⟩ := bind_eq_ok.mp h
  split at hrest
  case h_1 existing hexisting =>
    obtain ⟨rfl, rfl, rfl⟩ : existing.id = eventID ∧ .duplicateSuppressed = status ∧ db = db' := by
      simpa [pure, Except.pure] using hrest
    exact ⟨⟨_, _, _, rfl⟩, .duplicate existing rfl rfl hexisting rfl rfl rfl⟩
  case h_2 hfree =>
    obtain ⟨db₁, hnew, hresult⟩ := bind_eq_ok.mp hrest
    obtain ⟨rfl, rfl, rfl⟩ : env.mustID "evt" 0 = eventID ∧ .unique = status ∧ db₁ = db' := by
      simpa [pure, Except.pure] using hresult
    obtain ⟨ev, no, out, rfl, hev, hno, hout⟩ := captureNewEvent_eq_ok hnew
    exact ⟨⟨ev, no, out, rfl⟩, .new rfl rfl hfree hev hno hout⟩

theorem captureRecords_eq (env : Env) (input : CaptureInboundInput) (eventID : String)
    (status : DedupeStatus) (db : DB) :
    ∃ i d, captureRecords env input eventID status db = { db with idempotency := i, dedupe := d } := by
  unfold captureRecords
  split
  · exact ⟨db.idempotency, db.dedupe, rfl⟩
  · exact recordDedupe_recordIdempotency ..

theorem captureQuarantine_eq_ok (h : captureQuarantine env input eventID db = .ok db') :
    ∃ t, t.rows = db.quarantine.rows ++
        (if input.verificationOK then [] else [captureQuarantineRow env input eventID]) ∧
      { db with quarantine := t } = db' := by
  unfold captureQuarantine at h
  split at h
  case isTrue hok =>
    cases h
    exact ⟨db.quarantine, by simp [hok], rfl⟩
  case isFalse hok =>
    obtain ⟨t, ht, hdb⟩ := insertQuarantine_eq_ok.mp h
    exact ⟨t, by simp [hok, Table.rows_insert? ht], hdb⟩

/-- A `CaptureInbound` that committed wrote its rows. -/
theorem captureInbound_committed {result : CaptureInboundResult}
    (h : captureInbound env input db = .ok (result, db')) :
    (captureWrites env input (captureVersionID input db)).Committed result.eventID
        result.dedupeStatus db db' ∧
      result.receiptID = env.mustID "rcp" 0 ∧ result.rawPayloadID = env.mustID "raw" 0 := by
  obtain ⟨_, -, h⟩ := bind_eq_ok.mp h
  obtain ⟨_, hinsert, h⟩ := bind_eq_ok.mp h
  obtain ⟨-, raw, hraw, rfl⟩ := insertRawPayload_eq_ok.mp hinsert
  obtain ⟨⟨eventID, status, _⟩, hevent, h⟩ := bind_eq_ok.mp h
  obtain ⟨⟨_, _, _, rfl⟩, hresolves⟩ := captureEvent_eq_ok hevent
  obtain ⟨_, hreceipt, h⟩ := bind_eq_ok.mp h
  obtain ⟨-, _, hreceipts, rfl⟩ := insertReceipt_eq_ok.mp hreceipt
  obtain ⟨_, hentries, h⟩ := bind_eq_ok.mp h
  obtain ⟨_, hquarantine, rfl⟩ := captureQuarantine_eq_ok hentries
  obtain ⟨_, _, hrecords⟩ := captureRecords_eq env input eventID status _
  rw [hrecords] at h hquarantine
  cases h
  refine ⟨⟨?_, Table.rows_insert? hreceipts, hquarantine, ?_, rfl⟩, rfl, rfl⟩
  · exact linkRawPayload_rows_of_insert? { db with rawPayloads := raw } hraw
  · cases hresolves with
    | new isNew id free events normalized outbox =>
      exact .new isNew id free events normalized outbox
    | duplicate existing isDuplicate id taken events normalized outbox =>
      exact .duplicate existing isDuplicate id taken events normalized outbox

end Live

/-! ### Recovered captures that committed -/

section Recovered

variable {crypto : Crypto} {env : Env} {input : RecoveredCapture} {source : Source} {now : Time}
  {db db' : DB}

/-- The rows of a recovered capture. -/
def recoveredWrites (crypto : Crypto) (env : Env) (input : RecoveredCapture) (source : Source)
    (now : Time) (versionID : String) : CaptureWrites where
  raw := recoveredRawRow crypto env input now
  receipt := recoveredReceiptRow env input source now
  quarantine := fun _ ↦ []
  event := recoveredEventRow crypto env input source now
  envelope := (recoveredEnvelopeRow crypto env input source now versionID).toList
  outbox := []

theorem recoverNewEvent_eq_ok (h : recoverNewEvent crypto env input source now db = .ok db') :
    ∃ ev no i d,
      db' = { linkRawPayload (env.mustID "raw" 0) (env.mustID "evt" 0) db with
        events := ev, normalized := no, idempotency := i, dedupe := d } ∧
      db.events.insert? (recoveredEventRow crypto env input source now) = some ev ∧
      no.rows = db.normalized.rows ++
        (recoveredEnvelopeRow crypto env input source now (recoveredVersionID source db)).toList := by
  obtain ⟨_, hevent, h⟩ := bind_eq_ok.mp h
  obtain ⟨-, ev, hev, rfl⟩ := require_insertRow_eq_ok.mp hevent
  obtain ⟨_, henvelope, h⟩ := bind_eq_ok.mp h
  obtain ⟨no, hno, rfl⟩ := insertEnvelope_eq_ok henvelope
  cases h
  obtain ⟨i, d, hrecords⟩ := recordDedupe_recordIdempotency ..
  exact ⟨ev, no, i, d, hrecords, hev, hno⟩

/-- The event part of a recovered capture, after its payload was inserted. -/
theorem recoverEvent_eq_ok (h : recoverEvent crypto env input source now db = .ok (eventID, db')) :
    (∃ ev no i d, db' = { linkRawPayload (env.mustID "raw" 0) eventID db with
        events := ev, normalized := no, idempotency := i, dedupe := d }) ∧
      ∃ status, (recoveredWrites crypto env input source now (recoveredVersionID source db)).Resolves
        db db' eventID status := by
  unfold recoverEvent at h
  split at h
  case isTrue hexisting =>
    cases h
    refine ⟨⟨_, _, _, _, rfl⟩, .duplicateSuppressed, ?_⟩
    unfold existingRecovered at hexisting ⊢
    split
    case h_1 existing htaken => exact .duplicate existing rfl rfl htaken rfl rfl rfl
    case h_2 hfree => simp [hfree] at hexisting
  case isFalse =>
    obtain ⟨_, hnew, h⟩ := bind_eq_ok.mp h
    cases h
    obtain ⟨ev, no, i, d, rfl, hev, hno⟩ := recoverNewEvent_eq_ok hnew
    have hfree := Table.byIndex_of_insert? hev rfl
    have hsame : db.outbox.rows = db.outbox.rows ++ [] := (List.append_nil _).symm
    refine ⟨⟨ev, no, i, d, rfl⟩, .unique, .new rfl rfl hfree (Table.rows_insert? hev) ?_ hsame⟩
    simpa only [recoveredWrites] using hno

/-- A recovered capture that committed wrote its rows. -/
theorem captureRecovered_committed (h : captureRecovered crypto env input source now db = .ok (eventID, db')) :
    ∃ status, (recoveredWrites crypto env input source now (recoveredVersionID source db)).Committed
      eventID status db db' := by
  obtain ⟨_, -, h⟩ := bind_eq_ok.mp h
  obtain ⟨_, hinsert, h⟩ := bind_eq_ok.mp h
  obtain ⟨-, raw, hraw, rfl⟩ := insertRawPayload_eq_ok.mp hinsert
  obtain ⟨⟨_, _⟩, hevent, h⟩ := bind_eq_ok.mp h
  obtain ⟨⟨_, _, _, _, rfl⟩, status, hresolves⟩ := recoverEvent_eq_ok hevent
  obtain ⟨_, hreceipt, h⟩ := bind_eq_ok.mp h
  obtain ⟨-, _, hreceipts, rfl⟩ := insertReceipt_eq_ok.mp hreceipt
  cases h
  refine ⟨status, ?_, Table.rows_insert? hreceipts, (List.append_nil _).symm, ?_, rfl⟩
  · exact linkRawPayload_rows_of_insert? { db with rawPayloads := raw } hraw
  · cases hresolves with
    | new isNew id free events normalized outbox =>
      exact .new isNew id free events normalized outbox
    | duplicate existing isDuplicate id taken events normalized outbox =>
      exact .duplicate existing isDuplicate id taken events normalized outbox

end Recovered

end Webhookery.Store
