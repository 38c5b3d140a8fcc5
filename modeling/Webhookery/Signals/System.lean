import Webhookery.Signals.Queue
import Webhookery.Audit.Runs

/-!
# Notifications and SIEM exports

The tables of notification channels and SIEM sinks with their deliveries, and everything that happens to them:
operators who create and change receivers, test them and retry deliveries; alerts that notify; workers that
claim deliveries, send them and record the attempt, or crash before; and `EnqueueSIEMDeliveries`, which reads
the sinks, builds a batch of chain entries for each and inserts it, in separate statements that others may
come between.
-/

namespace Webhookery.Signals

open Go Relational Store Audit

/-! ## Tables -/

/-- What a notification is about: a transition of a firing alert, or a test without a firing. -/
structure Transition where
  (firingID transition : String)
  deriving DecidableEq, Repr

/-- The sequence numbers of a batch, both zero for a test. -/
structure SequenceRange where
  (fromSequence toSequence : Int)
  deriving DecidableEq, Repr

def notifications : Family Transition where
  deliveryPrefix := "ndel"
  attemptPrefix := "natt"
  secretPurpose := "notification_channel_signing_secret"
  unique t := t.firingID != ""

def siem : Family SequenceRange where
  deliveryPrefix := "sdel"
  attemptPrefix := "satt"
  secretPurpose := "siem_sink_signing_secret"
  unique r := decide (0 < r.fromSequence) || decide (0 < r.toSequence)

inductive ReceiverState where
  | active
  | disabled
  deriving DecidableEq, Repr

/-- A row of `notification_channels`, and what `siem_sinks` has in common with it. -/
structure Receiver where
  (id tenantID url : String)
  state : ReceiverState
  encryptedSecret : Bytes
  deriving DecidableEq, Repr

/-- A row of `siem_sinks`. -/
structure SIEMSink extends Receiver where
  cursorSequence : Int
  updatedAt : Time
  deriving DecidableEq, Repr

structure SignalTables where
  channels : Table Receiver Receiver.id noIndex
  notifications : Queue notifications
  sinks : Table SIEMSink (fun s ↦ s.id) noIndex
  siem : Queue siem
  audit : AuditTables

/-- `SELECT url, encrypted_secret ... WHERE tenant_id=$1 AND id=$2 AND state='active'`. -/
def Receiver.serves (tenantID id : String) (r : Receiver) : Bool :=
  r.tenantID == tenantID && r.id == id && r.state == .active

def Receiver.destination (r : Receiver) : Destination := ⟨r.url, r.encryptedSecret⟩

def SignalTables.channel (db : SignalTables) (tenantID id : String) : Option Destination :=
  (db.channels.find? (Receiver.serves tenantID id)).map Receiver.destination

def SignalTables.sink (db : SignalTables) (tenantID id : String) : Option Destination :=
  (db.sinks.find? fun s ↦ s.serves tenantID id).map fun s ↦ s.destination

/-! ## Batches of chain entries -/

def entryStateText : EntryState → String
  | .active => "active"
  | .retained => "retained"
  | .other text => text

def jsonText (s : String) : List Char := Value.marshalChars (.str s)

/-- `json.Marshal` of a map, from its keys in order and the encodings of its values. -/
def jsonObject (members : List (String × List Char)) : List Char :=
  '\x7b' :: [','].intercalate (members.map fun (key, value) ↦ jsonText key ++ ':' :: value) ++ ['\x7d']

/-- The line of a chain entry, with the columns of its event, if that is still there. -/
def siemLine (tenantID : String) (entry : AuditChainEntry) (event : AuditEvent) : Bytes :=
  utf8Encode (jsonObject [
    ("action", jsonText event.action),
    ("actor_id", jsonText event.actorID),
    ("audit_event_id", jsonText entry.auditEventID),
    ("canonicalization_version", jsonText entry.canonicalizationVersion),
    ("chain_entry_created_at", jsonText (formatRFC3339Nano entry.createdAt)),
    ("chain_entry_source", jsonText entry.source),
    ("chain_entry_state", jsonText (entryStateText entry.state)),
    ("chain_hash", jsonText entry.chainHash),
    ("event_hash", jsonText entry.eventHash),
    ("occurred_at", jsonText (formatRFC3339Nano event.occurredAt)),
    ("previous_chain_hash", jsonText entry.previousChainHash),
    ("reason", jsonText event.reason),
    ("resource", jsonText event.resource),
    ("resource_id", jsonText event.resourceID),
    ("sequence", (formatInt entry.sequence).toList),
    ("tenant_id", jsonText tenantID)] ++ ['\n'])

structure SIEMBatch where
  body : Bytes
  range : SequenceRange
  deriving DecidableEq, Repr

/-- One row of the loop of `buildSIEMBatch`. -/
def addEntry (tenantID : String) (db : AuditTables) (batch : SIEMBatch) (entry : AuditChainEntry) : SIEMBatch where
  body := batch.body ++ siemLine tenantID entry (db.joinedEvent entry)
  range :=
    { fromSequence := if batch.range.fromSequence = 0 then entry.sequence else batch.range.fromSequence
      toSequence := entry.sequence }

/-- The entries after a cursor, `ORDER BY sequence ASC LIMIT`. -/
def entriesAfter (tenantID : String) (cursor : Int) (limit : Nat) (db : AuditTables) : List AuditChainEntry :=
  (((db.chainOf tenantID).filter fun e ↦ cursor < e.sequence).insertionSort fun e e' ↦
    e.sequence ≤ e'.sequence).take limit

/-- `buildSIEMBatch`; there is no batch without entries. -/
def buildSIEMBatch (tenantID : String) (cursor : Int) (limit : Nat) (db : AuditTables) : Option SIEMBatch :=
  let batch := (entriesAfter tenantID cursor limit db).foldl (addEntry tenantID db) ⟨[], ⟨0, 0⟩⟩
  if batch.range.toSequence = 0 then none else some batch

/-! ## Enqueueing -/

/-- A sink as `EnqueueSIEMDeliveries` has read it. -/
structure SinkCursor where
  (id tenantID : String)
  cursor : Int
  deriving DecidableEq, Repr

def openState (state : SignalState) : Bool := state == .scheduled || state == .inProgress

/-- An active sink without a delivery that is scheduled or in progress. -/
def SignalTables.idleSink (db : SignalTables) (s : SIEMSink) : Bool :=
  s.state == .active && !db.siem.deliveries.rows.any fun d ↦
    d.tenantID == s.tenantID && d.receiverID == s.id && openState d.state

/-- The sinks that `EnqueueSIEMDeliveries` goes through; the query does not order those of equal times. -/
def SignalTables.sinksToVisit (db : SignalTables) (scan : Scan SIEMSink) (limit : Int) : List SIEMSink :=
  (((scan.order db.sinks.rows).filter db.idleSink).insertionSort fun s s' ↦ s.updatedAt ≤ s'.updatedAt).take
    (if limit ≤ 0 then 10 else limit.toNat)

def SIEMSink.read (s : SIEMSink) : SinkCursor := ⟨s.id, s.tenantID, s.cursorSequence⟩

/-- `insertSIEMDelivery`. The sink has to exist. -/
def insertSIEMDelivery (env : Env) (tenantID sinkID : String) (range : SequenceRange) (body : Bytes)
    (db : SignalTables) : Except StoreError SignalTables := do
  require (db.sinks.rows.any fun s ↦ s.id == sinkID) .failed
  let siem ← db.siem.insert env tenantID sinkID range body
  return { db with siem }

/-- `enqueueNotificationDeliveriesTx` for one channel, and `insertNotificationDelivery` for a test. -/
def insertNotificationDelivery (env : Env) (tenantID channelID : String) (transition : Transition) (body : Bytes)
    (db : SignalTables) : Except StoreError SignalTables := do
  require ([transition.firingID, transition.transition].all textAccepts &&
    db.channels.rows.any fun c ↦ c.id == channelID) .failed
  let notifications ← db.notifications.insert env tenantID channelID transition body
  return { db with notifications }

/-- The batch of one sink is built and inserted. -/
def enqueueSink (env : Env) (sink : SinkCursor) (db : SignalTables) : Except StoreError SignalTables :=
  match buildSIEMBatch sink.tenantID sink.cursor 100 db.audit with
  | none => .ok db
  | some batch => insertSIEMDelivery env sink.tenantID sink.id batch.range batch.body db

/-- `EnqueueSIEMDeliveries` when nothing comes between its statements; each insertion has its own environment. -/
def enqueueSIEMDeliveries (envs : SinkCursor → Env) (scan : Scan SIEMSink) (limit : Int) (db : SignalTables) :
    Except StoreError SignalTables :=
  ((db.sinksToVisit scan limit).map SIEMSink.read).foldlM (fun db sink ↦ enqueueSink (envs sink) sink db) db

/-! ## Claims and attempts -/

variable (decryptSecret : String → String → Bytes → Option Bytes)

def claimNotificationDeliveries (workerID : String) (limit : Int) (now : Time) (db : SignalTables) :
    Except StoreError (List SignalDeliveryItem × SignalTables) := do
  let (items, notifications) ← db.notifications.claim db.channel decryptSecret workerID limit now
  return (items, { db with notifications })

def claimSIEMDeliveries (workerID : String) (limit : Int) (now : Time) (db : SignalTables) :
    Except StoreError (List SignalDeliveryItem × SignalTables) := do
  let (items, siem) ← db.siem.claim db.sink decryptSecret workerID limit now
  return (items, { db with siem })

def recordNotificationDeliveryAttempt (env : Env) (item : SignalDeliveryItem) (result : SignalDeliveryResult)
    (deliverErr : Option Bytes) (db : SignalTables) : Except StoreError SignalTables := do
  let notifications ← db.notifications.record env item result deliverErr
  return { db with notifications }

/-- `cursor_sequence=GREATEST(cursor_sequence, $3)`. -/
def SIEMSink.advance (tenantID sinkID : String) (toSequence : Int) (now : Time) (s : SIEMSink) : SIEMSink :=
  if s.tenantID = tenantID ∧ s.id = sinkID then
    { s with cursorSequence := max s.cursorSequence toSequence, updatedAt := timestamptz now }
  else s

theorem SIEMSink.advance_id (tenantID sinkID : String) (toSequence : Int) (now : Time) (s : SIEMSink) :
    (s.advance tenantID sinkID toSequence now).id = s.id := by
  unfold SIEMSink.advance
  split <;> rfl

/-- `RecordSIEMDeliveryAttempt`: the cursor advances with a batch that was delivered. -/
def recordSIEMDeliveryAttempt (env : Env) (item : SignalDeliveryItem) (result : SignalDeliveryResult)
    (deliverErr : Option Bytes) (db : SignalTables) : Except StoreError SignalTables := do
  let d ← selectRow db.siem.deliveries fun d ↦ d.tenantID == item.tenantID && d.id == item.id
  let siem ← db.siem.record env item result deliverErr
  if result.succeeded deliverErr && decide (0 < d.key.toSequence) then
    return { db with
      siem
      sinks := db.sinks.modify (SIEMSink.advance item.tenantID d.receiverID d.key.toSequence env.now)
        (SIEMSink.advance_id _ _ _ _) fun _ ↦ rfl }
  else return { db with siem }

def retryNotificationDelivery (now : Time) (tenantID deliveryID : String) (db : SignalTables) :
    Except StoreError SignalTables := do
  let notifications ← db.notifications.retry now tenantID deliveryID
  return { db with notifications }

def retrySIEMDelivery (now : Time) (tenantID deliveryID : String) (db : SignalTables) :
    Except StoreError SignalTables := do
  let siem ← db.siem.retry now tenantID deliveryID
  return { db with siem }

/-! ## Receivers -/

def createNotificationChannel (env : Env) (tenantID url : String) (encryptedSecret : Bytes) (db : SignalTables) :
    Except StoreError SignalTables := do
  let channels ← insertRow db.channels ⟨env.mustID "nch" 0, tenantID, url, .active, encryptedSecret⟩
  return { db with channels }

/-- `CreateSIEMSink`: the cursor is zero. -/
def createSIEMSink (env : Env) (tenantID url : String) (encryptedSecret : Bytes) (db : SignalTables) :
    Except StoreError SignalTables := do
  let sinks ← insertRow db.sinks
    { id := env.mustID "snk" 0, tenantID, url, state := .active, encryptedSecret, cursorSequence := 0,
      updatedAt := timestamptz env.now }
  return { db with sinks }

/-- What an update sets; the secret only when a new one was given. -/
structure ReceiverChange where
  url : String
  state : ReceiverState
  encryptedSecret : Option Bytes

def Receiver.change (tenantID id : String) (change : ReceiverChange) (r : Receiver) : Receiver :=
  if r.tenantID = tenantID ∧ r.id = id then
    { r with
      url := change.url
      state := change.state
      encryptedSecret := change.encryptedSecret.getD r.encryptedSecret }
  else r

theorem Receiver.change_id (tenantID id : String) (change : ReceiverChange) (r : Receiver) :
    (r.change tenantID id change).id = r.id := by
  unfold Receiver.change
  split <;> rfl

/-- The `UPDATE` of `UpdateNotificationChannel` and `DeleteNotificationChannel`. -/
def updateNotificationChannel (tenantID id : String) (change : ReceiverChange) (db : SignalTables) : SignalTables :=
  { db with channels := db.channels.modify (Receiver.change tenantID id change) (Receiver.change_id _ _ _) fun _ ↦ rfl }

/-- The `UPDATE` of `UpdateSIEMSink` and `DeleteSIEMSink`. -/
def updateSIEMSink (now : Time) (tenantID id : String) (change : ReceiverChange) (db : SignalTables) : SignalTables :=
  { db with
    sinks := db.sinks.modify
      (fun s ↦ if s.tenantID = tenantID ∧ s.id = id then
        { s with toReceiver := s.toReceiver.change tenantID id change, updatedAt := timestamptz now } else s)
      (fun s ↦ by dsimp only; split; exacts [Receiver.change_id _ _ _ _, rfl]) fun _ ↦ rfl }

/-! ## What operations change -/

section Effects

variable {decryptSecret} {env : Env} {db db' : SignalTables} {tenantID id : String} {body : Bytes}
  {item : SignalDeliveryItem} {result : SignalDeliveryResult} {deliverErr : Option Bytes}

theorem insertSIEMDelivery_eq_ok (h : insertSIEMDelivery env tenantID id range body db = .ok db') :
    ∃ siem, db.siem.insert env tenantID id range body = .ok siem ∧ db' = { db with siem } := by
  obtain ⟨-, h⟩ := seq_eq_ok.mp h
  obtain ⟨siem, hinsert, h⟩ := bind_eq_ok.mp h
  exact ⟨siem, hinsert, (Except.ok.inj h).symm⟩

/-- The cursor of the delivery's sink is advanced when a batch was delivered. -/
theorem recordSIEMDeliveryAttempt_eq_ok (h : recordSIEMDeliveryAttempt env item result deliverErr db = .ok db') :
    ∃ d siem, d ∈ db.siem.deliveries ∧ d.tenantID = item.tenantID ∧ d.id = item.id ∧
      db.siem.record env item result deliverErr = .ok siem ∧
      db' = { db with
        siem
        sinks := if result.succeeded deliverErr = true ∧ 0 < d.key.toSequence then
            db.sinks.modify (SIEMSink.advance item.tenantID d.receiverID d.key.toSequence env.now)
              (SIEMSink.advance_id _ _ _ _) fun _ ↦ rfl
          else db.sinks } := by
  obtain ⟨d, hselect, h⟩ := bind_eq_ok.mp h
  obtain ⟨siem, hrecord, h⟩ := bind_eq_ok.mp h
  obtain ⟨hd, hkey⟩ := mem_of_selectRow hselect
  simp only [Bool.and_eq_true, beq_iff_eq] at hkey
  refine ⟨d, siem, hd, hkey.1, hkey.2, hrecord, ?_⟩
  simp only [Bool.and_eq_true, decide_eq_true_eq] at h
  split at h
  case isTrue hadvance =>
    rw [if_pos hadvance]
    exact (Except.ok.inj h).symm
  case isFalse hstay =>
    rw [if_neg hstay]
    exact (Except.ok.inj h).symm

end Effects

/-! ## The system -/

/-- A running `EnqueueSIEMDeliveries`: the sinks it has still to visit, and the batch of the first of them
when it has been built. -/
structure Enqueuer where
  sinks : List SinkCursor
  batch : Option SIEMBatch

/-- A delivery that a worker has claimed and not yet recorded. -/
structure Held where
  workerID : String
  item : SignalDeliveryItem

/-- The tables, what the workers hold, the running enqueuers, and the SIEM deliveries that were recorded as
succeeded so far. -/
structure SignalSystem where
  tables : SignalTables
  (notificationWork siemWork : List Held)
  enqueuers : List Enqueuer
  succeeded : List String

inductive SignalStep where
  | createChannel (env : Env) (tenantID url : String) (encryptedSecret : Bytes)
  | updateChannel (tenantID id : String) (change : ReceiverChange)
  | notify (env : Env) (tenantID channelID : String) (transition : Transition) (body : Bytes)
  | claimNotifications (workerID : String) (limit : Int) (now : Time)
  | recordNotification (i : Nat) (env : Env) (result : SignalDeliveryResult) (deliverErr : Option Bytes)
  | retryNotification (now : Time) (tenantID id : String)
  | createSink (env : Env) (tenantID url : String) (encryptedSecret : Bytes)
  | updateSink (now : Time) (tenantID id : String) (change : ReceiverChange)
  | testSink (env : Env) (tenantID sinkID : String) (body : Bytes)
  | readSinks (scan : Scan SIEMSink) (limit : Int)
  | buildBatch (i : Nat)
  | insertBatch (i : Nat) (env : Env)
  | claimSIEM (workerID : String) (limit : Int) (now : Time)
  | recordSIEM (i : Nat) (env : Env) (result : SignalDeliveryResult) (deliverErr : Option Bytes)
  | retrySIEM (now : Time) (tenantID id : String)
  | audit (op : AuditOp)
  | crash (workerID : String)

/-- The system after an operation on the tables, which changes nothing when it fails. -/
def SignalSystem.commit (s : SignalSystem) (result : Except StoreError SignalTables) : SignalSystem :=
  match result with
  | .ok tables => { s with tables }
  | .error _ => s

/-- The next statement of a running enqueuer on its first sink. -/
def buildStep (db : SignalTables) (e : Enqueuer) : Enqueuer :=
  match e.sinks, e.batch with
  | sink :: rest, none =>
    match buildSIEMBatch sink.tenantID sink.cursor 100 db.audit with
    | none => ⟨rest, none⟩
    | some batch => ⟨sink :: rest, some batch⟩
  | _, _ => e

/-- A step of the system. Workers that crash lose what they hold; a running enqueuer that stops is one that
takes no more steps. -/
def SignalSystem.perform (crypto : Crypto) (s : SignalSystem) : SignalStep → SignalSystem
  | .createChannel env tenantID url secret => s.commit (createNotificationChannel env tenantID url secret s.tables)
  | .updateChannel tenantID id change => { s with tables := updateNotificationChannel tenantID id change s.tables }
  | .notify env tenantID channelID transition body =>
    s.commit (insertNotificationDelivery env tenantID channelID transition body s.tables)
  | .claimNotifications workerID limit now =>
    match claimNotificationDeliveries decryptSecret workerID limit now s.tables with
    | .ok (items, tables) => { s with tables, notificationWork := s.notificationWork ++ items.map (Held.mk workerID) }
    | .error _ => s
  | .recordNotification i env result deliverErr =>
    match s.notificationWork[i]? with
    | none => s
    | some held =>
      match recordNotificationDeliveryAttempt env held.item result deliverErr s.tables with
      | .ok tables => { s with tables, notificationWork := s.notificationWork.eraseIdx i }
      | .error _ => s
  | .retryNotification now tenantID id => s.commit (retryNotificationDelivery now tenantID id s.tables)
  | .createSink env tenantID url secret => s.commit (createSIEMSink env tenantID url secret s.tables)
  | .updateSink now tenantID id change => { s with tables := updateSIEMSink now tenantID id change s.tables }
  | .testSink env tenantID sinkID body => s.commit (insertSIEMDelivery env tenantID sinkID ⟨0, 0⟩ body s.tables)
  | .readSinks scan limit =>
    { s with enqueuers := s.enqueuers ++ [⟨(s.tables.sinksToVisit scan limit).map SIEMSink.read, none⟩] }
  | .buildBatch i =>
    match s.enqueuers[i]? with
    | none => s
    | some e => { s with enqueuers := s.enqueuers.set i (buildStep s.tables e) }
  | .insertBatch i env =>
    match s.enqueuers[i]? with
    | some ⟨sink :: rest, some batch⟩ =>
      match insertSIEMDelivery env sink.tenantID sink.id batch.range batch.body s.tables with
      | .ok tables => { s with tables, enqueuers := s.enqueuers.set i ⟨rest, none⟩ }
      | .error _ => { s with enqueuers := s.enqueuers.eraseIdx i }
    | _ => s
  | .claimSIEM workerID limit now =>
    match claimSIEMDeliveries decryptSecret workerID limit now s.tables with
    | .ok (items, tables) => { s with tables, siemWork := s.siemWork ++ items.map (Held.mk workerID) }
    | .error _ => s
  | .recordSIEM i env result deliverErr =>
    match s.siemWork[i]? with
    | none => s
    | some held =>
      match recordSIEMDeliveryAttempt env held.item result deliverErr s.tables with
      | .ok tables => { s with
          tables
          siemWork := s.siemWork.eraseIdx i
          succeeded := if result.succeeded deliverErr then held.item.id :: s.succeeded else s.succeeded }
      | .error _ => s
  | .retrySIEM now tenantID id => s.commit (retrySIEMDelivery now tenantID id s.tables)
  | .audit op => { s with tables := { s.tables with audit := (op.perform crypto ⟨s.tables.audit, []⟩).tables } }
  | .crash workerID =>
    { s with
      notificationWork := s.notificationWork.filter fun held ↦ held.workerID != workerID
      siemWork := s.siemWork.filter fun held ↦ held.workerID != workerID }

/-- Everything a step can do, with what its operation reported when it committed. -/
inductive SignalSystem.Stepped (crypto : Crypto) (s : SignalSystem) : SignalStep → SignalSystem → Prop
  | nothing (step : SignalStep) : Stepped crypto s step s
  | channels (step : SignalStep) (channels : Table Receiver Receiver.id noIndex)
    (unretried : ∀ now tenantID id, step ≠ .retryNotification now tenantID id ∧ step ≠ .retrySIEM now tenantID id) :
    Stepped crypto s step { s with tables := { s.tables with channels } }
  | notified {env : Env} {tenantID channelID : String} {transition : Transition} {body : Bytes} {q : Queue notifications}
    (inserts : s.tables.notifications.insert env tenantID channelID transition body = .ok q) :
    Stepped crypto s (.notify env tenantID channelID transition body)
      { s with tables := { s.tables with notifications := q } }
  | claimedNotifications {workerID : String} {limit : Int} {now : Time} {items : List SignalDeliveryItem}
    {q : Queue notifications}
    (claims : s.tables.notifications.claim s.tables.channel decryptSecret workerID limit now = .ok (items, q)) :
    Stepped crypto s (.claimNotifications workerID limit now)
      { s with
        tables := { s.tables with notifications := q }
        notificationWork := s.notificationWork ++ items.map (Held.mk workerID) }
  | recordedNotification {i : Nat} {env : Env} {result : SignalDeliveryResult} {deliverErr : Option Bytes} {held : Held}
    {q : Queue notifications} (holds : s.notificationWork[i]? = some held)
    (records : s.tables.notifications.record env held.item result deliverErr = .ok q) :
    Stepped crypto s (.recordNotification i env result deliverErr)
      { s with
        tables := { s.tables with notifications := q }
        notificationWork := s.notificationWork.eraseIdx i }
  | retriedNotification {now : Time} {tenantID id : String} {q : Queue notifications}
    (retries : s.tables.notifications.retry now tenantID id = .ok q) :
    Stepped crypto s (.retryNotification now tenantID id) { s with tables := { s.tables with notifications := q } }
  | createdSink {env : Env} {tenantID url : String} {secret : Bytes} {sinks : Table SIEMSink (fun s ↦ s.id) noIndex}
    {sink : SIEMSink} (rows : sinks.rows = s.tables.sinks.rows ++ [sink]) (cursor : sink.cursorSequence = 0) :
    Stepped crypto s (.createSink env tenantID url secret) { s with tables := { s.tables with sinks } }
  | updatedSink (now : Time) (tenantID id : String) (change : ReceiverChange) :
    Stepped crypto s (.updateSink now tenantID id change)
      { s with tables := updateSIEMSink now tenantID id change s.tables }
  | tested {env : Env} {tenantID sinkID : String} {body : Bytes} {q : Queue siem}
    (inserts : s.tables.siem.insert env tenantID sinkID ⟨0, 0⟩ body = .ok q) :
    Stepped crypto s (.testSink env tenantID sinkID body) { s with tables := { s.tables with siem := q } }
  | readSinks (scan : Scan SIEMSink) (limit : Int) :
    Stepped crypto s (.readSinks scan limit)
      { s with enqueuers := s.enqueuers ++ [⟨(s.tables.sinksToVisit scan limit).map SIEMSink.read, none⟩] }
  | built {i : Nat} {e : Enqueuer} (runs : s.enqueuers[i]? = some e) :
    Stepped crypto s (.buildBatch i) { s with enqueuers := s.enqueuers.set i (buildStep s.tables e) }
  | enqueued {i : Nat} {env : Env} {sink : SinkCursor} {rest : List SinkCursor} {batch : SIEMBatch} {q : Queue siem}
    (runs : s.enqueuers[i]? = some ⟨sink :: rest, some batch⟩)
    (inserts : s.tables.siem.insert env sink.tenantID sink.id batch.range batch.body = .ok q) :
    Stepped crypto s (.insertBatch i env)
      { s with tables := { s.tables with siem := q }, enqueuers := s.enqueuers.set i ⟨rest, none⟩ }
  | stopped (i : Nat) (env : Env) :
    Stepped crypto s (.insertBatch i env) { s with enqueuers := s.enqueuers.eraseIdx i }
  | claimedSIEM {workerID : String} {limit : Int} {now : Time} {items : List SignalDeliveryItem} {q : Queue siem}
    (claims : s.tables.siem.claim s.tables.sink decryptSecret workerID limit now = .ok (items, q)) :
    Stepped crypto s (.claimSIEM workerID limit now)
      { s with
        tables := { s.tables with siem := q }
        siemWork := s.siemWork ++ items.map (Held.mk workerID) }
  | recordedSIEM {i : Nat} {env : Env} {result : SignalDeliveryResult} {deliverErr : Option Bytes} {held : Held}
    {d : SignalDelivery SequenceRange} {q : Queue siem} (holds : s.siemWork[i]? = some held)
    (delivery : d ∈ s.tables.siem.deliveries) (tenant : d.tenantID = held.item.tenantID) (id : d.id = held.item.id)
    (records : s.tables.siem.record env held.item result deliverErr = .ok q) :
    Stepped crypto s (.recordSIEM i env result deliverErr)
      { s with
        tables := { s.tables with
          siem := q
          sinks := if result.succeeded deliverErr = true ∧ 0 < d.key.toSequence then
              s.tables.sinks.modify (SIEMSink.advance held.item.tenantID d.receiverID d.key.toSequence env.now)
                (SIEMSink.advance_id _ _ _ _) fun _ ↦ rfl
            else s.tables.sinks }
        siemWork := s.siemWork.eraseIdx i
        succeeded := if result.succeeded deliverErr then held.item.id :: s.succeeded else s.succeeded }
  | retriedSIEM {now : Time} {tenantID id : String} {q : Queue siem}
    (retries : s.tables.siem.retry now tenantID id = .ok q) :
    Stepped crypto s (.retrySIEM now tenantID id) { s with tables := { s.tables with siem := q } }
  | audited (op : AuditOp) :
    Stepped crypto s (.audit op)
      { s with tables := { s.tables with audit := (op.perform crypto ⟨s.tables.audit, []⟩).tables } }
  | crashed (workerID : String) :
    Stepped crypto s (.crash workerID)
      { s with
        notificationWork := s.notificationWork.filter fun held ↦ held.workerID != workerID
        siemWork := s.siemWork.filter fun held ↦ held.workerID != workerID }

theorem SignalSystem.stepped (crypto : Crypto) (s : SignalSystem) (step : SignalStep) :
    s.Stepped decryptSecret crypto step (s.perform decryptSecret crypto step) := by
  have hcommit {result : Except StoreError SignalTables}
      (hok : ∀ tables, result = .ok tables → s.Stepped decryptSecret crypto step { s with tables }) :
      s.Stepped decryptSecret crypto step (s.commit result) := by
    cases result with
    | ok tables => exact hok tables rfl
    | error => exact .nothing _
  cases step with
  | createChannel =>
    refine hcommit fun _ hok ↦ ?_
    obtain ⟨channels, -, h⟩ := bind_eq_ok.mp hok
    cases h
    exact .channels _ channels fun _ _ _ ↦ ⟨nofun, nofun⟩
  | updateChannel => exact .channels _ _ fun _ _ _ ↦ ⟨nofun, nofun⟩
  | notify =>
    refine hcommit fun _ hok ↦ ?_
    obtain ⟨_, hq, h⟩ := bind_eq_ok.mp (seq_eq_ok.mp hok).2
    cases h
    exact .notified hq
  | claimNotifications =>
    simp only [perform]
    split
    case h_1 hok =>
      obtain ⟨_, hq, h⟩ := bind_eq_ok.mp hok
      cases h
      exact .claimedNotifications hq
    case h_2 => exact .nothing _
  | recordNotification =>
    simp only [perform]
    split
    case h_1 => exact .nothing _
    case h_2 hheld =>
      split
      case h_1 hok =>
        obtain ⟨_, hq, h⟩ := bind_eq_ok.mp hok
        cases h
        exact .recordedNotification hheld hq
      case h_2 => exact .nothing _
  | retryNotification =>
    refine hcommit fun _ hok ↦ ?_
    obtain ⟨_, hq, h⟩ := bind_eq_ok.mp hok
    cases h
    exact .retriedNotification hq
  | createSink =>
    refine hcommit fun _ hok ↦ ?_
    obtain ⟨_, hinsert, h⟩ := bind_eq_ok.mp hok
    cases h
    exact .createdSink (Table.rows_insert? (insertRow_eq_ok.mp hinsert)) rfl
  | updateSink now tenantID id change => exact .updatedSink now tenantID id change
  | testSink =>
    refine hcommit fun _ hok ↦ ?_
    obtain ⟨_, hq, rfl⟩ := insertSIEMDelivery_eq_ok hok
    exact .tested hq
  | readSinks scan limit => exact .readSinks scan limit
  | buildBatch =>
    simp only [perform]
    split
    case h_1 => exact .nothing _
    case h_2 e he => exact .built he
  | insertBatch i env =>
    simp only [perform]
    split
    case h_1 hruns =>
      split
      case h_1 hok =>
        obtain ⟨_, hq, rfl⟩ := insertSIEMDelivery_eq_ok hok
        exact .enqueued hruns hq
      case h_2 => exact .stopped i env
    case h_2 => exact .nothing _
  | claimSIEM =>
    simp only [perform]
    split
    case h_1 hok =>
      obtain ⟨_, hq, h⟩ := bind_eq_ok.mp hok
      cases h
      exact .claimedSIEM hq
    case h_2 => exact .nothing _
  | recordSIEM =>
    simp only [perform]
    split
    case h_1 => exact .nothing _
    case h_2 hheld =>
      split
      case h_1 hok =>
        obtain ⟨_, _, hd, htenant, hid, hq, rfl⟩ := recordSIEMDeliveryAttempt_eq_ok hok
        exact .recordedSIEM hheld hd htenant hid hq
      case h_2 => exact .nothing _
  | retrySIEM =>
    refine hcommit fun _ hok ↦ ?_
    obtain ⟨_, hq, h⟩ := bind_eq_ok.mp hok
    cases h
    exact .retriedSIEM hq
  | audit op => exact .audited op
  | crash workerID => exact .crashed workerID

/-- A system without receivers, with the audit events of a time before the chain. -/
def SignalSystem.initial (audit : AuditTables) : SignalSystem :=
  ⟨⟨.empty, .empty _, .empty, .empty _, audit⟩, [], [], [], []⟩

/-- The steps of a list in turn. -/
def SignalSystem.performAll (crypto : Crypto) (steps : List SignalStep) (s : SignalSystem) : SignalSystem :=
  steps.foldl (SignalSystem.perform decryptSecret crypto) s

/-- The identifiers that a step generates for audit events are fresh. -/
def SignalStep.Fresh (s : SignalSystem) : SignalStep → Prop
  | .audit op => op.Fresh s.tables.audit
  | _ => True

/-- The systems that steps lead to. -/
inductive Reached (crypto : Crypto) (audit : AuditTables) : SignalSystem → Prop
  | initial : Reached crypto audit (.initial audit)
  | step {s : SignalSystem} (h : Reached crypto audit s) (step : SignalStep) (hfresh : step.Fresh s) :
    Reached crypto audit (s.perform decryptSecret crypto step)

/-- The identifiers of each step are fresh when it is taken. -/
def FreshAlong (crypto : Crypto) : List SignalStep → SignalSystem → Prop
  | [], _ => True
  | step :: rest, s => step.Fresh s ∧ FreshAlong crypto rest (s.perform decryptSecret crypto step)

variable {decryptSecret}

theorem Reached.performAll
    (h : Reached decryptSecret crypto audit s) (hfresh : FreshAlong decryptSecret crypto steps s) :
    Reached decryptSecret crypto audit (s.performAll decryptSecret crypto steps) := by
  induction steps generalizing s with
  | nil => exact h
  | cons step _ ih => exact ih (h.step step hfresh.1) hfresh.2

end Webhookery.Signals
