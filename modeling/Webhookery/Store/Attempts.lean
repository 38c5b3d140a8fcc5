import Webhookery.Store.Deliveries

/-!
# Delivery attempts

Workers claim due deliveries for a lease of sixty seconds, send each payload to its endpoint and
record the attempt: the delivery succeeded, is retried later, or is dead-lettered. Retention deletes
the bodies of old payloads.
-/

namespace Webhookery.Store

open Go Relational Provider

/-! ## Retry policies -/

namespace Retry

/-- `retry.Policy`. -/
structure Policy where
  maxAttempts : Int
  maxDuration : Duration
  initialDelay : Duration
  maxDelay : Duration

def defaultPolicy : Policy where
  maxAttempts := 12
  maxDuration := 72 * 60 * minute
  initialDelay := 10 * second
  maxDelay := 6 * 60 * minute

structure Classification where
  retryable : Bool
  reason : String

def classifyStatus (status : Int) : Classification :=
  if 200 ≤ status ∧ status ≤ 299 then ⟨false, "success"⟩
  else if status = 408 ∨ status = 409 ∨ status = 425 ∨ status = 429 then ⟨true, "temporary_http"⟩
  else if 500 ≤ status ∧ status ≤ 599 then ⟨true, "temporary_http"⟩
  else ⟨false, "permanent_http"⟩

/-- The loop of `delayCap`: the delay doubles until it reaches the maximum. -/
def Policy.doubleDelay (p : Policy) : Nat → Duration → Duration
  | 0, delay => delay
  | n + 1, delay =>
    if p.maxDelay ≤ wrapInt64 (delay * 2) then p.maxDelay else p.doubleDelay n (wrapInt64 (delay * 2))

def Policy.delayCap (p : Policy) (attempt : Int) : Duration :=
  min (p.doubleDelay attempt.toNat p.initialDelay) p.maxDelay

def normalizeAttempt (attempt : Int) : Int := if attempt < 0 then 0 else attempt

/-- The number that some bytes stand for, most significant first. -/
def natOfBytes (bs : Bytes) : Nat := bs.foldl (fun n b ↦ n * 256 + b.toNat) 0

def Policy.nextDeterministicDelay (p : Policy) (crypto : Crypto) (attempt : Int) (seed : String) : Duration :=
  let capDelay := p.delayCap attempt
  if capDelay ≤ 0 then 0
  else
    let seed := if seed = "" then retrySeedOf crypto ["empty"] else seed
    let sum := crypto.sha256 (bytesOf seed ++ [0] ++ bytesOf (formatInt (normalizeAttempt attempt)))
    (natOfBytes sum : Int) % (capDelay + 1)

end Retry

def retryPolicyForDelivery (tenantID retryPolicyID : String) (db : DB) : Except StoreError Retry.Policy :=
  if retryPolicyID = "" then .ok Retry.defaultPolicy
  else do
    let p ← selectRow db.retryPolicies fun p ↦
      p.tenantID == tenantID && p.id == retryPolicyID && p.state == .active
    return ⟨p.maxAttempts, wrapInt64 (p.maxDurationSeconds * second),
      wrapInt64 (p.initialDelaySeconds * second), wrapInt64 (p.maxDelaySeconds * second)⟩

/-! ## Claims -/

structure DeliveryItem where
  (id tenantID eventID endpointID endpointURL : String)
  attemptCount : Nat
  (retryPolicyID retrySeed : String)
  signingSecret : Bytes
  signingKeyID : String
  signingKeyVersion : Nat
  (mtlsClientCertPEM mtlsClientKeyPEM body : Bytes)

/-- An expired lease makes a delivery due again. -/
def Delivery.released (now : Time) (d : Delivery) : Delivery :=
  if d.state = .inProgress ∧ d.lockExpiresAt.any (· ≤ now) then
    { d with state := .scheduled, lockedBy := none, lockExpiresAt := none }
  else d

/-- A scheduled delivery whose time has come and whose endpoint takes deliveries. -/
def Delivery.due (db : DB) (now : Time) (d : Delivery) : Bool :=
  d.state == .scheduled && decide (d.nextAttemptAt ≤ now) && db.endpoints.rows.any fun e ↦
    e.tenantID == d.tenantID && e.id == d.endpointID && e.state == .active &&
      e.disabledUntil.all (· ≤ now)

def Delivery.isReplay (d : Delivery) : Bool := d.replayJobID != ""

/-- `next_attempt_at ASC, id ASC`. -/
def Delivery.dueOrder (d d' : Delivery) : Ordering :=
  (compare d.nextAttemptAt d'.nextAttemptAt).then (compare d.id d'.id)

/-- `row_number() OVER (PARTITION BY is_replay, tenant_id ORDER BY next_attempt_at, id)`. -/
def deliveryTenantRank (candidates : List Delivery) (d : Delivery) : Nat :=
  (candidates.filter fun c ↦
    c.isReplay == d.isReplay && c.tenantID == d.tenantID && (c.dueOrder d).isLE).length

/-- `ORDER BY is_replay, tenant_rank, next_attempt_at, tenant_id, id`. -/
def deliveryClaimOrder (candidates : List Delivery) (d d' : Delivery) : Bool :=
  ((compare d.isReplay d'.isReplay).then
    ((compare (deliveryTenantRank candidates d) (deliveryTenantRank candidates d')).then
      ((compare d.nextAttemptAt d'.nextAttemptAt).then
        ((compare d.tenantID d'.tenantID).then (compare d.id d'.id))))).isLE

/-- The deliveries a claim takes. -/
def claimedDeliveries (db : DB) (now : Time) (limit : Nat) (rows : List Delivery) : List Delivery :=
  let candidates := rows.filter (Delivery.due db now)
  (candidates.insertionSort fun d d' ↦ deliveryClaimOrder candidates d d' = true).take limit

def deliveryLeaseTime : Duration := 60 * second

def Delivery.claimedBy (workerID : String) (now : Time) (d : Delivery) : Delivery :=
  { d with
    state := .inProgress, lockedBy := some workerID,
    lockExpiresAt := some (timestamptz now + deliveryLeaseTime) }

/-- The newest active secret of an endpoint. -/
def signingKey (db : DB) (e : Endpoint) : Option EndpointSecret :=
  db.endpointSecrets.firstBy (fun s ↦ s.tenantID == e.tenantID && s.endpointID == e.id && s.state == .active)
    fun s s' ↦ s.version > s'.version

/-- `decryptSecret`. -/
def Env.decrypted (env : Env) (tenantID purpose : String) (ciphertext : Bytes) : Except StoreError Bytes :=
  match env.decryptSecret tenantID purpose ciphertext with
  | some secret => .ok secret
  | none => .error .failed

/-- The certificate and key of an endpoint with client certificates. -/
def clientCertificate (env : Env) (e : Endpoint) : Except StoreError (Bytes × Bytes) :=
  if e.mtlsEnabled then
    if e.encryptedMTLSCert = [] ∨ e.encryptedMTLSKey = [] then .error .failed
    else do
      let cert ← env.decrypted e.tenantID "endpoint_mtls_client_cert" e.encryptedMTLSCert
      let key ← env.decrypted e.tenantID "endpoint_mtls_client_key" e.encryptedMTLSKey
      return (cert, key)
  else .ok ([], [])

/-- The body of a claimed delivery: that of its payload row, unless it has none or was deleted. -/
def deliveryBody (d : Delivery) (db : DB) : Except StoreError Bytes :=
  if d.deliveryPayloadID = "" then legacyDeliveryEnvelope d.tenantID d.eventID db
  else
    match db.deliveryPayloads.find? fun p ↦ p.tenantID == d.tenantID && p.id == d.deliveryPayloadID with
    | none => .error .gone
    | some p => if p.storageStatus = .deleted then .error .gone else .ok p.body

def populateDeliveryItem (env : Env) (db : DB) (d : Delivery) : Except StoreError DeliveryItem := do
  let e ← selectRow db.endpoints fun e ↦ e.tenantID == d.tenantID && e.id == d.endpointID
  let some key := signingKey db e | .error .notFound
  let body ← deliveryBody d db
  let secret ← env.decrypted d.tenantID "endpoint_signing_secret" key.encryptedSecret
  let (cert, certKey) ← clientCertificate env e
  return {
    id := d.id, tenantID := d.tenantID, eventID := d.eventID, endpointID := d.endpointID,
    endpointURL := e.url, attemptCount := d.attemptCount, retryPolicyID := d.retryPolicyID,
    retrySeed := d.retrySeed, signingSecret := secret, signingKeyID := key.id,
    signingKeyVersion := key.version, mtlsClientCertPEM := cert, mtlsClientKeyPEM := certKey, body }

/-- `UPDATE deliveries` that leaves identifiers alone. -/
def updateDeliveries (f : Delivery → Delivery) (hid : ∀ d, (f d).id = d.id) (db : DB) : DB :=
  { db with deliveries := db.deliveries.modify f hid (fun _ ↦ rfl) }

/-- What one claim does to a delivery: the release of expired leases, then the claim. -/
def deliveryClaimUpdate (workerID : String) (now : Time) (claimedIDs : List String) (d : Delivery) : Delivery :=
  if claimedIDs.contains d.id then (d.released now).claimedBy workerID now else d.released now

theorem deliveryClaimUpdate_id (workerID : String) (now : Time) (claimedIDs : List String)
    (d : Delivery) : (deliveryClaimUpdate workerID now claimedIDs d).id = d.id := by
  unfold deliveryClaimUpdate Delivery.released Delivery.claimedBy
  split <;> split <;> rfl

/-- `ClaimDueDeliveries`: one claimed delivery that cannot be populated fails the whole claim. -/
def claimDueDeliveries (workerID : String) (limit : Nat) (env : Env) (db : DB) :
    Except StoreError (List DeliveryItem × DB) := do
  let claimed := claimedDeliveries db env.now limit (db.deliveries.rows.map (Delivery.released env.now))
  let items ← claimed.mapM (populateDeliveryItem env db)
  return (items, updateDeliveries (deliveryClaimUpdate workerID env.now (claimed.map Delivery.id))
    (deliveryClaimUpdate_id workerID env.now _) db)

/-! ### Claims that committed -/

section Batches

variable {α β : Type} {f : α → Except StoreError β} {as : List α} {bs : List β}

theorem mapM_eq_ok : as.mapM f = .ok bs ↔ as.map f = bs.map .ok := by
  induction as generalizing bs with
  | nil => cases bs <;> simp [pure, Except.pure]
  | cons _ _ ih => cases bs <;> simp [List.mapM_cons, bind_eq_ok, ih, pure, Except.pure]

theorem exists_of_mapM_eq_ok (h : as.mapM f = .ok bs) (hb : b ∈ bs) : ∃ a ∈ as, f a = .ok b :=
  List.mem_map.mp (mapM_eq_ok.mp h ▸ List.mem_map_of_mem hb)

theorem exists_mem_of_mapM_eq_ok (h : as.mapM f = .ok bs) (ha : a ∈ as) : ∃ b ∈ bs, f a = .ok b := by
  have hmem : f a ∈ bs.map .ok := mapM_eq_ok.mp h ▸ List.mem_map_of_mem ha
  simpa [eq_comm] using hmem

/-- A batch fails when one of its elements fails. -/
theorem exists_mapM_iff : (∃ bs, as.mapM f = .ok bs) ↔ ∀ a ∈ as, ∃ b, f a = .ok b := by
  refine ⟨fun ⟨_, h⟩ a ha ↦ ?_, fun h ↦ ?_⟩
  · obtain ⟨b, -, hb⟩ := exists_mem_of_mapM_eq_ok h ha
    exact ⟨b, hb⟩
  · choose g hg using h
    exact ⟨as.pmap g fun _ h ↦ h, mapM_eq_ok.mpr (by simp [List.map_pmap, ← hg])⟩

end Batches

variable {item : DeliveryItem}

theorem populateDeliveryItem_eq_ok (h : populateDeliveryItem env db d = .ok item) :
    item.id = d.id ∧ item.tenantID = d.tenantID ∧ item.eventID = d.eventID ∧
      deliveryBody d db = .ok item.body := by
  obtain ⟨_, -, h⟩ := bind_eq_ok.mp h
  dsimp only at h
  split at h
  case h_1 =>
    obtain ⟨_, hbody, h⟩ := bind_eq_ok.mp h
    obtain ⟨_, -, h⟩ := bind_eq_ok.mp h
    obtain ⟨⟨_, _⟩, -, h⟩ := bind_eq_ok.mp h
    cases h
    exact ⟨rfl, rfl, rfl, hbody⟩
  case h_2 => cases h

/-- A claimed item is that of a delivery and carries the body of its payload. -/
theorem delivery_of_claimDueDeliveries
    (h : claimDueDeliveries workerID limit env db = .ok (items, db')) (hitem : item ∈ items) :
    ∃ d ∈ db.deliveries, item.id = d.id ∧ item.tenantID = d.tenantID ∧ item.eventID = d.eventID ∧
      deliveryBody d db = .ok item.body := by
  obtain ⟨_, hpopulate, h⟩ := bind_eq_ok.mp h
  cases h
  obtain ⟨_, hclaimed, hitem⟩ := exists_of_mapM_eq_ok hpopulate hitem
  have hcandidate := List.mem_filter.mp ((List.mem_insertionSort _).mp (List.mem_of_mem_take hclaimed))
  obtain ⟨d, hd, rfl⟩ := List.mem_map.mp hcandidate.1
  refine ⟨d, hd, ?_⟩
  have hpopulated := populateDeliveryItem_eq_ok hitem
  unfold Delivery.released at hpopulated
  split at hpopulated <;> exact hpopulated

/-- A claim leaves a delivery alone that is neither scheduled nor in progress. -/
theorem deliveryClaimUpdate_eq_self
    (hd : d ∈ db.deliveries) (hscheduled : d.state ≠ .scheduled) (hprogress : d.state ≠ .inProgress) :
    deliveryClaimUpdate workerID now ((claimedDeliveries db now limit
      (db.deliveries.rows.map (Delivery.released now))).map Delivery.id) d = d := by
  have hreleased : d.released now = d := if_neg fun h ↦ hprogress h.1
  rw [deliveryClaimUpdate, if_neg, hreleased]
  intro hclaimed
  obtain ⟨_, hd₁, hid⟩ := List.mem_map.mp (List.contains_iff_mem.mp hclaimed)
  have hcandidate := List.mem_filter.mp ((List.mem_insertionSort _).mp (List.mem_of_mem_take hd₁))
  obtain ⟨d₀, hd₀, rfl⟩ := List.mem_map.mp hcandidate.1
  -- the row that was claimed is the delivery itself
  have hid₀ : (d₀.released now).id = d₀.id := by
    unfold Delivery.released
    split <;> rfl
  obtain rfl : d₀ = d := Table.eq_of_key_eq hd₀ hd (hid₀.symm.trans hid)
  have hdue := hcandidate.2
  simp only [hreleased, Delivery.due, Bool.and_eq_true, beq_iff_eq] at hdue
  exact hscheduled hdue.1.1

/-! ## Attempts -/

/-- The result of one request; `failed` says that the client returned an error. -/
structure DeliveryResult where
  statusCode : Int
  responseBody : Bytes
  failureClass : String
  failed : Bool

/-- A text column takes bytes that are valid UTF-8 without a zero byte. -/
def textAcceptsBytes (bs : Bytes) : Bool := bytesOf (stringOf bs) == bs && !bs.contains 0

/-- What `RecordDeliveryAttempt` concludes from a result. -/
inductive AttemptOutcome where
  | succeeded
  | retry (delay : Duration)
  | deadLettered

/-- The attempt failed when the client returned an error or the status is no success. -/
def DeliveryResult.failure (r : DeliveryResult) : Bool :=
  r.failed || decide (r.statusCode < 200) || decide (r.statusCode > 299)

def attemptRetryable (result : DeliveryResult) : Bool :=
  result.failure && (Retry.classifyStatus result.statusCode).retryable

def attemptFailureClass (result : DeliveryResult) : String :=
  if result.failure ∧ result.failureClass = "" then (Retry.classifyStatus result.statusCode).reason
  else result.failureClass

def DeliveryItem.seed (crypto : Crypto) (item : DeliveryItem) : String :=
  if item.retrySeed = "" then
    retrySeedOf crypto [item.tenantID, item.id, item.eventID, item.endpointID]
  else item.retrySeed

def attemptOutcome (crypto : Crypto) (policy : Retry.Policy) (item : DeliveryItem)
    (result : DeliveryResult) : AttemptOutcome :=
  if result.failure then
    if attemptRetryable result ∧ (item.attemptCount + 1 : Int) < policy.maxAttempts then
      .retry (policy.nextDeterministicDelay crypto (item.attemptCount + 1) (item.seed crypto))
    else .deadLettered
  else .succeeded

def AttemptOutcome.delay : AttemptOutcome → Duration
  | .retry delay => delay
  | _ => 0

def AttemptOutcome.nextRetryAt (now : Time) : AttemptOutcome → Option Time
  | .retry delay => some (timestamptz (now + delay))
  | _ => none

/-- What an attempt does to its delivery. -/
def Delivery.afterAttempt (crypto : Crypto) (now : Time) (item : DeliveryItem)
    (outcome : AttemptOutcome) (d : Delivery) : Delivery :=
  let d := { d with attemptCount := item.attemptCount + 1, lockedBy := none, lockExpiresAt := none }
  match outcome with
  | .succeeded => { d with state := .succeeded }
  | .retry delay =>
    { d with
      state := .scheduled, nextAttemptAt := timestamptz (now + delay), retrySeed := item.seed crypto }
  | .deadLettered => { d with state := .deadLettered }

theorem Delivery.afterAttempt_id (crypto : Crypto) (now : Time) (item : DeliveryItem)
    (outcome : AttemptOutcome) (d : Delivery) : (d.afterAttempt crypto now item outcome).id = d.id := by
  cases outcome <;> rfl

/-- What an attempt does to its endpoint. -/
def Endpoint.afterAttempt (now : Time) (outcome : AttemptOutcome) (e : Endpoint) : Endpoint :=
  match outcome with
  | .succeeded => { e with failureCount := 0, circuitState := .closed, disabledUntil := none }
  | .retry _ =>
    if 3 ≤ e.failureCount + 1 then
      { e with
        failureCount := e.failureCount + 1, circuitState := .opened,
        disabledUntil := some (timestamptz now + 5 * minute) }
    else { e with failureCount := e.failureCount + 1 }
  | .deadLettered =>
    { e with
      failureCount := e.failureCount + 1, circuitState := .opened,
      disabledUntil := some (timestamptz now + 10 * minute) }

theorem Endpoint.afterAttempt_id (now : Time) (outcome : AttemptOutcome) (e : Endpoint) :
    (e.afterAttempt now outcome).id = e.id := by
  cases outcome with
  | succeeded | deadLettered => rfl
  | retry =>
    simp only [Endpoint.afterAttempt]
    split <;> rfl

def attemptRow (crypto : Crypto) (env : Env) (item : DeliveryItem) (result : DeliveryResult)
    (outcome : AttemptOutcome) : DeliveryAttempt where
  id := env.mustID "att" 0
  tenantID := item.tenantID
  deliveryID := item.id
  eventID := item.eventID
  endpointID := item.endpointID
  requestSHA256 := hashSHA256 crypto item.body
  responseSHA256 := hashSHA256 crypto result.responseBody
  attemptNo := item.attemptCount + 1
  state := if result.failure then .failed else .succeeded
  responseStatus := result.statusCode
  responseBody := stringOf (result.responseBody.take 16384)
  failureClass := attemptFailureClass result
  retryable := attemptRetryable result
  retryDelayMS := outcome.delay / 1000000
  nextRetryAt := outcome.nextRetryAt env.now
  completedAt := timestamptz env.now

/-- The delivery, the event and the endpoint of an attempt must exist, and its response must be
text. -/
def insertAttempt (row : DeliveryAttempt) (responseBody : Bytes) (db : DB) : Except StoreError DB := do
  require (textAcceptsBytes responseBody && db.deliveries.rows.any (·.id == row.deliveryID) &&
    db.events.rows.any (·.id == row.eventID) && db.endpoints.rows.any (·.id == row.endpointID)) .failed
  let attempts ← insertRow db.attempts row
  return { db with attempts }

/-- The open entry of a dead-lettered delivery. -/
def deadLetterRow (env : Env) (item : DeliveryItem) (reason : String) : DeadLetterEntry where
  id := env.mustID "dlq" 0
  tenantID := item.tenantID
  deliveryID := item.id
  eventID := item.eventID
  reason := reason
  released := false
  createdAt := timestamptz env.now

/-- A dead-lettered delivery gets an open entry. -/
def insertDeadLetter (env : Env) (item : DeliveryItem) (reason : String) (outcome : AttemptOutcome)
    (db : DB) : Except StoreError DB :=
  match outcome with
  | .deadLettered => do
    let deadLetters ← insertRow db.deadLetters (deadLetterRow env item reason)
    return { db with deadLetters }
  | _ => .ok db

/-- The delivery and the endpoint after an attempt; neither update checks the current state. -/
def settleDelivery (crypto : Crypto) (now : Time) (item : DeliveryItem) (outcome : AttemptOutcome) (db : DB) : DB :=
  { db with
    deliveries := db.deliveries.modify
      (fun d ↦ if d.tenantID = item.tenantID ∧ d.id = item.id then d.afterAttempt crypto now item outcome
        else d)
      (fun d ↦ by split; exacts [d.afterAttempt_id crypto now item outcome, rfl]) (fun _ ↦ rfl)
    endpoints := db.endpoints.modify
      (fun e ↦ if e.tenantID = item.tenantID ∧ e.id = item.endpointID then e.afterAttempt now outcome
        else e)
      (fun e ↦ by split; exacts [e.afterAttempt_id now outcome, rfl]) (fun _ ↦ rfl) }

def recordDeliveryAttempt (crypto : Crypto) (item : DeliveryItem) (result : DeliveryResult) (env : Env)
    (db : DB) : Except StoreError (Unit × DB) := do
  let policy ← retryPolicyForDelivery item.tenantID item.retryPolicyID db
  let outcome := attemptOutcome crypto policy item result
  let db ← insertAttempt (attemptRow crypto env item result outcome) (result.responseBody.take 16384) db
  let db ← insertDeadLetter env item (attemptFailureClass result) outcome
    (settleDelivery crypto env.now item outcome db)
  return ((), db)

/-- The entries that an attempt adds. -/
def newDeadLetters (env : Env) (item : DeliveryItem) (reason : String) : AttemptOutcome → List DeadLetterEntry
  | .deadLettered => [deadLetterRow env item reason]
  | _ => []

/-- An attempt that was recorded adds its row, settles the delivery as the policy decides and, when it is
the last one, adds an entry. -/
theorem recordDeliveryAttempt_decides {crypto : Crypto} {result : DeliveryResult}
    {env : Env} {db db' : DB} (h : recordDeliveryAttempt crypto item result env db = .ok ((), db')) :
    ∃ policy attempts deadLetters,
      retryPolicyForDelivery item.tenantID item.retryPolicyID db = .ok policy ∧
      attempts.rows = db.attempts.rows ++
        [attemptRow crypto env item result (attemptOutcome crypto policy item result)] ∧
      deadLetters.rows = db.deadLetters.rows ++
        newDeadLetters env item (attemptFailureClass result) (attemptOutcome crypto policy item result) ∧
      db' = { settleDelivery crypto env.now item (attemptOutcome crypto policy item result) db with
        attempts := attempts, deadLetters := deadLetters } := by
  obtain ⟨policy, hpolicy, h⟩ := bind_eq_ok.mp h
  obtain ⟨_, hattempt, h⟩ := bind_eq_ok.mp h
  obtain ⟨_, hentry, h⟩ := bind_eq_ok.mp h
  cases h
  obtain ⟨-, t, ht, rfl⟩ := require_insertRow_eq_ok.mp hattempt
  refine ⟨policy, t, ?_⟩
  generalize attemptOutcome crypto policy item result = outcome at hentry ht
  have hrows := Table.rows_insert? ht
  cases outcome with
  | succeeded | retry =>
    cases hentry
    exact ⟨db.deadLetters, hpolicy, hrows, by simp [newDeadLetters], rfl⟩
  | deadLettered =>
    obtain ⟨t', ht', h⟩ := bind_eq_ok.mp hentry
    cases h
    exact ⟨t', hpolicy, hrows, Table.rows_insert? (insertRow_eq_ok.mp ht'), rfl⟩

theorem recordDeliveryAttempt_eq_ok {crypto : Crypto} {result : DeliveryResult}
    {env : Env} {db db' : DB} (h : recordDeliveryAttempt crypto item result env db = .ok ((), db')) :
    ∃ outcome attempts deadLetters,
      attempts.rows = db.attempts.rows ++ [attemptRow crypto env item result outcome] ∧
      deadLetters.rows =
        db.deadLetters.rows ++ newDeadLetters env item (attemptFailureClass result) outcome ∧
      db' = { settleDelivery crypto env.now item outcome db with
        attempts := attempts, deadLetters := deadLetters } := by
  obtain ⟨_, attempts, deadLetters, -, hrest⟩ := recordDeliveryAttempt_decides h
  exact ⟨_, attempts, deadLetters, hrest⟩

/-! ## Retention -/

structure PayloadRetention where
  (tenantID sourceID : String)
  cutoff : Time

/-- The payloads a retention run is about; a policy of a source reads the source of the event. -/
def PayloadRetention.covers (policy : PayloadRetention) (db : DB) (p : DeliveryPayload) : Bool :=
  p.tenantID == policy.tenantID && p.storageStatus == .stored && decide (p.createdAt < policy.cutoff) &&
    (policy.sourceID == "" || db.events.rows.any fun e ↦
      e.tenantID == p.tenantID && e.id == p.eventID && e.sourceID == policy.sourceID)

def DeliveryPayload.withoutBody (p : DeliveryPayload) : DeliveryPayload :=
  { p with body := [], storageStatus := .deleted }

/-- `applyDeliveryPayloadRetention`: the oldest hundred. -/
def applyDeliveryPayloadRetention (policy : PayloadRetention) (db : DB) : Except StoreError (Unit × DB) :=
  let old := ((db.deliveryPayloads.rows.filter (policy.covers db)).insertionSort fun p p' ↦
    p.createdAt ≤ p'.createdAt).take 100
  .ok ((), { db with
    deliveryPayloads := db.deliveryPayloads.modify
      (fun p ↦
        if (p.tenantID == policy.tenantID && (old.map DeliveryPayload.id).contains p.id) = true then
          p.withoutBody
        else p)
      (fun p ↦ by split <;> rfl) (fun p ↦ by split <;> rfl) })

end Webhookery.Store
