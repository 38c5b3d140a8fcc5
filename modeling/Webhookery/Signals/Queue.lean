import Webhookery.Store.Attempts

/-!
# Queues of signal deliveries

Notification deliveries and SIEM deliveries are kept, claimed, recorded and retried in the same way. They
differ in what a delivery is about, which is its key, in the prefixes of identifiers and in the purpose that
the secrets of their receivers are encrypted for.

A claim marks deliveries as in progress and names the worker. It sets no lease, and nothing here looks at how
long a delivery has been in progress.
-/

namespace Webhookery.Signals

open Go Relational Store

inductive SignalState where
  | scheduled
  | inProgress
  | succeeded
  | failed
  deriving DecidableEq, Repr

/-- A row of `notification_deliveries` or `siem_deliveries`. -/
structure SignalDelivery (κ : Type) where
  (id tenantID receiverID : String)
  key : κ
  state : SignalState
  body : Bytes
  attemptCount : Int
  nextAttemptAt : Time
  workerID : String
  createdAt : Time
  deriving DecidableEq, Repr

/-- A row of `notification_delivery_attempts` or `siem_delivery_attempts`; the error is a text of bytes. -/
structure SignalAttempt where
  (id tenantID deliveryID : String)
  statusCode : Int
  failureClass : String
  responseBody : Bytes
  responseTruncated : Bool
  error : Bytes
  deriving DecidableEq, Repr

/-- What distinguishes the two kinds of deliveries. `unique` says for which keys there is at most one
delivery of a receiver. -/
structure Family (κ : Type) where
  (deliveryPrefix attemptPrefix secretPurpose : String)
  unique : κ → Bool

variable {κ : Type}

/-- The partial unique index of the deliveries. -/
def Family.index (F : Family κ) (d : SignalDelivery κ) : Option (String × String × κ) :=
  if F.unique d.key then some (d.tenantID, d.receiverID, d.key) else none

structure Queue (F : Family κ) where
  deliveries : Table (SignalDelivery κ) SignalDelivery.id F.index
  attempts : Table SignalAttempt SignalAttempt.id noIndex

def Queue.empty (F : Family κ) : Queue F := ⟨.empty, .empty⟩

/-- Where a delivery goes: the address of an active channel or sink, and its encrypted secret. -/
structure Destination where
  url : String
  encryptedSecret : Bytes
  deriving DecidableEq, Repr

structure SignalDeliveryItem where
  (id tenantID url : String)
  (body secret : Bytes)
  attemptCount : Int
  deriving DecidableEq, Repr

structure SignalDeliveryResult where
  statusCode : Int
  responseBody : Bytes
  responseTruncated : Bool
  failureClass : String
  deriving DecidableEq, Repr

variable {F : Family κ} {f : SignalDelivery κ → SignalDelivery κ} {now : Time} {tenantID id : String}
  {attemptCount : Int}

/-! ## Insertion -/

/-- `INSERT ... ON CONFLICT` that leaves the delivery with the same key alone. -/
def Queue.insert [DecidableEq κ] (env : Env) (tenantID receiverID : String) (key : κ) (body : Bytes) (q : Queue F) :
    Except StoreError (Queue F) :=
  let d : SignalDelivery κ :=
    ⟨env.mustID F.deliveryPrefix 0, tenantID, receiverID, key, .scheduled, body, 0, timestamptz env.now, "",
      timestamptz env.now⟩
  if q.deliveries.rows.any fun e ↦ F.index d != none && F.index e == F.index d then .ok q
  else do
    let deliveries ← insertRow q.deliveries d
    return { q with deliveries }

/-! ## Claims -/

section Claims

variable (destination : String → String → Option Destination) (decryptSecret : String → String → Bytes → Option Bytes)

/-- A scheduled delivery whose time has come and whose receiver is active. -/
def SignalDelivery.due (now : Time) (d : SignalDelivery κ) : Bool :=
  d.state == .scheduled && decide (d.nextAttemptAt ≤ now) && (destination d.tenantID d.receiverID).isSome

/-- `ORDER BY next_attempt_at ASC, created_at ASC, id ASC`. -/
def SignalDelivery.claimOrder (d d' : SignalDelivery κ) : Bool :=
  ((compare d.nextAttemptAt d'.nextAttemptAt).then
    ((compare d.createdAt d'.createdAt).then (compare d.id d'.id))).isLE

/-- The deliveries a claim takes. -/
def Queue.claimed (limit : Int) (now : Time) (q : Queue F) : List (SignalDelivery κ) :=
  ((q.deliveries.rows.filter (SignalDelivery.due destination now)).insertionSort
    fun d d' ↦ d.claimOrder d' = true).take (if limit ≤ 0 then 10 else limit.toNat)

def SignalDelivery.claimedBy (workerID : String) (d : SignalDelivery κ) : SignalDelivery κ :=
  { d with state := .inProgress, workerID }

/-- The address and the secret of a claimed delivery. -/
def populateItem (purpose : String) (d : SignalDelivery κ) : Except StoreError SignalDeliveryItem :=
  match destination d.tenantID d.receiverID with
  | none => .error .notFound
  | some receiver =>
    match decryptSecret d.tenantID purpose receiver.encryptedSecret with
    | none => .error .failed
    | some secret => .ok ⟨d.id, d.tenantID, receiver.url, d.body, secret, d.attemptCount⟩

/-- What a claim does to a delivery. -/
def claimUpdate (workerID : String) (claimed : List String) (d : SignalDelivery κ) : SignalDelivery κ :=
  if claimed.contains d.id then d.claimedBy workerID else d

theorem claimUpdate_id (workerID : String) (claimed : List String) (d : SignalDelivery κ) :
    (claimUpdate workerID claimed d).id = d.id := by
  unfold claimUpdate
  split <;> rfl

theorem index_claimUpdate (workerID : String) (claimed : List String) (d : SignalDelivery κ) :
    F.index (claimUpdate workerID claimed d) = F.index d := by
  unfold claimUpdate
  split <;> rfl

/-- A claim: one delivery whose secret cannot be decrypted fails it as a whole. -/
def Queue.claim (workerID : String) (limit : Int) (now : Time) (q : Queue F) :
    Except StoreError (List SignalDeliveryItem × Queue F) := do
  let claimed := q.claimed destination limit now
  let items ← claimed.mapM (populateItem destination decryptSecret F.secretPurpose)
  return (items, { q with
    deliveries := q.deliveries.modify (claimUpdate workerID (claimed.map SignalDelivery.id))
      (claimUpdate_id workerID _) (index_claimUpdate workerID _) })

end Claims

/-! ## Attempts -/

/-- An attempt succeeds when the client returned no error and the status is a success. -/
def SignalDeliveryResult.succeeded (result : SignalDeliveryResult) (deliverErr : Option Bytes) : Bool :=
  deliverErr.isNone && decide (200 ≤ result.statusCode) && decide (result.statusCode ≤ 299)

/-- What an attempt does to its delivery. The worker's count of attempts is that of its claim. -/
def SignalDelivery.afterAttempt (now : Time) (attemptCount : Int) (succeeded : Bool) (d : SignalDelivery κ) :
    SignalDelivery κ :=
  let d := { d with attemptCount, workerID := "" }
  if succeeded then { d with state := .succeeded }
  else if attemptCount < 5 then
    { d with
      state := .scheduled
      nextAttemptAt := timestamptz (now + attemptCount * attemptCount * minute) }
  else { d with state := .failed }

/-- The statement `UPDATE ... WHERE tenant_id=$1 AND id=$2`. -/
def SignalDelivery.updateIf (tenantID id : String) (f : SignalDelivery κ → SignalDelivery κ)
    (d : SignalDelivery κ) : SignalDelivery κ :=
  if d.tenantID = tenantID ∧ d.id = id then f d else d

theorem SignalDelivery.updateIf_id
    (hf : ∀ d, (f d).id = d.id) (d : SignalDelivery κ) : (d.updateIf tenantID id f).id = d.id := by
  unfold SignalDelivery.updateIf
  split
  · exact hf d
  · rfl

theorem SignalDelivery.index_updateIf
    (hf : ∀ d, F.index (f d) = F.index d) (d : SignalDelivery κ) : F.index (d.updateIf tenantID id f) = F.index d := by
  unfold SignalDelivery.updateIf
  split
  · exact hf d
  · rfl

variable {succeeded : Bool}

theorem SignalDelivery.afterAttempt_id (d : SignalDelivery κ) :
    (d.afterAttempt now attemptCount succeeded).id = d.id := by
  unfold SignalDelivery.afterAttempt
  dsimp only
  split_ifs <;> rfl

theorem SignalDelivery.index_afterAttempt
    (d : SignalDelivery κ) : F.index (d.afterAttempt now attemptCount succeeded) = F.index d := by
  unfold SignalDelivery.afterAttempt
  dsimp only
  split_ifs <;> rfl

/-- The row of an attempt. -/
def signalAttempt (id : String) (item : SignalDeliveryItem) (result : SignalDeliveryResult)
    (deliverErr : Option Bytes) : SignalAttempt where
  id := id
  tenantID := item.tenantID
  deliveryID := item.id
  statusCode := result.statusCode
  failureClass := if result.failureClass = "" ∧ deliverErr.isSome then "network_error" else result.failureClass
  responseBody := result.responseBody.take 16384
  responseTruncated := result.responseTruncated
  error := (deliverErr.getD []).take 512

/-- An attempt is recorded: its row, and the new state of the delivery. -/
def Queue.record (env : Env) (item : SignalDeliveryItem) (result : SignalDeliveryResult)
    (deliverErr : Option Bytes) (q : Queue F) : Except StoreError (Queue F) := do
  let row := signalAttempt (env.mustID F.attemptPrefix 0) item result deliverErr
  require (textAccepts row.failureClass && textAcceptsBytes row.error &&
    q.deliveries.rows.any (·.id == row.deliveryID)) .failed
  let attempts ← insertRow q.attempts row
  let afterAttempt := SignalDelivery.afterAttempt env.now (item.attemptCount + 1) (result.succeeded deliverErr)
  let deliveries := q.deliveries.modify (SignalDelivery.updateIf item.tenantID item.id afterAttempt)
    (SignalDelivery.updateIf_id SignalDelivery.afterAttempt_id)
    (SignalDelivery.index_updateIf SignalDelivery.index_afterAttempt)
  return { attempts, deliveries }

/-! ## Retries by an operator -/

def SignalDelivery.rescheduled (now : Time) (d : SignalDelivery κ) : SignalDelivery κ :=
  { d with state := .scheduled, nextAttemptAt := timestamptz now, workerID := "" }

/-- A delivery that has not succeeded is scheduled at once. -/
def Queue.retry (now : Time) (tenantID id : String) (q : Queue F) : Except StoreError (Queue F) :=
  if q.deliveries.rows.any fun d ↦ d.tenantID == tenantID && d.id == id && d.state != .succeeded then
    .ok { q with
      deliveries := q.deliveries.modify (SignalDelivery.updateIf tenantID id (SignalDelivery.rescheduled now))
        (SignalDelivery.updateIf_id fun _ ↦ rfl) (SignalDelivery.index_updateIf fun _ ↦ rfl) }
  else .error .notFound

/-! ## What operations change -/

/-- What a delivery is about and carries; nothing changes it. -/
def SignalDelivery.content (d : SignalDelivery κ) : String × String × String × κ × Bytes :=
  (d.id, d.tenantID, d.receiverID, d.key, d.body)

theorem SignalDelivery.content_eq_iff {d d' : SignalDelivery κ} :
    d'.content = d.content ↔ d'.id = d.id ∧ d'.tenantID = d.tenantID ∧ d'.receiverID = d.receiverID ∧
      d'.key = d.key ∧ d'.body = d.body := by
  simp only [SignalDelivery.content, Prod.mk.injEq]

/-- The deliveries after an `UPDATE`: their contents are the same, and only the ones it is about changed. -/
def Queue.Updated (touched : SignalDelivery κ → Prop) (q q' : Queue F) : Prop :=
  ∃ f : SignalDelivery κ → SignalDelivery κ, q'.deliveries.rows = q.deliveries.rows.map f ∧
    (∀ d, (f d).content = d.content) ∧ ∀ d ∈ q.deliveries, ¬touched d → f d = d

section Updated

variable {touched : SignalDelivery κ → Prop} {q q' : Queue F} {d : SignalDelivery κ}
  {destination : String → String → Option Destination} {decryptSecret : String → String → Bytes → Option Bytes}

theorem Queue.Updated.mem_of_not_touched (h : q.Updated touched q') (hd : d ∈ q.deliveries) (hnot : ¬touched d) :
    d ∈ q'.deliveries := by
  obtain ⟨_, hrows, -, hsame⟩ := h
  rw [Table.mem_def, hrows, ← hsame d hd hnot]
  exact List.mem_map_of_mem hd

theorem Queue.Updated.kept (h : q.Updated touched q') (hd : d ∈ q.deliveries) :
    ∃ d' ∈ q'.deliveries, d'.content = d.content := by
  obtain ⟨f, hrows, hcontent, -⟩ := h
  refine ⟨f d, ?_, hcontent d⟩
  exact (Table.mem_map hrows).mpr ⟨_, hd, rfl⟩

theorem Queue.Updated.origin (h : q.Updated touched q') (hd : d ∈ q'.deliveries) :
    ∃ d₀ ∈ q.deliveries, d.content = d₀.content := by
  obtain ⟨_, hrows, hcontent, -⟩ := h
  obtain ⟨d₀, hd₀, rfl⟩ := (Table.mem_map hrows).mp hd
  exact ⟨d₀, hd₀, hcontent d₀⟩

theorem SignalDelivery.content_updateIf (hf : ∀ d, (f d).content = d.content) (d : SignalDelivery κ) :
    (d.updateIf tenantID id f).content = d.content := by
  unfold SignalDelivery.updateIf
  split
  · exact hf d
  · rfl

theorem SignalDelivery.content_afterAttempt
    (d : SignalDelivery κ) : (d.afterAttempt now attemptCount succeeded).content = d.content := by
  unfold SignalDelivery.afterAttempt
  dsimp only
  split_ifs <;> rfl

theorem mem_claimed (h : d ∈ q.claimed destination limit now) : d ∈ q.deliveries ∧ d.due destination now = true :=
  List.mem_filter.mp ((List.mem_insertionSort _).mp (List.mem_of_mem_take h))

theorem SignalDelivery.state_of_due (h : d.due destination now = true) : d.state = .scheduled := by
  simp only [SignalDelivery.due, Bool.and_eq_true, beq_iff_eq] at h
  exact h.1.1

/-- An item is that of a delivery. -/
structure SignalDeliveryItem.Of (item : SignalDeliveryItem) (d : SignalDelivery κ) : Prop where
  id : item.id = d.id
  tenantID : item.tenantID = d.tenantID
  body : item.body = d.body

theorem populateItem_eq_ok (h : populateItem destination decryptSecret purpose d = .ok item) : item.Of d := by
  unfold populateItem at h
  split at h
  case h_1 => cases h
  case h_2 =>
    split at h
    case h_1 => cases h
    case h_2 =>
      cases h
      exact ⟨rfl, rfl, rfl⟩

/-- A claim changes scheduled deliveries only, and its items are those of scheduled deliveries. -/
theorem Queue.claim_eq_ok (h : q.claim destination decryptSecret workerID limit now = .ok (items, q')) :
    q.Updated (fun d ↦ d.state = .scheduled) q' ∧
      ∀ item ∈ items, ∃ d ∈ q.deliveries, d.state = .scheduled ∧ item.Of d := by
  obtain ⟨_, hpopulate, h⟩ := bind_eq_ok.mp h
  cases h
  constructor
  · refine ⟨_, rfl, fun d ↦ ?_, fun d hd hnot ↦ ?_⟩
    · unfold claimUpdate
      split <;> rfl
    · apply if_neg
      intro hclaimed
      obtain ⟨d', hd', hid⟩ := List.mem_map.mp (List.contains_iff_mem.mp hclaimed)
      obtain ⟨hmem, hdue⟩ := mem_claimed hd'
      obtain rfl : d' = d := Table.eq_of_key_eq hmem hd hid
      exact hnot (SignalDelivery.state_of_due hdue)
  · intro item hitem
    obtain ⟨d, hd, hitem⟩ := exists_of_mapM_eq_ok hpopulate hitem
    obtain ⟨hmem, hdue⟩ := mem_claimed hd
    exact ⟨d, hmem, SignalDelivery.state_of_due hdue, populateItem_eq_ok hitem⟩

theorem Queue.record_eq_ok (h : q.record env item result deliverErr = .ok q') :
    q.Updated (fun d ↦ d.tenantID = item.tenantID ∧ d.id = item.id) q' := by
  obtain ⟨-, h⟩ := seq_eq_ok.mp h
  obtain ⟨_, -, h⟩ := bind_eq_ok.mp h
  cases h
  exact ⟨_, rfl, SignalDelivery.content_updateIf SignalDelivery.content_afterAttempt, fun d _ hnot ↦ if_neg hnot⟩

theorem Queue.retry_eq_ok (h : q.retry now tenantID id = .ok q') :
    q.Updated (fun d ↦ d.tenantID = tenantID ∧ d.id = id) q' := by
  unfold Queue.retry at h
  split at h
  · cases h
    exact ⟨_, rfl, SignalDelivery.content_updateIf fun _ ↦ rfl, fun d _ hnot ↦ if_neg hnot⟩
  · cases h

/-- A retry schedules its delivery. -/
theorem Queue.rescheduled_mem (now : Time) (hd : d ∈ q.deliveries) (hstate : d.state ≠ .succeeded) :
    ∃ q', q.retry now d.tenantID d.id = .ok q' ∧ d.rescheduled now ∈ q'.deliveries := by
  have hany : (q.deliveries.rows.any fun e ↦
      e.tenantID == d.tenantID && e.id == d.id && e.state != .succeeded) = true :=
    List.any_eq_true.mpr ⟨d, hd, by simpa using hstate⟩
  refine ⟨_, if_pos hany, ?_⟩
  have hupdated : d.updateIf d.tenantID d.id (SignalDelivery.rescheduled now) = d.rescheduled now :=
    if_pos ⟨rfl, rfl⟩
  rw [← hupdated]
  exact List.mem_map_of_mem hd

/-- An insertion adds a scheduled delivery, unless there is one with its key. -/
theorem Queue.insert_eq_ok [DecidableEq κ] (h : q.insert env tenantID receiverID key body = .ok q') :
    (q' = q ∧ ∃ d ∈ q.deliveries, d.tenantID = tenantID ∧ d.receiverID = receiverID ∧ d.key = key) ∨
      ∃ d, q'.deliveries.rows = q.deliveries.rows ++ [d] ∧ d.tenantID = tenantID ∧ d.receiverID = receiverID ∧
        d.key = key ∧ d.body = body ∧ d.state = .scheduled ∧ d.id = env.mustID F.deliveryPrefix 0 := by
  simp only [Queue.insert] at h
  split at h
  case isTrue hconflict =>
    cases h
    obtain ⟨d, hd, hindex⟩ := List.any_eq_true.mp hconflict
    simp only [Family.index, Bool.and_eq_true, bne_iff_ne, beq_iff_eq] at hindex
    refine .inl ⟨rfl, d, hd, ?_⟩
    by_cases hunique : F.unique key = true
    · by_cases hunique' : F.unique d.key = true
      · simpa [hunique, hunique'] using hindex
      · simp [hunique, hunique'] at hindex
    · simp [hunique] at hindex
  case isFalse =>
    obtain ⟨_, hinsert, h⟩ := bind_eq_ok.mp h
    cases h
    exact .inr ⟨_, Table.rows_insert? (insertRow_eq_ok.mp hinsert), rfl, rfl, rfl, rfl, rfl, rfl⟩

end Updated

end Webhookery.Signals
