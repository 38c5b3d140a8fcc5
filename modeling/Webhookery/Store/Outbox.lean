import Webhookery.Store.Ingest
import Mathlib.Data.List.Sort

/-!
# The outbox

Workers claim pending outbox rows for a lease of sixty seconds and complete them. Claims are fair
between tenants: within a priority class the rows are taken by their rank in their own tenant.
-/

namespace Webhookery.Store

open Go

structure OutboxItem where
  (id tenantID : String)
  kind : OutboxKind
  resourceID : String
  deriving DecidableEq, Repr

def OutboxRow.item (o : OutboxRow) : OutboxItem := ⟨o.id, o.tenantID, o.kind, o.resourceID⟩

/-- The priority class of a kind. -/
def OutboxKind.priority : OutboxKind → Nat
  | .routeEvent => 0
  | .routeRecoveredEvent => 0
  | .replayJob => 1
  | .reconciliationJob => 2

def leaseTime : Duration := 60 * second

/-- An expired lease makes a row pending again. -/
def OutboxRow.released (now : Time) (o : OutboxRow) : OutboxRow :=
  if o.state = .inProgress ∧ o.lockExpiresAt.any (· ≤ now) then
    { o with state := .pending, lockedBy := none, lockExpiresAt := none }
  else o

/-- The lease of the row has expired. -/
def OutboxRow.Expired (now : Time) (o : OutboxRow) : Prop :=
  o.state = .inProgress ∧ o.lockExpiresAt.any (· ≤ now) = true

instance (now : Time) (o : OutboxRow) : Decidable (o.Expired now) := inferInstanceAs (Decidable (_ ∧ _))

theorem released_of_not_expired {now : Time} {o : OutboxRow} (h : ¬o.Expired now) : o.released now = o :=
  if_neg h

def OutboxRow.claimable (now : Time) (o : OutboxRow) : Bool :=
  o.state == .pending && o.availableAt ≤ now

/-- `available_at ASC, id ASC`. -/
def OutboxRow.dueOrder (o o' : OutboxRow) : Ordering :=
  (compare o.availableAt o'.availableAt).then (compare o.id o'.id)

/-- `row_number() OVER (PARTITION BY priority, tenant_id ORDER BY available_at, id)`. -/
def tenantRank (candidates : List OutboxRow) (o : OutboxRow) : Nat :=
  (candidates.filter fun c ↦
    c.kind.priority == o.kind.priority && c.tenantID == o.tenantID && (c.dueOrder o).isLE).length

/-- `ORDER BY priority, tenant_rank, available_at, tenant_id, id`. -/
def claimOrder (candidates : List OutboxRow) (o o' : OutboxRow) : Bool :=
  ((compare o.kind.priority o'.kind.priority).then
    ((compare (tenantRank candidates o) (tenantRank candidates o')).then
      ((compare o.availableAt o'.availableAt).then
        ((compare o.tenantID o'.tenantID).then (compare o.id o'.id))))).isLE

/-- The rows a claim takes. -/
def claimedRows (now : Time) (limit : Nat) (rows : List OutboxRow) : List OutboxRow :=
  let candidates := rows.filter (OutboxRow.claimable now)
  (candidates.insertionSort fun o o' ↦ claimOrder candidates o o' = true).take limit

def OutboxRow.claimedBy (workerID : String) (now : Time) (o : OutboxRow) : OutboxRow :=
  { o with state := .inProgress, lockedBy := some workerID, lockExpiresAt := some (now + leaseTime) }

/-- `UPDATE outbox` that leaves identifiers alone. -/
def updateOutbox (f : OutboxRow → OutboxRow) (hid : ∀ o, (f o).id = o.id) (db : DB) : DB :=
  { db with outbox := db.outbox.modify f hid (fun _ ↦ rfl) }

/-- What one claim does to a row: the release of expired leases, then the claim. -/
def claimUpdate (workerID : String) (now : Time) (claimedIDs : List String) (o : OutboxRow) : OutboxRow :=
  if claimedIDs.contains o.id then (o.released now).claimedBy workerID now else o.released now

theorem claimUpdate_item (workerID : String) (now : Time) (claimedIDs : List String)
    (o : OutboxRow) : (claimUpdate workerID now claimedIDs o).item = o.item := by
  unfold claimUpdate OutboxRow.released OutboxRow.claimedBy
  split <;> split <;> rfl

/-- A claim does not complete a row. -/
theorem claimUpdate_not_completed (h : o.state ≠ .completed) :
    (claimUpdate workerID now claimedIDs o).state ≠ .completed := by
  unfold claimUpdate OutboxRow.released OutboxRow.claimedBy
  split
  · simp
  · split
    · simp
    · exact h

theorem claimUpdate_pending
    (h : (claimUpdate workerID now claimedIDs o).state = .pending) : (o.released now).state = .pending := by
  unfold claimUpdate at h
  split at h
  · cases h
  · exact h

def claimOutbox (workerID : String) (limit : Nat) (env : Env) (db : DB) : Except StoreError (List OutboxItem × DB) :=
  let claimed := claimedRows env.now limit (db.outbox.rows.map (OutboxRow.released env.now))
  .ok (claimed.map OutboxRow.item,
    updateOutbox (claimUpdate workerID env.now (claimed.map OutboxRow.id))
      (fun o ↦ congrArg OutboxItem.id (claimUpdate_item workerID env.now _ o)) db)

def completeOutbox (outboxID : String) (db : DB) : Except StoreError (Unit × DB) :=
  .ok ((), updateOutbox
    (fun o ↦
      if o.id = outboxID then { o with state := .completed, lockedBy := none, lockExpiresAt := none }
      else o)
    (fun o ↦ by split <;> rfl) db)

def enqueueRouteEvent (tenantID eventID : String) (allowRecovered : Bool) (env : Env) (db : DB) :
    Except StoreError (Unit × DB) := do
  let kind := if allowRecovered then .routeRecoveredEvent else .routeEvent
  let db ← insertOutbox env tenantID kind eventID db
  return ((), db)

/-! ## Claims that committed -/

section Claimed

variable {workerID : String} {limit : Nat} {env : Env} {db db' : DB} {items : List OutboxItem}
  {item : OutboxItem}

theorem released_item (now : Time) (o : OutboxRow) : (o.released now).item = o.item := by
  unfold OutboxRow.released
  split <;> rfl

/-- A claimed item is that of a row that was pending once expired leases were released, and is in
progress now for the time of a lease. -/
theorem row_of_claimOutbox (h : claimOutbox workerID limit env db = .ok (items, db')) (hitem : item ∈ items) :
    ∃ o ∈ db.outbox, o.item = item ∧ (o.released env.now).state = .pending ∧
      ∃ o' ∈ db'.outbox, o'.item = item ∧ o'.state = .inProgress ∧
        o'.lockExpiresAt = some (env.now + leaseTime) := by
  cases h
  obtain ⟨_, hclaimed, rfl⟩ := List.mem_map.mp hitem
  have hcandidate := List.mem_filter.mp ((List.mem_insertionSort _).mp (List.mem_of_mem_take hclaimed))
  obtain ⟨o, ho, rfl⟩ := List.mem_map.mp hcandidate.1
  have hpending := hcandidate.2
  simp only [OutboxRow.claimable, Bool.and_eq_true, beq_iff_eq] at hpending
  have hid : (o.released env.now).id = o.id := congrArg OutboxItem.id (released_item env.now o)
  refine ⟨o, ho, (released_item env.now o).symm, hpending.1, _, List.mem_map_of_mem ho,
    (claimUpdate_item workerID env.now _ o).trans (released_item env.now o).symm, ?_⟩
  have hcontains := List.contains_iff_mem.mpr (List.mem_map_of_mem (f := OutboxRow.id) hclaimed)
  rw [hid] at hcontains
  unfold claimUpdate
  rw [if_pos hcontains]
  exact ⟨rfl, rfl⟩

/-- A claimed item is the item of a row of the outbox. -/
theorem item_of_claimOutbox (h : claimOutbox workerID limit env db = .ok (items, db'))
    (hitem : item ∈ items) : ∃ o ∈ db.outbox, o.item = item := by
  obtain ⟨o, ho, hrow, -⟩ := row_of_claimOutbox h hitem
  exact ⟨o, ho, hrow⟩

/-- Every row is claimed at most once. -/
theorem countP_claimOutbox_le (h : claimOutbox workerID limit env db = .ok (items, db'))
    (p : OutboxItem → Bool) : items.countP p ≤ db.outbox.rows.countP (fun o ↦ p o.item) := by
  cases h
  rw [List.countP_map, claimedRows]
  refine ((List.take_sublist _ _).countP_le).trans ?_
  rw [(List.perm_insertionSort _ _).countP_eq]
  refine (List.filter_sublist.countP_le).trans ?_
  rw [List.countP_map]
  apply le_of_eq
  congr 1
  funext o
  exact congrArg p (released_item env.now o)

end Claimed

end Webhookery.Store
