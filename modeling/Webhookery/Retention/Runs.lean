import Webhookery.Audit.Ledger
import Webhookery.Objects.Calls

/-!
# Retention runs

`applyRetentionPolicy` as a program: the items are selected, the objects of raw payloads are deleted one by one
while the transaction is open, and the rows change when it commits. Wherever a run fails, whatever it did not select
stays as it was: rows, records of earlier runs, and objects.
-/

namespace Webhookery.Retention

open Go Relational Store Audit Concurrency Objects

/-- Where an item keeps its bytes; only raw payloads may have an object. -/
def storageOf (db : RetentionDB) (resourceType : RetentionResource) (id : String) : RawPayloadStorage :=
  match resourceType with
  | .rawPayload => (db.storage.find? fun s ↦ s.rawPayloadID == id).getD ⟨id, .postgres, "", ""⟩
  | _ => ⟨id, .postgres, "", ""⟩

/-- The bytes are in an object. -/
def RawPayloadStorage.inObject (s : RawPayloadStorage) : Bool := s.backend == .s3 && s.key != ""

/-- The object of an item is deleted, if it has one. -/
def deleteBody (configured : Bool) (s : RawPayloadStorage) : Program Call World StoreError Unit :=
  if s.inObject then
    if configured then deleteObject .failed s.bucket s.key else .fail .failed
  else .done (.ok ())

/-- One round of the loop over the selected items: the object, and the statements for the row and its evidence. -/
def retainItem (configured : Bool) (s : RawPayloadStorage) : Program Call World StoreError Unit := do
  deleteBody configured s
  statement .failed
  statement .failed

/-- The select of a run, with what the loop reads of each item. -/
def selectExpired (r : ResourceRetention) (env : Env) (policy : RetentionPolicy) :
    Program Call World StoreError (List RawPayloadStorage) :=
  query .failed fun c db ↦
    some ((r.expired c.scan policy (policy.cutoff env.now) db).map fun item ↦ storageOf db policy.resourceType item.id)

/-- `applyRetentionPolicy` from the beginning of its transaction on. -/
def retentionRun (crypto : Crypto) (configured : Bool) (env : Env) (workerID : String) (policy : RetentionPolicy) :
    Program Call World StoreError Unit := do
  -- the transaction begins, and the run is inserted
  statement .failed
  statement .failed
  match policy.resourceType.retention with
  | none => .fail .failed
  | some r =>
    let found ← selectExpired r env policy
    Program.forEach (retainItem configured) found
    -- the run is completed, and the audit event is recorded
    statement .failed
    statement .failed
    commit .failed fun db ↦
      (retentionTx crypto r env workerID policy (found.map RawPayloadStorage.rawPayloadID) db).toOption.map ((), ·)

/-- `applyRetentionPolicy`, in a process that has an object store or not. -/
def applyRetentionPolicy (crypto : Crypto) (configured : Bool) (workerID : String) (policy : RetentionPolicy) :
    Program Call World StoreError Unit :=
  if policy.legalHold then .done (.ok ())
  else do
    let env ← environment
    retentionRun crypto configured env workerID policy

/-! ## What a transaction leaves alone -/

variable {crypto : Crypto} {configured : Bool} {env : Env} {workerID : String} {policy : RetentionPolicy}
  {ids : List String} {r : ResourceRetention} {db db' db'' : RetentionDB} {w w₀ : World}

/-- The policy is about the type of resource, and the row is one of the items. -/
def RetentionPolicy.Names (policy : RetentionPolicy) (resourceType : RetentionResource) (ids : List String)
    (tenantID id : String) : Prop :=
  policy.resourceType = resourceType ∧ tenantID = policy.tenantID ∧ id ∈ ids

/-- Other rows than those of the items are as they were. -/
structure OthersKept (policy : RetentionPolicy) (ids : List String) (db db' : RetentionDB) : Prop where
  rawPayloads : ∀ p ∈ db.store.rawPayloads, ¬policy.Names .rawPayload ids p.tenantID p.id → p ∈ db'.store.rawPayloads
  normalized : ∀ n ∈ db.store.normalized, ¬policy.Names .normalized ids n.tenantID n.id → n ∈ db'.store.normalized
  deliveryPayloads : ∀ p ∈ db.store.deliveryPayloads, ¬policy.Names .deliveryPayload ids p.tenantID p.id →
    p ∈ db'.store.deliveryPayloads
  evidence : ∀ e ∈ db.providerAPIEvidence, ¬policy.Names .providerAPI ids e.tenantID e.id → e ∈ db'.providerAPIEvidence
  events : ∀ e ∈ db.audit.events, ¬policy.Names .auditEvent ids e.tenantID e.id → e ∈ db'.audit.events
  entries : ∀ e ∈ db.audit.entries, ¬policy.Names .auditEvent ids e.tenantID e.auditEventID → e ∈ db'.audit.entries
  runs : ∀ run ∈ db.runs, run ∈ db'.runs
  runItems : ∀ i ∈ db.runItems, i ∈ db'.runItems
  store : db'.store = { db.store with
    rawPayloads := db'.store.rawPayloads, normalized := db'.store.normalized
    deliveryPayloads := db'.store.deliveryPayloads }
  storage : db'.storage = db.storage
  policies : db'.policies = db.policies

theorem OthersKept.refl : OthersKept policy ids db db :=
  ⟨fun _ h _ ↦ h, fun _ h _ ↦ h, fun _ h _ ↦ h, fun _ h _ ↦ h, fun _ h _ ↦ h, fun _ h _ ↦ h, fun _ h ↦ h,
    fun _ h ↦ h, rfl, rfl, rfl⟩

theorem OthersKept.trans (h : OthersKept policy ids db db') (h' : OthersKept policy ids db' db'') :
    OthersKept policy ids db db'' where
  rawPayloads p hp hother := h'.rawPayloads p (h.rawPayloads p hp hother) hother
  normalized n hn hother := h'.normalized n (h.normalized n hn hother) hother
  deliveryPayloads p hp hother := h'.deliveryPayloads p (h.deliveryPayloads p hp hother) hother
  evidence e he hother := h'.evidence e (h.evidence e he hother) hother
  events e he hother := h'.events e (h.events e he hother) hother
  entries e he hother := h'.entries e (h.entries e he hother) hother
  runs run hrun := h'.runs run (h.runs run hrun)
  runItems i hi := h'.runItems i (h.runItems i hi)
  store := h'.store.trans (congrArg (fun s ↦ { s with
    rawPayloads := db''.store.rawPayloads, normalized := db''.store.normalized
    deliveryPayloads := db''.store.deliveryPayloads }) h.store)
  storage := h'.storage.trans h.storage
  policies := h'.policies.trans h.policies

/-- The statement for the row of one item. -/
theorem othersKept_delete {id : String} (now : Time) (hr : policy.resourceType.retention = some r) (hid : id ∈ ids) :
    OthersKept policy ids db (r.delete now policy id db) := by
  have hblank {α : Type} {tenantOf idOf : α → String} {blank : α → α} {x : α} {resourceType : RetentionResource}
      (htype : policy.resourceType = resourceType) (hother : ¬policy.Names resourceType ids (tenantOf x) (idOf x)) :
      blankWhere tenantOf idOf blank policy.tenantID id x = x := by
    unfold blankWhere
    split_ifs with hnamed
    · exact absurd ⟨htype, hnamed.1, hnamed.2 ▸ hid⟩ hother
    · rfl
  cases htype : policy.resourceType <;> rw [htype] at hr <;> cases hr
  case rawPayload =>
    exact { OthersKept.refl with
      rawPayloads := fun p hp hother ↦ List.mem_map.mpr ⟨p, hp, hblank htype hother⟩, store := rfl }
  case normalized =>
    exact { OthersKept.refl with
      normalized := fun n hn hother ↦ List.mem_map.mpr ⟨n, hn, hblank htype hother⟩, store := rfl }
  case deliveryPayload =>
    exact { OthersKept.refl with
      deliveryPayloads := fun p hp hother ↦ List.mem_map.mpr ⟨p, hp, hblank htype hother⟩, store := rfl }
  case providerAPI =>
    exact { OthersKept.refl with
      evidence := fun e he hother ↦ List.mem_map.mpr ⟨e, he, hblank htype hother⟩ }
  case auditEvent =>
    have hretain {e : AuditChainEntry} (hother : ¬policy.Names .auditEvent ids e.tenantID e.auditEventID) :
        e.retain now policy.forAudit id = e := by
      unfold AuditChainEntry.retain
      split_ifs with hnamed
      · exact absurd ⟨htype, hnamed.1, hnamed.2.1 ▸ hid⟩ hother
      · rfl
    exact { OthersKept.refl with
      events := fun e he hother ↦ mem_events_retire.mpr ⟨he, fun h ↦ hother ⟨htype, h.1, h.2 ▸ hid⟩⟩
      entries := fun e he hother ↦ mem_entries_retire.mpr ⟨e, he, hretain hother⟩ }

/-- The loop over the items. -/
theorem othersKept_deleteItems {rest : List String} (hr : policy.resourceType.retention = some r)
    (hids : ∀ id ∈ rest, id ∈ ids) (h : deleteItems r env policy n rest db = .ok db') :
    OthersKept policy ids db db' := by
  induction rest generalizing n db with
  | nil =>
    cases h
    exact .refl
  | cons id rest ih =>
    obtain ⟨hid, hrest⟩ := List.forall_mem_cons.mp hids
    obtain ⟨_, hinsert, h⟩ := bind_eq_ok.mp h
    refine (othersKept_delete env.now hr hid).trans (.trans ?_ (ih hrest h))
    exact { OthersKept.refl with
      runItems := fun i hi ↦ (Table.mem_insert? (insertRow_eq_ok.mp hinsert)).mpr (.inl hi) }

theorem subset_of_insertAuditChainEntry {audit audit' : AuditTables}
    (h : insertAuditChainEntry entry audit = .ok audit') :
    audit'.events = audit.events ∧ ∀ e ∈ audit.entries, e ∈ audit'.entries := by
  unfold insertAuditChainEntry at h
  split at h
  · cases h
    exact ⟨rfl, fun _ he ↦ he⟩
  · obtain ⟨-, _, hinsert, rfl⟩ := require_insertRow_eq_ok.mp h
    exact ⟨rfl, fun _ he ↦ (Table.mem_insert? hinsert).mpr (.inl he)⟩

/-- Recording an event adds to the audit tables. -/
theorem subset_of_recordAuditEventTx {audit audit' : AuditTables}
    (h : recordAuditEventTx crypto env n input audit = .ok (event, audit')) :
    (∀ e ∈ audit.events, e ∈ audit'.events) ∧ ∀ e ∈ audit.entries, e ∈ audit'.entries := by
  obtain ⟨_, hevent, h⟩ := bind_eq_ok.mp h
  obtain ⟨⟨_, _, _⟩, hensure, h⟩ := bind_eq_ok.mp h
  obtain ⟨_, hentry, h⟩ := bind_eq_ok.mp h
  cases h
  have hadded := eventAdded_of_insert hevent
  have hensured := ensured_of_eq_ok hensure
  obtain ⟨hevents, hentries⟩ := subset_of_insertAuditChainEntry hentry
  refine ⟨fun e he ↦ ?_, fun e he ↦ hentries e ?_⟩
  · rw [sameChains_updateHead.events, hevents, hensured.events]
    exact hadded.events.mpr (.inl he)
  · rwa [hensured.entries, hadded.entries]

theorem othersKept_of_retentionTx (hr : policy.resourceType.retention = some r)
    (h : retentionTx crypto r env workerID policy ids db = .ok db') : OthersKept policy ids db db' := by
  obtain ⟨_, hrun, h⟩ := bind_eq_ok.mp h
  obtain ⟨db₂, hitems, h⟩ := bind_eq_ok.mp h
  obtain ⟨_, haudit, h⟩ := bind_eq_ok.mp h
  cases h
  obtain ⟨-, runs, hinsert, rfl⟩ := require_insertRow_eq_ok.mp hrun
  obtain ⟨hevents, hentries⟩ := subset_of_recordAuditEventTx haudit
  have hinserted : OthersKept policy ids db { db with runs } :=
    { OthersKept.refl with runs := fun run hrun ↦ (Table.mem_insert? hinsert).mpr (.inl hrun) }
  have hdeleted := hinserted.trans (othersKept_deleteItems hr (fun _ hid ↦ hid) hitems)
  -- the run that is completed is none of the earlier ones
  have hruns : ∀ run ∈ db.runs, run ∈ (completeRun env policy ids.length db₂).runs := by
    intro run hrun
    refine List.mem_map.mpr ⟨run, hdeleted.runs run hrun, if_neg fun h ↦ ?_⟩
    exact (Table.fits_of_insert? hinsert).1 run hrun h.2
  exact { hdeleted with
    events := fun e he hother ↦ hevents e (hdeleted.events e he hother)
    entries := fun e he hother ↦ hentries e (hdeleted.entries e he hother)
    runs := hruns }

/-! ## What a run leaves alone -/

/-- The objects that items have. -/
def objectKeys (found : List RawPayloadStorage) : List (String × String) :=
  (found.filter RawPayloadStorage.inObject).map fun s ↦ (s.bucket, s.key)

/-- Nothing changed but objects of the items. -/
structure OnlyObjects (found : List RawPayloadStorage) (w w' : World) : Prop where
  db : w'.db = w.db
  objects : ∀ k ∉ objectKeys found, w'.objects.lookup k = w.objects.lookup k

theorem ensures_retainItem {s : RawPayloadStorage} (hs : s ∈ found) (h : OnlyObjects found w₀ w) :
    Program.Ensures (retainItem configured s) w fun _ w' ↦ OnlyObjects found w₀ w' := by
  have hbody : Program.Ensures (deleteBody configured s) w fun _ w' ↦ OnlyObjects found w₀ w' := by
    unfold deleteBody
    split_ifs with hobject
    · refine ensures_objectAction.mono ?_
      rintro _ _ (rfl | rfl)
      · exact h
      · refine ⟨h.db, fun k hk ↦ (Finmap.lookup_erase_ne ?_).trans (h.objects k hk)⟩
        rintro rfl
        exact hk (List.mem_map.mpr ⟨s, List.mem_filter.mpr ⟨hs, hobject⟩, rfl⟩)
    · exact Program.ensures_done h
    · exact Program.ensures_done h
  refine hbody.bind (fun _ _ hw ↦ ?_) fun _ _ hw ↦ hw
  exact ensures_statement (ensures_query.mono fun _ _ hsame ↦ hsame.1 ▸ hw) fun _ ↦ hw

/-- At most a hundred items that the query of a policy finds. -/
structure Selected (policy : RetentionPolicy) (now : Time) (db : RetentionDB) (found : List Item) : Prop where
  count : found.length ≤ 100
  items : ∀ item ∈ found, ∃ r, policy.resourceType.retention = some r ∧ item ∈ r.items db ∧
    r.selects policy (policy.cutoff now) item = true

/-- Nothing changed but the rows and objects of the items. -/
structure ItemsRetained (policy : RetentionPolicy) (found : List Item) (w w' : World) : Prop where
  rows : OthersKept policy (found.map Item.id) w.db w'.db
  objects : ∀ k ∉ objectKeys (found.map fun item ↦ storageOf w.db policy.resourceType item.id),
    w'.objects.lookup k = w.objects.lookup k

theorem rawPayloadID_storageOf (db : RetentionDB) (resourceType : RetentionResource) (id : String) :
    (storageOf db resourceType id).rawPayloadID = id := by
  unfold storageOf
  split
  case h_1 =>
    cases hfind : db.storage.find? fun s ↦ s.rawPayloadID == id with
    | none => rfl
    | some =>
      have hs := List.find?_some hfind
      exact beq_iff_eq.mp hs
  case h_2 => rfl

theorem ensures_retentionRun : Program.Ensures (retentionRun crypto configured env workerID policy) w fun _ w' ↦
    ∃ found, Selected policy env.now w.db found ∧ ItemsRetained policy found w w' := by
  have hnothing : ∃ found, Selected policy env.now w.db found ∧ ItemsRetained policy found w w :=
    ⟨[], ⟨Nat.zero_le _, nofun⟩, .refl, fun _ _ ↦ rfl⟩
  refine ensures_statement (ensures_statement ?_ fun _ ↦ hnothing) fun _ ↦ hnothing
  cases hr : policy.resourceType.retention with
  | none => exact Program.ensures_done hnothing
  | some r =>
    refine ensures_query.bind (fun storages w₁ hquery ↦ ?_) fun _ _ hquery ↦ hquery.1 ▸ hnothing
    obtain ⟨rfl, hfound⟩ := hquery
    obtain ⟨c, hfound⟩ := hfound storages rfl
    obtain rfl := Option.some.inj hfound
    generalize hitems : r.expired c.scan policy (policy.cutoff env.now) w₁.db = found
    have hselected : Selected policy env.now w₁.db found := by
      subst hitems
      refine ⟨List.length_take_le .., fun _ hitem ↦ ⟨r, hr, ?_⟩⟩
      obtain ⟨hmem, hselects⟩ := List.mem_filter.mp ((List.mem_insertionSort _).mp (List.mem_of_mem_take hitem))
      exact ⟨(c.scan.perm _).mem_iff.mp hmem, hselects⟩
    refine Program.Ensures.bind (Program.Ensures.forEach (fun s hs _ hw ↦ ensures_retainItem hs hw) ⟨rfl, fun _ _ ↦ rfl⟩)
      (fun _ w₂ hw ↦ ?_) fun _ _ hw ↦ ⟨found, hselected, hw.db ▸ .refl, hw.objects⟩
    have hloop : ItemsRetained policy found w₁ w₂ := ⟨hw.db ▸ .refl, hw.objects⟩
    refine ensures_statement (ensures_statement ?_ fun _ ↦ ⟨found, hselected, hloop⟩)
      fun _ ↦ ⟨found, hselected, hloop⟩
    refine ensures_commit.mono ?_
    rintro _ _ (rfl | ⟨_, db, htx, rfl⟩)
    · exact ⟨found, hselected, hloop⟩
    · have hids : (found.map fun item ↦ storageOf w₁.db policy.resourceType item.id).map
          RawPayloadStorage.rawPayloadID = found.map Item.id := by
        simp [List.map_map, Function.comp_def, rawPayloadID_storageOf]
      rw [hids, hw.db] at htx
      obtain ⟨_, htx, hdb⟩ := Option.map_eq_some_iff.mp htx
      cases hdb
      exact ⟨found, hselected, othersKept_of_retentionTx hr (toOption_eq_some.mp htx), hw.objects⟩

/-- A policy of thirty days for the raw payloads of a tenant. -/
def monthly : RetentionPolicy := ⟨"ret_1", "ten_1", .rawPayload, "", 30, .active, false, "", "usr_1", 0⟩

def oldPayload (id tenantID : String) : RawPayload :=
  ⟨id, tenantID, none, "", "text/plain", 2, bytesOf "hi", .stored, 0⟩

/-- A payload of each of two tenants, both of the first day and both in an object. -/
def twoTenants : World where
  db :=
    { store := { DB.empty with
        rawPayloads := ⟨[oldPayload "raw_1" "ten_1", oldPayload "raw_2" "ten_2"], by decide, by decide⟩ }
      storage := ⟨[⟨"raw_1", .s3, "b", "k1"⟩, ⟨"raw_2", .s3, "b", "k2"⟩], by decide, by decide⟩
      providerAPIEvidence := .empty
      audit := ⟨.empty, .empty, .empty, .empty⟩
      policies := ⟨[monthly], by decide, by decide⟩
      runs := .empty
      runItems := .empty }
  objects := (Finmap.singleton ("b", "k1") (bytesOf "hi")).insert ("b", "k2") (bytesOf "hi")

/-- A call on the fortieth day that succeeds. -/
def fortiethDay : Call := ⟨⟨40 * (24 * 60 * minute), fun _ _ ↦ "1", false, fun _ _ _ ↦ none⟩, .sequential, .succeeds⟩

end Webhookery.Retention
