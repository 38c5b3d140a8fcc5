import Webhookery.Delivery.Claims
import Webhookery.Relational.Ranked

/-!
# Fair claims

Both claims of a worker take rows from a ranked queue: live work comes before replays and
reconciliation, and the tenants take turns within a class. A claim of outbox rows always takes the first
eligible rows. A claim of deliveries does so when the material of every selected delivery is available,
and takes none of them otherwise.
-/

namespace Webhookery.Delivery

open Go Store App Relational Concurrency

variable {env : Env} {db : DB}

/-! ## The queues -/

/-- Routing before replays before reconciliation. -/
def outboxQueue : Queue OutboxRow Nat String Time String where
  cls o := o.kind.priority
  tenant := OutboxRow.tenantID
  due := OutboxRow.availableAt
  id := OutboxRow.id

/-- Live deliveries before replays. -/
def deliveryQueue : Queue Delivery Bool String Time String where
  cls := Delivery.isReplay
  tenant := Delivery.tenantID
  due := Delivery.nextAttemptAt
  id := Delivery.id

/-- The pending rows whose time has come, once expired leases were released. -/
def eligibleRows (now : Time) (db : DB) : List OutboxRow :=
  (db.outbox.rows.map (OutboxRow.released now)).filter (OutboxRow.claimable now)

/-- The deliveries that are due, once expired leases were released. -/
def eligibleDeliveries (now : Time) (db : DB) : List Delivery :=
  (db.deliveries.rows.map (Delivery.released now)).filter (Delivery.due db now)

theorem nodup_eligibleRows (now : Time) (db : DB) : ((eligibleRows now db).map OutboxRow.id).Nodup := by
  have hid : (db.outbox.rows.map (OutboxRow.released now)).map OutboxRow.id =
      db.outbox.rows.map OutboxRow.id := by
    rw [List.map_map]
    exact List.map_congr_left fun o _ ↦ congrArg OutboxItem.id (released_item now o)
  refine List.Nodup.sublist (List.filter_sublist.map _) ?_
  rw [hid]
  exact db.outbox.key_nodup

theorem nodup_eligibleDeliveries (now : Time) (db : DB) : ((eligibleDeliveries now db).map Delivery.id).Nodup := by
  have hid : (db.deliveries.rows.map (Delivery.released now)).map Delivery.id =
      db.deliveries.rows.map Delivery.id := by
    rw [List.map_map]
    refine List.map_congr_left fun d _ ↦ ?_
    simp only [Function.comp_apply, Delivery.released]
    split <;> rfl
  refine List.Nodup.sublist (List.filter_sublist.map _) ?_
  rw [hid]
  exact db.deliveries.key_nodup

/-! ## Claims -/

/-- The items of a batch are those of the selected deliveries, in their order. -/
theorem ids_of_populate {claimed : List Delivery} {items : List DeliveryItem}
    (h : claimed.mapM (populateDeliveryItem env db) = .ok items) :
    items.map DeliveryItem.id = claimed.map Delivery.id := by
  induction claimed generalizing items with
  | nil =>
    cases h
    rfl
  | cons _ _ ih =>
    rw [List.mapM_cons] at h
    obtain ⟨_, hitem, h⟩ := bind_eq_ok.mp h
    obtain ⟨_, hrest, h⟩ := bind_eq_ok.mp h
    cases h
    rw [List.map_cons, List.map_cons, (populateDeliveryItem_eq_ok hitem).1, ih hrest]

/-- A claim of outbox rows takes the first eligible rows. A claim of deliveries takes the first due
deliveries exactly when the material of all of them is available. -/
theorem claims_fair_iff (workerID : String) (limit : Nat) (env : Env) (db : DB) :
    (∃ taken db', claimOutbox workerID limit env db = .ok (taken.map OutboxRow.item, db') ∧
      outboxQueue.Fair (eligibleRows env.now db) taken limit ∧
      db'.outbox.rows = db.outbox.rows.map (claimUpdate workerID env.now (taken.map OutboxRow.id))) ∧
    ((∃ taken items db', claimDueDeliveries workerID limit env db = .ok (items, db') ∧
      items.map DeliveryItem.id = taken.map Delivery.id ∧
      deliveryQueue.Fair (eligibleDeliveries env.now db) taken limit ∧
      db'.deliveries.rows =
        db.deliveries.rows.map (deliveryClaimUpdate workerID env.now (taken.map Delivery.id))) ↔
      ∀ d ∈ selectedDeliveries env.now limit db, Available env db d) := by
  refine ⟨⟨_, _, rfl, Queue.fair_first (nodup_eligibleRows env.now db) limit, rfl⟩, ?_, fun h ↦ ?_⟩
  · rintro ⟨_, _, _, h, -⟩ d hd
    obtain ⟨items', hpopulate, -⟩ := bind_eq_ok.mp h
    exact exists_populateDeliveryItem_iff.mp (exists_mapM_iff.mp ⟨items', hpopulate⟩ d hd)
  · obtain ⟨items, hpopulate⟩ := exists_mapM_iff.mpr fun d hd ↦
      exists_populateDeliveryItem_iff.mpr (h d hd)
    exact ⟨_, items, _, bind_eq_ok.mpr ⟨items, hpopulate, rfl⟩, ids_of_populate hpopulate,
      Queue.fair_first (nodup_eligibleDeliveries env.now db) limit, rfl⟩

/-- Two deliveries of the shop are due, but the payload of the first one is gone and none is claimed. -/
theorem gone_payload_claims_nothing :
    App.system.Run NoDeliveries retainedRun.1 retainedRun.2 ∧
      (eligibleDeliveries minute retainedRun.2.state).length = 2 ∧
      ∀ items db', claimDueDeliveries "worker" 2 { shopEnv 60 with now := minute } retainedRun.2.state ≠
        .ok (items, db') := by
  have hfails : (claimDueDeliveries "worker" 2 { shopEnv 60 with now := minute }
      retainedRun.2.state).isOk = false := by decide +kernel
  refine ⟨run_runScript noDeliveries_shopSigning, by decide +kernel, ?_⟩
  intro items db' h
  rw [h] at hfails
  cases hfails

end Webhookery.Delivery
