import Webhookery.App.Operations

/-!
# Steps outside of replays and deliveries

Most transactions leave replay jobs, deliveries and what was recorded about them alone, and only add
to the events and to the outbox, to the latter no replay jobs. The captures, the quarantine decisions, the
configuration and the whole of reconciliation take such steps only.
-/

namespace Webhookery.Machine

open Go Store App Relational Concurrency Provider
open Program (Changes)

/-- The tables of replays and deliveries are untouched, reconciliation jobs and retry policies stay in the
store, and endpoints keep their circuits. -/
structure Frame (db db' : DB) : Prop where
  replayJobs : db'.replayJobs = db.replayJobs
  replayItems : db'.replayItems = db.replayItems
  replayReceipts : db'.replayReceipts = db.replayReceipts
  deliveries : db'.deliveries = db.deliveries
  deliveryPayloads : db'.deliveryPayloads = db.deliveryPayloads
  attempts : db'.attempts = db.attempts
  sent : db'.sent = db.sent
  deadLetters : db'.deadLetters = db.deadLetters
  reconciliationJobs : db'.reconciliationJobs.rows.map (fun j ↦ (j.tenantID, j.id)) =
    db.reconciliationJobs.rows.map fun j ↦ (j.tenantID, j.id)
  retryPolicies : PoliciesKept db db'
  endpoints : CircuitsKept db db'

structure Outside (db db' : DB) : Prop extends Frame db db' where
  events : ∃ rows, db'.events.rows = db.events.rows ++ rows
  outbox : ∃ rows, db'.outbox.rows = db.outbox.rows ++ rows ∧
    ∀ o ∈ rows, o.kind ≠ .replayJob ∧ o.state = .pending

variable {db db' : DB} {env : Env}

theorem Frame.outside (h : Frame db db') (hevents : db'.events = db.events)
    (houtbox : db'.outbox = db.outbox) : Outside db db' :=
  { h with events := ⟨[], by simp [hevents]⟩, outbox := ⟨[], by simp [houtbox]⟩ }

theorem Outside.refl (db : DB) : Outside db db :=
  Frame.outside ⟨rfl, rfl, rfl, rfl, rfl, rfl, rfl, rfl, rfl, .of_eq rfl, .of_eq rfl⟩ rfl rfl

/-! ## Transactions -/

theorem outside_of_committed {w : CaptureWrites} {eventID : String} {status : DedupeStatus}
    (h : w.Committed eventID status db db')
    (houtbox : ∀ o ∈ w.outbox, o.kind ≠ .replayJob ∧ o.state = .pending) : Outside db db' := by
  have hframe : Frame db db' := by
    rw [h.frame]
    exact ⟨rfl, rfl, rfl, rfl, rfl, rfl, rfl, rfl, rfl, .of_eq rfl, .of_eq rfl⟩
  cases h.resolves with
  | new _ _ _ events _ outbox =>
    exact { hframe with events := ⟨_, events⟩, outbox := ⟨w.outbox, outbox, houtbox⟩ }
  | duplicate _ _ _ _ events _ outbox => exact hframe.outside events outbox

theorem outside_captureInbound {input : CaptureInboundInput} {result : CaptureInboundResult}
    (h : captureInbound env input db = .ok (result, db')) : Outside db db' := by
  apply outside_of_committed (captureInbound_committed h).1
  intro o ho
  obtain rfl := List.mem_singleton.mp ho
  exact ⟨nofun, rfl⟩

theorem outside_insertOutbox
    (hkind : kind ≠ .replayJob) (h : insertOutbox env tenantID kind resourceID db = .ok db') :
    Outside db db' := by
  obtain ⟨_, ht, rfl⟩ := insertOutbox_eq_ok.mp h
  refine ⟨⟨rfl, rfl, rfl, rfl, rfl, rfl, rfl, rfl, rfl, .of_eq rfl, .of_eq rfl⟩, ⟨[], by simp⟩, _, Table.rows_insert? ht, fun o ho ↦ ?_⟩
  obtain rfl := List.mem_singleton.mp ho
  exact ⟨hkind, rfl⟩

theorem outside_enqueueRouteEvent (h : enqueueRouteEvent tenantID eventID allowRecovered env db = .ok ((), db')) :
    Outside db db' := by
  obtain ⟨_, hinsert, h⟩ := bind_eq_ok.mp h
  cases h
  apply outside_insertOutbox _ hinsert
  split <;> nofun

theorem outside_of_policies (h : PoliciesKept db db')
    (hframe : db' = { db with retryPolicies := db'.retryPolicies }) : Outside db db' := by
  refine Frame.outside ⟨?_, ?_, ?_, ?_, ?_, ?_, ?_, ?_, ?_, h, .of_eq ?_⟩ ?_ ?_ <;> rw [hframe]

theorem outside_of_endpoints (h : CircuitsKept db db')
    (hframe : db' = { db with endpoints := db'.endpoints }) : Outside db db' := by
  refine Frame.outside ⟨?_, ?_, ?_, ?_, ?_, ?_, ?_, ?_, ?_, .of_eq ?_, h⟩ ?_ ?_ <;> rw [hframe]

/-! ## Programs -/

section Programs

variable {α : Type} {change : DB → DB → Prop}

theorem changes_transaction {t : Env → DB → Except StoreError (α × DB)} (hrefl : ∀ db, change db db)
    (h : ∀ env db a db', t env db = .ok (a, db') → change db db') :
    Changes change (transaction t) := by
  apply Changes.atomic hrefl
  intro env db a db' hcommit
  split at hcommit
  · cases hcommit
  · exact h env db a db' hcommit

theorem changes_query (q : DB → Except StoreError α) (hrefl : ∀ db, change db db) : Changes change (query q) := by
  apply changes_transaction hrefl
  intro env db a db' hcommit
  obtain ⟨_, -, hpair⟩ := map_eq_ok.mp hcommit
  cases hpair
  exact hrefl db

theorem changes_clockNow (hrefl : ∀ db, change db db) : Changes change clockNow := by
  apply Changes.atomic hrefl
  intro env db now db' hread
  cases hread
  exact hrefl db

section Reconciliation

variable {adapter : ReconcileAdapter} {job : ReconciliationJob} {conn : ProviderConnection} {object : ProviderObject}
  {crypto : Crypto} {n : Nat}

theorem changes_recordEvidence (hrefl : ∀ db, change db db) (last : String) (calls : Nat) :
    Changes change (recordEvidence last calls) := by
  have hone : Changes change recordProviderAPIEvidence := by
    apply changes_transaction hrefl
    intro env db a db' h
    cases h
    exact hrefl db
  induction calls generalizing last with
  | zero => trivial
  | succ _ ih => exact hone.bind fun id ↦ ih id

/-- What captures of recovered objects and the routing of their events change. -/
theorem changes_captureRecoveredProviderEvent (hrefl : ∀ db, change db db)
    (hcaptured : ∀ env input source now db eventID db',
      captureRecovered crypto env input source now db = .ok (eventID, db') → change db db')
    (hrouted : ∀ tenantID eventID env db db', enqueueRouteEvent tenantID eventID true env db = .ok ((), db') → change db db')
    (input : RecoveredCapture) : Changes change (captureRecoveredProviderEvent crypto input) := by
  refine (changes_query _ hrefl).bind fun source ↦ (changes_clockNow hrefl).bind fun now ↦ ?_
  refine (changes_transaction hrefl fun env db _ db' h ↦ hcaptured _ _ _ _ _ _ _ h).bind fun eventID ↦ ?_
  refine Changes.bind ?_ fun _ ↦ trivial
  exact .ite (changes_transaction hrefl fun env db _ db' h ↦ hrouted _ _ _ _ _ h) trivial

theorem changes_recoverObject (hrefl : ∀ db, change db db)
    (hevent : ∀ input, Changes change (captureRecoveredProviderEvent crypto input)) :
    Changes change (recoverObject crypto adapter job conn n object localEventID) := by
  have hcapture (object : ProviderObject) (evidenceID : String) :
      Changes change (captureMissing crypto job conn object evidenceID) := by
    refine .ite ((hevent _).attempt.bind fun captured ↦ ?_) trivial
    cases captured <;> trivial
  refine .ite trivial (.ite ?_ trivial)
  refine (changes_recordEvidence hrefl "" _).bind fun evidenceID ↦ ?_
  split
  · exact hcapture _ evidenceID
  · trivial
  · trivial

theorem changes_redeliver (hrefl : ∀ db, change db db) : Changes change (redeliver adapter job n object progress) := by
  refine .ite ((changes_recordEvidence hrefl _ _).bind fun _ ↦ ?_) trivial
  split <;> trivial

end Reconciliation

end Programs

variable {crypto : Crypto} {tenantID jobID : String} {α : Type}

theorem outside_query (q : DB → Except StoreError α) : Changes Outside (query q) :=
  changes_query q .refl

theorem outside_transaction {t : Env → DB → Except StoreError (α × DB)}
    (h : ∀ env db a db', t env db = .ok (a, db') → Outside db db') :
    Changes Outside (transaction t) :=
  changes_transaction .refl h

theorem outside_done (r : Except StoreError α) : Changes Outside (.done r : Work α) := trivial

theorem outside_captureRecoveredProviderEvent : Changes Outside (captureRecoveredProviderEvent crypto input) :=
  changes_captureRecoveredProviderEvent .refl (fun _ _ _ _ _ _ _ h ↦ outside_of_committed (captureRecovered_committed h).choose_spec nofun)
    (fun _ _ _ _ _ h ↦ outside_enqueueRouteEvent h) input

/-! ### Quarantine and the configuration of routing -/

section Routing

variable {tenantID entryID actorID reason : String}

theorem outside_approveQuarantine {route : Bool} : Changes Outside
    (transaction fun env db ↦ (approveQuarantine env tenantID entryID reason route db).map ((), ·)) := by
  refine outside_transaction fun env db _ db' h ↦ ?_
  obtain ⟨_, happrove, ⟨⟩⟩ := map_eq_ok.mp h
  obtain ⟨_, -, -, -, -, houtbox, hframe⟩ := approveQuarantine_eq_ok happrove
  refine ⟨?_, ⟨[], ?_⟩, _, houtbox, fun o ho ↦ ?_⟩
  · rw [hframe]
    exact ⟨rfl, rfl, rfl, rfl, rfl, rfl, rfl, rfl, rfl, .of_eq rfl, .of_eq rfl⟩
  · rw [hframe, List.append_nil]
  · split at ho
    · obtain rfl := List.mem_singleton.mp ho
      exact ⟨nofun, rfl⟩
    · cases ho

theorem outside_rejectQuarantine : Changes Outside
    (transaction fun _ db ↦ (rejectQuarantine tenantID entryID reason db).map ((), ·)) := by
  refine outside_transaction fun env db _ db' h ↦ ?_
  obtain ⟨_, hreject, ⟨⟩⟩ := map_eq_ok.mp h
  obtain ⟨_, -, hreject⟩ := bind_eq_ok.mp hreject
  obtain ⟨⟨_, _⟩, hdecide, ⟨⟩⟩ := bind_eq_ok.mp hreject
  obtain ⟨_, -, -, -, -, -, hframe⟩ := decideQuarantine_eq_ok hdecide
  rw [hframe]
  exact Frame.outside ⟨rfl, rfl, rfl, rfl, rfl, rfl, rfl, rfl, rfl, .of_eq rfl, .of_eq rfl⟩ rfl rfl

theorem outside_published {t : Env → DB → Except StoreError (α × DB)}
    (h : ∀ {env db a db'}, t env db = .ok (a, db') → db' = { db with
      subscriptions := db'.subscriptions, subscriptionVersions := db'.subscriptionVersions
      routes := db'.routes, routeVersions := db'.routeVersions }) :
    Changes Outside (transaction t) := by
  refine outside_transaction fun env db a db' hcommit ↦ ?_
  rw [h hcommit]
  exact Frame.outside ⟨rfl, rfl, rfl, rfl, rfl, rfl, rfl, rfl, rfl, .of_eq rfl, .of_eq rfl⟩ rfl rfl

theorem outside_createSubscription {n : NewSubscription} : Changes Outside (transaction (createSubscription n)) := by
  refine outside_published fun h ↦ ?_
  obtain ⟨_, hpublished, -⟩ := createSubscription_eq_ok h
  rw [hpublished.frame]

theorem outside_updateSubscription {subscriptionID : String} {req : UpdateSubscriptionRequest} :
    Changes Outside (transaction (updateSubscription tenantID subscriptionID actorID req)) := by
  refine outside_published fun h ↦ ?_
  obtain ⟨_, -, _, -, hpublished⟩ := updateSubscription_eq_ok h
  rw [hpublished.frame]

theorem outside_createRoute {n : NewRoute} : Changes Outside (transaction (createRoute n)) := by
  refine outside_published fun h ↦ ?_
  obtain ⟨_, hpublished, -⟩ := createRoute_eq_ok h
  rw [hpublished.frame]

theorem outside_updateRoute {routeID : String} {req : UpdateRouteRequest} :
    Changes Outside (transaction (updateRoute tenantID routeID actorID req)) := by
  refine outside_published fun h ↦ ?_
  obtain ⟨_, -, _, -, hpublished⟩ := updateRoute_eq_ok h
  rw [hpublished.frame]

theorem outside_activateRoute {routeID : String} :
    Changes Outside (transaction (activateRoute tenantID routeID actorID)) := by
  refine outside_published fun h ↦ ?_
  obtain ⟨_, -, hpublished⟩ := activateRoute_eq_ok h
  rw [hpublished.frame]

end Routing

/-! ### Retry policies -/

section Policies

variable {actorID retryPolicyID : String}

theorem outside_controlCreateRetryPolicy {req : CreateRetryPolicyRequest} :
    Changes Outside (controlCreateRetryPolicy tenantID actorID req) := by
  unfold controlCreateRetryPolicy
  cases haccepted : req.accepted with
  | error => exact outside_done _
  | ok =>
    refine outside_transaction fun env db p db' h ↦ ?_
    exact outside_of_policies (policiesKept_of_create (valid_of_accepted haccepted) h)
      (frame_of_insertRetryPolicy h)

theorem outside_controlUpdateRetryPolicy {req : UpdateRetryPolicyRequest} :
    Changes Outside (controlUpdateRetryPolicy tenantID retryPolicyID actorID req) := by
  unfold controlUpdateRetryPolicy
  cases haccepted : req.accepted retryPolicyID with
  | error => exact outside_done _
  | ok =>
    refine outside_transaction fun env db p db' h ↦ ?_
    refine outside_of_policies (policiesKept_of_update haccepted h) ?_
    obtain ⟨_, -, h⟩ := bind_eq_ok.mp h
    exact frame_of_insertRetryPolicy (seq_eq_ok.mp h).2

theorem outside_controlDeleteRetryPolicy {reason : String} :
    Changes Outside (controlDeleteRetryPolicy tenantID retryPolicyID reason) := by
  unfold controlDeleteRetryPolicy
  cases acceptedDeletion retryPolicyID reason with
  | error => exact outside_done _
  | ok =>
    refine outside_transaction fun env db p db' h ↦ outside_of_policies (policiesKept_of_delete h) ?_
    obtain ⟨_, -, h⟩ := bind_eq_ok.mp h
    cases h
    rfl

theorem outside_controlUpdateEndpoint {validate : String → Option String} {endpointID : String}
    {req : UpdateEndpointRequest} :
    Changes Outside (controlUpdateEndpoint validate tenantID endpointID req) := by
  unfold controlUpdateEndpoint
  cases req.accepted validate endpointID with
  | error => exact outside_done _
  | ok =>
    refine outside_transaction fun env db e db' h ↦ ?_
    exact outside_of_endpoints (updateEndpoint_eq_ok h).1 (updateEndpoint_eq_ok h).2

theorem outside_controlDeleteEndpoint {endpointID reason : String} :
    Changes Outside (controlDeleteEndpoint tenantID endpointID reason) := by
  unfold controlDeleteEndpoint
  cases requireEndpointAndReason endpointID reason with
  | error => exact outside_done _
  | ok =>
    refine outside_transaction fun env db e db' h ↦ ?_
    exact outside_of_endpoints (updateEndpoint_eq_ok h).1 (updateEndpoint_eq_ok h).2

end Policies

/-! ### Reconciliation -/

theorem outside_insertReconciliationItem {item : ReconciliationItem} :
    Changes Outside (transaction (insertReconciliationItem item)) := by
  apply outside_transaction
  intro env db id db' h
  obtain ⟨_, -, h⟩ := bind_eq_ok.mp h
  obtain ⟨_, -, h⟩ := bind_eq_ok.mp h
  cases h
  exact Frame.outside ⟨rfl, rfl, rfl, rfl, rfl, rfl, rfl, rfl, rfl, .of_eq rfl, .of_eq rfl⟩ rfl rfl

variable {adapter : ReconcileAdapter} {job : ReconciliationJob} {conn : ProviderConnection} {object : ProviderObject}
  {req : ReplayRequest}

theorem outside_reconcileProviderObject {n : Nat} :
    Changes Outside (reconcileProviderObject crypto adapter job conn n object) := by
  refine (outside_query _).bind fun _ ↦ (changes_recoverObject .refl fun _ ↦ outside_captureRecoveredProviderEvent).bind
    fun _ ↦ (changes_redeliver .refl).bind fun _ ↦ ?_
  refine outside_insertReconciliationItem.bind fun _ ↦ ?_
  refine .ite (outside_done _) (outside_transaction fun env db _ db' h ↦ ?_)
  cases h
  exact .refl db

/-- Updates of a reconciliation job. -/
theorem outside_updateReconciliationJobs {p : ReconciliationJob → Bool}
    {f : DB → ReconciliationJob → ReconciliationJob} {hid : ∀ u j, (f u j).id = j.id}
    {a : DB → α} (htenant : ∀ u j, (f u j).tenantID = j.tenantID) : Changes Outside
      (transaction fun _ u ↦ .ok (a u, updateReconciliationJobs p (f u) (hid u) u)) := by
  apply outside_transaction
  intro env db b db' h
  cases h
  refine Frame.outside ⟨rfl, rfl, rfl, rfl, rfl, rfl, rfl, rfl, ?_, .of_eq rfl, .of_eq rfl⟩ rfl rfl
  apply List.map_map.trans
  apply List.map_congr_left
  intro j _
  simp only [Function.comp_apply]
  split
  · rw [hid, htenant]
  · rfl

theorem outside_scanJob : Changes Outside (scanJob crypto adapter tenantID jobID job conn) := by
  have hfail (text : String) :
      Changes Outside (transaction fun _ ↦ failReconciliationJob tenantID jobID text) :=
    outside_updateReconciliationJobs fun _ _ ↦ rfl
  refine (changes_recordEvidence .refl "" _).bind fun _ ↦ ?_
  split
  · exact hfail _
  · refine (Changes.forEach (fun _ ↦ outside_reconcileProviderObject) _).attempt.bind fun r ↦ ?_
    cases r with
    | error => exact hfail _
    | ok =>
      refine Changes.bind ?_ fun _ ↦ outside_updateReconciliationJobs fun _ _ ↦ rfl
      exact .ite (outside_done _) (outside_updateReconciliationJobs fun _ _ ↦ rfl)

theorem outside_runReconciliationJob {registry : ReconcileRegistry} :
    Changes Outside (runReconciliationJob crypto registry tenantID jobID) := by
  have hwork : Changes Outside (getReconciliationWork tenantID jobID) :=
    (outside_query _).bind fun _ ↦ (outside_query _).bind fun _ ↦ outside_done _
  refine hwork.bind fun w ↦ .ite (outside_done _) ?_
  split
  · exact outside_updateReconciliationJobs fun _ _ ↦ rfl
  · have hstart : Changes Outside (transaction fun _ ↦ startReconciliationJob tenantID jobID) :=
      outside_updateReconciliationJobs fun _ _ ↦ rfl
    refine hstart.bind fun _ ↦ .ite (.ite outside_scanJob ?_) (outside_done _)
    exact outside_insertReconciliationItem.bind fun _ ↦ outside_updateReconciliationJobs fun _ _ ↦ rfl

/-! ### Reads before a replay is created -/

theorem outside_replayApprovalPolicyForReplay : Changes Outside (replayApprovalPolicyForReplay tenantID req) := by
  have hscope (scope : PolicyScope) (scopeIDs : List String) :
      Changes Outside (scopePolicy tenantID scope scopeIDs) :=
    .ite (outside_done _) (outside_query _)
  have hdelivery : Changes Outside (deliveryScope tenantID req) := by
    refine .ite (outside_done _) ((outside_query _).bind fun found ↦ ?_)
    cases found <;> exact outside_done _
  have hevent (sourceID : String) : Changes Outside (eventScope tenantID req sourceID) := by
    refine .ite (outside_done _) ((outside_query _).bind fun found ↦ ?_)
    refine (Changes.ite (outside_done _) (outside_query _)).bind fun _ ↦ ?_
    exact (Changes.ite (outside_query _) (outside_done _)).bind fun _ ↦ outside_done _
  refine hdelivery.bind fun _ ↦ (hevent _).bind fun _ ↦ (hscope _ _).bind fun _ ↦ ?_
  refine .ite (outside_done _) ((hscope _ _).bind fun _ ↦ ?_)
  exact .ite (outside_done _) (hscope _ _)

theorem outside_dryRunReplay : Changes Outside (dryRunReplay tenantID req) := by
  have hevent : Changes Outside (dryRunEvent tenantID req) := by
    refine .ite (outside_done _) (.ite (outside_query _) ((outside_query _).bind fun _ ↦ ?_))
    exact .ite (outside_query _) (outside_done _)
  have hdelivery : Changes Outside (dryRunDelivery tenantID req) :=
    .ite (outside_done _) (outside_query _)
  exact hevent.bind fun _ ↦ hdelivery.bind fun _ ↦ outside_done _

theorem outside_requireFutureExpiry : Changes Outside (requireFutureExpiry req) := by
  refine .ite ((changes_clockNow .refl).bind fun _ ↦ ?_) (outside_done _)
  exact .ite (outside_done _) (outside_done _)

end Webhookery.Machine
