import Webhookery.Store.Configuration
import Webhookery.Delivery.Authorized

/-!
# Fanout of a verified event

One uninterrupted run of the fanout service for a routed event creates exactly one delivery for each
subscription and route that the event is for. Each names the version under which it was created.
-/

namespace Webhookery.Delivery

open Store App Relational Concurrency Provider

variable {db db' : DB} {codec : PayloadCodec} {event : Event} {opts : DeliveryFanoutOptions} {s : Subscription}

/-! ## What a delivery keeps of its target -/

/-- The configuration a delivery was created under. -/
structure Link where
  (endpointID routeID routeVersionID subscriptionID subscriptionVersionID : String)
  transformationVersionID : String

def ofDelivery (d : Store.Delivery) : Link :=
  ⟨d.endpointID, d.routeID, d.routeVersionID, d.subscriptionID, d.subscriptionVersionID,
    d.transformationVersionID⟩

def ofTarget (t : DeliveryFanoutTarget) : Link :=
  ⟨t.endpointID, t.routeID, t.routeVersionID, t.subscriptionID, t.subscriptionVersionID,
    t.transformationVersionID⟩

def ofSubscription (s : Subscription) : Link :=
  ⟨s.endpointID, "", "", s.id, s.activeVersionID, s.transformationVersionID⟩

def ofRoute (r : Route) : Link :=
  ⟨r.endpointID, r.id, r.activeVersionID, "", "", r.transformationVersionID⟩

/-! ## The targets -/

/-- An endpoint that exists is joined once. -/
theorem joinedEndpoints_eq_singleton (h : EndpointExists tenantID endpointID db) :
    ∃ e, joinedEndpoints tenantID endpointID db = [e] := by
  obtain ⟨e, he, htenant, hid⟩ := h
  refine ⟨e, Table.filter_eq_singleton he (by simp [htenant, hid]) fun x hx hmatch ↦ ?_⟩
  simp only [Bool.and_eq_true, beq_iff_eq] at hmatch
  exact Table.eq_of_key_eq hx he (hmatch.2.trans hid.symm)

/-- A join of rows that each have one endpoint. -/
theorem map_flatMap_joinedEndpoints {α : Type} {rows : List α} {tenantID endpointID : α → String}
    {target : α → Endpoint → DeliveryFanoutTarget} {link : α → Link}
    (hexists : ∀ x ∈ rows, EndpointExists (tenantID x) (endpointID x) db)
    (hlink : ∀ x e, ofTarget (target x e) = link x) :
    (rows.flatMap fun x ↦ (joinedEndpoints (tenantID x) (endpointID x) db).map (target x)).map ofTarget =
      rows.map link := by
  induction rows with
  | nil => rfl
  | cons x rows ih =>
    obtain ⟨e, he⟩ := joinedEndpoints_eq_singleton (hexists x List.mem_cons_self)
    rw [List.flatMap_cons, he, List.map_append, ih fun y hy ↦ hexists y (List.mem_cons_of_mem x hy)]
    exact congrArg (· :: rows.map link) (hlink x e)

theorem map_listSubscriptionTargets (hdb : Configured db) (tenantID eventType : String) :
    (listSubscriptionTargets tenantID eventType db).map ofTarget =
      (db.subscriptions.rows.filter (Subscription.matches tenantID eventType)).map ofSubscription :=
  map_flatMap_joinedEndpoints (fun s hs ↦ (hdb.subscription s (List.mem_filter.mp hs).1).2)
    fun _ _ ↦ rfl

/-- The routes an event is for, by priority. -/
def routesByPriority (tenantID sourceID eventType : String) (db : DB) : List Route :=
  (db.routes.rows.filter (Route.matches tenantID sourceID eventType)).insertionSort
    (fun r r' ↦ r.priority ≤ r'.priority)

theorem perm_routesByPriority (tenantID sourceID eventType : String) :
    (routesByPriority tenantID sourceID eventType db).Perm
      (db.routes.rows.filter (Route.matches tenantID sourceID eventType)) :=
  List.perm_insertionSort _ _

theorem map_listRouteTargets (hdb : Configured db) (tenantID sourceID eventType : String) :
    (listRouteTargets tenantID sourceID eventType db).map ofTarget =
      (routesByPriority tenantID sourceID eventType db).map ofRoute := by
  refine map_flatMap_joinedEndpoints (fun r hr ↦ ?_) fun _ _ ↦ rfl
  have hmem := (perm_routesByPriority tenantID sourceID eventType).mem_iff.mp hr
  exact (hdb.route r (List.mem_filter.mp hmem).1).2

/-! ## The run -/

/-- The deliveries that one run added for an event, with their links. -/
structure Added (tenantID eventID : String) (links : List Link) (created : List Store.Delivery)
    (db db' : DB) : Prop where
  rows : db'.deliveries.rows = db.deliveries.rows ++ created
  links : created.map ofDelivery = links
  event : ∀ d ∈ created, d.tenantID = tenantID ∧ d.eventID = eventID

theorem added_of_createDeliveryFromTarget {tenantID eventID : String} {target : DeliveryFanoutTarget}
    {index : Nat} {result : DeliverySnapshotResult}
    (h : Program.Runs (createDeliveryFromTarget codec tenantID eventID target index opts) db
      (.ok result) db') :
    ∃ d, Added tenantID eventID [ofTarget target] [d] db db' := by
  obtain ⟨_, _, hclock, h⟩ := h.of_bind
  obtain ⟨_, _, hnow, hclock⟩ := hclock.of_bind
  obtain ⟨-, rfl⟩ := hclock.of_done
  cases runs_clockNow hnow
  obtain ⟨_, h⟩ := runs_transaction h
  obtain ⟨ref, _, htaken⟩ := createDeliverySnapshot_taken h
  refine ⟨_, htaken.deliveries, ?_, fun d hd ↦ ?_⟩
  · have hpinned : ref.transformationVersionID = target.transformationVersionID := htaken.materialized rfl
    simp only [List.map_singleton, ofDelivery, ofTarget, Delivery.withPayload, hpinned]
    rfl
  · rw [List.mem_singleton.mp hd]
    exact ⟨rfl, rfl⟩

/-- The loop adds one delivery for each target. -/
theorem added_of_createFromTargets
    (h : Program.Runs (createFromTargets codec tenantID eventID opts n targets) db (.ok k) db') :
    ∃ created, Added tenantID eventID (targets.map ofTarget) created db db' := by
  induction targets generalizing n db with
  | nil =>
    obtain ⟨-, rfl⟩ := h.of_done
    exact ⟨[], by simp, rfl, List.forall_mem_nil _⟩
  | cons _ _ ih =>
    obtain ⟨_, _, hfirst, hrest⟩ := h.of_bind
    obtain ⟨d, hd⟩ := added_of_createDeliveryFromTarget hfirst
    obtain ⟨created, hcreated⟩ := ih hrest
    refine ⟨d :: created, ?_, ?_, ?_⟩
    · rw [hcreated.rows, hd.rows, List.append_assoc, List.singleton_append]
    · rw [List.map_cons, List.map_cons, hcreated.links, (List.cons.inj hd.links).1]
    · exact List.forall_mem_cons.mpr ⟨hd.event _ List.mem_cons_self, hcreated.event⟩

/-- The links of the deliveries an event is to have. -/
def eventLinks (event : Event) (db : DB) : List Link :=
  (db.subscriptions.rows.filter (Subscription.matches event.tenantID event.type)).map ofSubscription ++
    (routesByPriority event.tenantID event.sourceID event.type db).map ofRoute

theorem added_of_createDeliveriesForEvent (hdb : Configured db)
    (hevent : event ∈ db.events) (hverified : event.verified = true)
    (h : Program.Runs (createDeliveriesForEvent codec event.tenantID event.id opts) db (.ok k) db') :
    ∃ created, Added event.tenantID event.id (eventLinks event db) created db db' := by
  obtain ⟨_, _, hget, h⟩ := h.of_bind
  obtain ⟨hget, rfl⟩ := runs_query hget
  obtain ⟨hmem, -, hid⟩ := selectRow_columns hget
  cases Table.eq_of_key_eq hmem hevent hid
  have hallowed : fanoutAllowed event opts = true := by simp [fanoutAllowed, hverified]
  rw [if_pos hallowed] at h
  obtain ⟨_, _, hlist, h⟩ := h.of_bind
  obtain ⟨_, _, hsubscriptions, hrest⟩ := hlist.of_bind
  obtain ⟨hs, rfl⟩ := runs_query hsubscriptions
  obtain ⟨_, _, hroutes, hreturn⟩ := hrest.of_bind
  obtain ⟨hr, rfl⟩ := runs_query hroutes
  obtain ⟨htargets, rfl⟩ := hreturn.of_done
  cases hs
  cases hr
  cases htargets
  have hadded := added_of_createFromTargets h
  rwa [List.map_append, map_listSubscriptionTargets hdb, map_listRouteTargets hdb] at hadded

/-! ## Exactly one delivery each -/

/-- The event is for an active subscription of its tenant. -/
def Subscribed (event : Event) (s : Subscription) : Prop :=
  s.tenantID = event.tenantID ∧ s.state = .active ∧ event.type ∈ s.eventTypes

/-- The event is for an active route of its tenant and source. -/
def Routed (event : Event) (r : Route) : Prop :=
  r.tenantID = event.tenantID ∧ r.sourceID = event.sourceID ∧ r.state = .active ∧
    event.type ∈ r.eventTypes

theorem subscription_matches_iff : s.matches event.tenantID event.type = true ↔ Subscribed event s := by
  simp [Subscription.matches, Subscribed, and_assoc]

theorem route_matches_iff : r.matches event.tenantID event.sourceID event.type = true ↔ Routed event r := by
  simp [Route.matches, Routed, and_assoc]

section Counts

variable {event : Event} (hdb : Configured db)
include hdb

theorem countP_eventLinks_subscription (hs : s ∈ db.subscriptions) (hsubscribed : Subscribed event s) :
    (eventLinks event db).countP (fun l ↦ l.subscriptionID = s.id) = 1 := by
  have hroutes : (routesByPriority event.tenantID event.sourceID event.type db).countP
      ((fun l : Link ↦ decide (l.subscriptionID = s.id)) ∘ ofRoute) = 0 := by
    rw [List.countP_eq_zero]
    intro r _ hsame
    exact (hdb.subscription s hs).1 (of_decide_eq_true hsame).symm
  calc (eventLinks event db).countP (fun l ↦ l.subscriptionID = s.id)
      = (db.subscriptions.rows.filter (Subscription.matches event.tenantID event.type)).countP
          (fun x ↦ x.id = s.id) + 0 := by
        rw [eventLinks, List.countP_append, List.countP_map, List.countP_map, hroutes]
        rfl
    _ = 1 := Table.countP_key_filter hs (subscription_matches_iff.mpr hsubscribed)

theorem countP_eventLinks_route (hr : r ∈ db.routes) (hrouted : Routed event r) :
    (eventLinks event db).countP (fun l ↦ l.routeID = r.id) = 1 := by
  have hsubscriptions :
      (db.subscriptions.rows.filter (Subscription.matches event.tenantID event.type)).countP
        ((fun l : Link ↦ decide (l.routeID = r.id)) ∘ ofSubscription) = 0 := by
    rw [List.countP_eq_zero]
    intro s _ hsame
    exact (hdb.route r hr).1 (of_decide_eq_true hsame).symm
  calc (eventLinks event db).countP (fun l ↦ l.routeID = r.id)
      = 0 + (routesByPriority event.tenantID event.sourceID event.type db).countP
          (fun x ↦ x.id = r.id) := by
        rw [eventLinks, List.countP_append, List.countP_map, List.countP_map, hsubscriptions]
        rfl
    _ = (db.routes.rows.filter (Route.matches event.tenantID event.sourceID event.type)).countP
          (fun x ↦ x.id = r.id) := by
        rw [Nat.zero_add, (perm_routesByPriority _ _ _).countP_eq]
    _ = 1 := Table.countP_key_filter hr (route_matches_iff.mpr hrouted)

end Counts

/-- A delivery for a subscription that the event is for, under a version of the subscription that is
active and agrees with the delivery. -/
def ForSubscription (event : Event) (db : DB) (d : Store.Delivery) : Prop :=
  ∃ s ∈ db.subscriptions, Subscribed event s ∧ d.subscriptionID = s.id ∧ d.routeID = "" ∧
    ∃ v ∈ db.subscriptionVersions, v.id = d.subscriptionVersionID ∧ v.tenantID = s.tenantID ∧
      v.subscriptionID = s.id ∧ v.state = .active ∧ v.endpointID = d.endpointID ∧
      v.transformationVersionID = d.transformationVersionID ∧ event.type ∈ v.eventTypes

/-- The same for a route. -/
def ForRoute (event : Event) (db : DB) (d : Store.Delivery) : Prop :=
  ∃ r ∈ db.routes, Routed event r ∧ d.routeID = r.id ∧ d.subscriptionID = "" ∧
    ∃ v ∈ db.routeVersions, v.id = d.routeVersionID ∧ v.tenantID = r.tenantID ∧
      v.routeID = r.id ∧ v.state = .active ∧ v.endpointID = d.endpointID ∧
      v.transformationVersionID = d.transformationVersionID ∧ event.type ∈ v.eventTypes

theorem forSubscription_of_link
    (hdb : Configured db) (hs : s ∈ db.subscriptions) (hsubscribed : Subscribed event s)
    (hlink : ofSubscription s = ofDelivery d) : ForSubscription event db d := by
  obtain ⟨v, hv, hdescribes⟩ := hdb.subscriptions s hs
  injection hlink with hendpoint hroute _ hid hversion htransformation
  refine ⟨s, hs, hsubscribed, hid.symm, hroute.symm, v, hv, ?_⟩
  refine ⟨hdescribes.id.trans hversion, hdescribes.tenantID, hdescribes.subscriptionID, ?_, ?_, ?_, ?_⟩
  · exact hdescribes.state.trans hsubscribed.2.1
  · exact hdescribes.endpointID.trans hendpoint
  · exact hdescribes.transformationVersionID.trans htransformation
  · rw [hdescribes.eventTypes]
    exact hsubscribed.2.2

theorem forRoute_of_link (hdb : Configured db)
    (hr : r ∈ db.routes) (hrouted : Routed event r) (hlink : ofRoute r = ofDelivery d) :
    ForRoute event db d := by
  obtain ⟨v, hv, hdescribes⟩ := hdb.routes r hr
  injection hlink with hendpoint hid hversion hsubscription _ htransformation
  refine ⟨r, hr, hrouted, hid.symm, hsubscription.symm, v, hv, ?_⟩
  refine ⟨hdescribes.id.trans hversion, hdescribes.tenantID, hdescribes.routeID, ?_, ?_, ?_, ?_⟩
  · exact hdescribes.state.trans hrouted.2.2.1
  · exact hdescribes.endpointID.trans hendpoint
  · exact hdescribes.transformationVersionID.trans htransformation
  · rw [hdescribes.eventTypes]
    exact hrouted.2.2.2

/-- In every state that operations on the configuration reach, a run of the worker on the routing
item of a verified event that returns no error adds exactly one delivery for each subscription and
each route the event is for, and no other. -/
theorem processOutbox_exactly_once {registry : ReconcileRegistry} {item : OutboxItem} {event : Event}
    (hreached : ConfigReached db) (hevent : event ∈ db.events) (hverified : event.verified = true)
    (hkind : item.kind = .routeEvent) (htenant : item.tenantID = event.tenantID)
    (hresource : item.resourceID = event.id)
    (hrun : Program.Runs (processOutbox codec registry item) db (.ok ()) db') :
    ∃ created, db'.deliveries.rows = db.deliveries.rows ++ created ∧
      (∀ s ∈ db.subscriptions, Subscribed event s →
        created.countP (fun d ↦ d.subscriptionID = s.id) = 1) ∧
      (∀ r ∈ db.routes, Routed event r → created.countP (fun d ↦ d.routeID = r.id) = 1) ∧
      ∀ d ∈ created, d.tenantID = event.tenantID ∧ d.eventID = event.id ∧
        (ForSubscription event db d ∨ ForRoute event db d) := by
  obtain ⟨_, hinit, hsteps⟩ := hreached
  have hdb := hinit.configured_steps hsteps
  obtain ⟨created, hadded⟩ : ∃ created,
      Added event.tenantID event.id (eventLinks event db) created db db' := by
    rw [processOutbox, processFanout, hkind, htenant, hresource] at hrun
    obtain ⟨_, _, hcreate, hreturn⟩ := hrun.of_bind
    obtain ⟨-, rfl⟩ := hreturn.of_done
    exact added_of_createDeliveriesForEvent hdb hevent hverified hcreate
  have hcount (p : Link → Bool) : created.countP (p ∘ ofDelivery) = (eventLinks event db).countP p := by
    rw [← hadded.links, List.countP_map]
  refine ⟨created, hadded.rows, fun s hs hsubscribed ↦ ?_, fun r hr hrouted ↦ ?_, fun d hd ↦ ?_⟩
  · exact (hcount _).trans (countP_eventLinks_subscription hdb hs hsubscribed)
  · exact (hcount _).trans (countP_eventLinks_route hdb hr hrouted)
  · refine ⟨(hadded.event d hd).1, (hadded.event d hd).2, ?_⟩
    have hlink : ofDelivery d ∈ eventLinks event db := hadded.links ▸ List.mem_map_of_mem hd
    rcases List.mem_append.mp hlink with hlink | hlink
    · obtain ⟨_, hs, hlink⟩ := List.mem_map.mp hlink
      obtain ⟨hmem, hmatches⟩ := List.mem_filter.mp hs
      exact .inl (forSubscription_of_link hdb hmem (subscription_matches_iff.mp hmatches) hlink)
    · obtain ⟨_, hr, hlink⟩ := List.mem_map.mp hlink
      obtain ⟨hmem, hmatches⟩ := List.mem_filter.mp ((perm_routesByPriority _ _ _).mem_iff.mp hr)
      exact .inr (forRoute_of_link hdb hmem (route_matches_iff.mp hmatches) hlink)

/-! ## The fanout of the shop -/

/-- The state after a transaction that committed. -/
def committedState {α : Type} (r : Except StoreError (α × DB)) : DB :=
  match r with
  | .ok (_, db) => db
  | .error _ => DB.empty

theorem exists_eq_committedState {α : Type} {r : Except StoreError (α × DB)} (h : r.isOk = true) :
    ∃ a, r = .ok (a, committedState r) := by
  match r, h with
  | .ok (a, db), _ => exact ⟨a, rfl⟩

def shopEvent : Event where
  id := "evt_1"
  tenantID := "t"
  sourceID := "src_1"
  provider := "stripe"
  type := "charge.failed"
  providerID := ""
  rawPayloadID := ""
  rawPayloadHash := ""
  verified := true
  verifyReason := "verified"
  dedupeKey := "k"
  dedupeStatus := .unique
  receivedAt := 0

def shopRoute : NewRoute where
  id := ""
  tenantID := "t"
  sourceID := "src_1"
  name := "failures"
  priority := 0
  eventTypes := ["charge.failed", "charge.refunded"]
  endpointID := "ep_1"
  retryPolicyID := ""
  transformationID := ""
  transformationVersionID := ""
  state := some .active
  version := 0
  createdBy := ""

/-- The shop with an event of its source. -/
def shopEventDB : DB := { shopDB with events := (Table.empty.insert? shopEvent).getD .empty }

def shopSubscribedDB : DB := committedState (createSubscription shopSubscription (shopEnv 0) shopEventDB)

/-- The shop with a subscription and a route for the event. -/
def shopConfigured : DB := committedState (createRoute shopRoute (shopEnv 0) shopSubscribedDB)

theorem steps_shopConfigured {Starts : Nat → Prop} (hstart : Starts 0) :
    Relation.ReflTransGen (ConfigStep Starts) shopEventDB shopConfigured := by
  have hsubscription : (createSubscription shopSubscription (shopEnv 0) shopEventDB).isOk = true := by
    decide +kernel
  have hroute : (createRoute shopRoute (shopEnv 0) shopSubscribedDB).isOk = true := by decide +kernel
  obtain ⟨s, hs⟩ := exists_eq_committedState hsubscription
  obtain ⟨r, hr⟩ := exists_eq_committedState hroute
  exact .tail (.single (.createSubscription _ hstart _ s hs)) (.createRoute _ hstart _ r hr)

theorem configReached_shopConfigured : ConfigReached shopConfigured :=
  ⟨shopEventDB, ⟨rfl, rfl⟩, steps_shopConfigured trivial⟩

def shopItem : OutboxItem := ⟨"out_1", "t", .routeEvent, "evt_1"⟩

def shopFanout : DB := ((processOutbox shopCodec (fun _ _ ↦ none) shopItem).run shopEnv shopConfigured).2

theorem runs_shopFanout :
    Program.Runs (processOutbox shopCodec (fun _ _ ↦ none) shopItem) shopConfigured (.ok ())
      shopFanout :=
  Program.runs_of_isOk (by decide +kernel)

theorem mem_shopConfigured : shopEvent ∈ shopConfigured.events := by
  rw [Table.mem_def]
  decide +kernel

/-- The shop's event gets a delivery for the subscription and one for the route. -/
theorem shop_event_exactly_once :
    ConfigReached shopConfigured ∧ shopEvent ∈ shopConfigured.events ∧
      Program.Runs (processOutbox shopCodec (fun _ _ ↦ none) shopItem) shopConfigured (.ok ())
        shopFanout ∧
      shopFanout.deliveries.rows.map (fun d ↦ (d.subscriptionID, d.routeID)) =
        [("sub_0", ""), ("", "rte_0")] ∧
      ∃ created, shopFanout.deliveries.rows = shopConfigured.deliveries.rows ++ created ∧
        ∀ d ∈ created, ForSubscription shopEvent shopConfigured d ∨ ForRoute shopEvent shopConfigured d := by
  refine ⟨configReached_shopConfigured, mem_shopConfigured, runs_shopFanout, by decide +kernel, ?_⟩
  obtain ⟨created, hrows, -, -, hcreated⟩ := processOutbox_exactly_once configReached_shopConfigured
    mem_shopConfigured rfl rfl rfl rfl runs_shopFanout
  exact ⟨created, hrows, fun d hd ↦ (hcreated d hd).2.2⟩

end Webhookery.Delivery
