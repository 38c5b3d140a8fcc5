import Webhookery.Store.Routing

/-!
# The active version is the configuration

Whatever subscriptions and routes are created, updated, deleted or activated, each row names a
version row that says what the row says, and refers to an endpoint that exists.
-/

namespace Webhookery.Store

open Go Relational

variable {env : Env} {db db' : DB} {actorID : String}

/-- The version row is the one a subscription names, and agrees with it. -/
structure SubscriptionVersion.Describes (v : SubscriptionVersion) (s : Subscription) : Prop where
  id : v.id = s.activeVersionID
  tenantID : v.tenantID = s.tenantID
  subscriptionID : v.subscriptionID = s.id
  version : v.version = s.version
  endpointID : v.endpointID = s.endpointID
  eventTypes : v.eventTypes = s.eventTypes
  payloadFormat : v.payloadFormat = s.payloadFormat
  transformationID : v.transformationID = s.transformationID
  transformationVersionID : v.transformationVersionID = s.transformationVersionID
  state : v.state = s.state

/-- The version row is the one a route names, and agrees with it. -/
structure RouteVersion.Describes (v : RouteVersion) (r : Route) : Prop where
  id : v.id = r.activeVersionID
  tenantID : v.tenantID = r.tenantID
  routeID : v.routeID = r.id
  version : v.version = r.version
  sourceID : v.sourceID = r.sourceID
  name : v.name = r.name
  priority : v.priority = r.priority
  eventTypes : v.eventTypes = r.eventTypes
  endpointID : v.endpointID = r.endpointID
  retryPolicyID : v.retryPolicyID = r.retryPolicyID
  transformationID : v.transformationID = r.transformationID
  transformationVersionID : v.transformationVersionID = r.transformationVersionID
  state : v.state = r.state

/-- What every row of configuration keeps. -/
structure Configured (db : DB) : Prop where
  subscriptions : Described SubscriptionVersion.Describes db.subscriptions db.subscriptionVersions
  subscription : ∀ s ∈ db.subscriptions, s.id ≠ "" ∧ EndpointExists s.tenantID s.endpointID db
  routes : Described RouteVersion.Describes db.routes db.routeVersions
  route : ∀ r ∈ db.routes, r.id ≠ "" ∧ EndpointExists r.tenantID r.endpointID db

/-- A state without subscriptions and routes. -/
def Unconfigured (db : DB) : Prop :=
  db.subscriptions.rows = [] ∧ db.routes.rows = []

theorem Unconfigured.configured (h : Unconfigured db) : Configured db where
  subscriptions := fun _ hs ↦ absurd hs (Table.not_mem_of_rows_eq_nil h.1)
  subscription := fun _ hs ↦ absurd hs (Table.not_mem_of_rows_eq_nil h.1)
  routes := fun _ hr ↦ absurd hr (Table.not_mem_of_rows_eq_nil h.2)
  route := fun _ hr ↦ absurd hr (Table.not_mem_of_rows_eq_nil h.2)

/-- One operation on the configuration, which creates rows with versions that meet a condition, or any other that
leaves it alone and deletes no endpoint. -/
inductive ConfigStep (Starts : Nat → Prop) (db db' : DB) : Prop
  | createSubscription (n : NewSubscription) (hversion : Starts n.version) (env : Env) (result : Subscription)
      (h : createSubscription n env db = .ok (result, db'))
  | updateSubscription (tenantID subscriptionID actorID : String) (req : UpdateSubscriptionRequest)
      (env : Env) (result : Subscription)
      (h : updateSubscription tenantID subscriptionID actorID req env db = .ok (result, db'))
  | deleteSubscription (tenantID subscriptionID actorID : String) (env : Env) (result : Subscription)
      (h : deleteSubscription tenantID subscriptionID actorID env db = .ok (result, db'))
  | createRoute (n : NewRoute) (hversion : Starts n.version) (env : Env) (result : Route)
      (h : createRoute n env db = .ok (result, db'))
  | updateRoute (tenantID routeID actorID : String) (req : UpdateRouteRequest) (env : Env)
      (result : Route) (h : updateRoute tenantID routeID actorID req env db = .ok (result, db'))
  | deleteRoute (tenantID routeID actorID : String) (env : Env) (result : Route)
      (h : deleteRoute tenantID routeID actorID env db = .ok (result, db'))
  | activateRoute (tenantID routeID actorID : String) (env : Env) (result : Route)
      (h : activateRoute tenantID routeID actorID env db = .ok (result, db'))
  | other (hsubscriptions : db'.subscriptions = db.subscriptions)
      (hsubscriptionVersions : db'.subscriptionVersions = db.subscriptionVersions)
      (hroutes : db'.routes = db.routes) (hrouteVersions : db'.routeVersions = db.routeVersions)
      (hendpoints : ∀ tenantID endpointID,
        EndpointExists tenantID endpointID db → EndpointExists tenantID endpointID db')

/-- The states that operations on the configuration reach. -/
def ConfigReached (db : DB) : Prop :=
  ∃ db₀, Unconfigured db₀ ∧ Relation.ReflTransGen (ConfigStep fun _ ↦ True) db₀ db

/-! ## One step -/

theorem SubscriptionPublished.configured
    (h : SubscriptionPublished env actorID s db db') (hdb : Configured db) (hid : s.id ≠ "")
    (hendpoint : EndpointExists s.tenantID s.endpointID db) : Configured db' where
  subscriptions := hdb.subscriptions.publish h.published (by constructor <;> rfl)
  subscription r hr := by
    rw [h.frame]
    rcases h.published.rows r hr with rfl | ⟨hold, -⟩
    · exact ⟨hid, hendpoint⟩
    · exact hdb.subscription r hold
  routes := by
    rw [h.frame]
    exact hdb.routes
  route := by
    rw [h.frame]
    exact hdb.route

theorem RoutePublished.configured (h : RoutePublished env actorID r db db')
    (hdb : Configured db) (hid : r.id ≠ "") (hendpoint : EndpointExists r.tenantID r.endpointID db) :
    Configured db' where
  subscriptions := by
    rw [h.frame]
    exact hdb.subscriptions
  subscription := by
    rw [h.frame]
    exact hdb.subscription
  routes := hdb.routes.publish h.published (by constructor <;> rfl)
  route r hr := by
    rw [h.frame]
    rcases h.published.rows r hr with rfl | ⟨hold, -⟩
    · exact ⟨hid, hendpoint⟩
    · exact hdb.route r hold

theorem NewSubscription.row_id_ne_empty (n : NewSubscription) (versionID : String) : (n.row env versionID).id ≠ "" := by
  change (if n.id = "" then env.mustID "sub" 0 else n.id) ≠ ""
  split
  · exact env.mustID_ne_empty "sub" 0
  · assumption

theorem NewRoute.row_id_ne_empty (n : NewRoute) (versionID : String) : (n.row env versionID).id ≠ "" := by
  change (if n.id = "" then env.mustID "rte" 0 else n.id) ≠ ""
  split
  · exact env.mustID_ne_empty "rte" 0
  · assumption

theorem configured_of_updateSubscription (hdb : Configured db)
    (h : updateSubscription tenantID subscriptionID actorID req env db = .ok (result, db')) :
    Configured db' := by
  obtain ⟨current, hcurrent, _, hchanged, hpublished⟩ := updateSubscription_eq_ok h
  obtain ⟨-, hid, hendpoint⟩ := changedSubscription_eq_ok hchanged
  obtain ⟨hne, hexists⟩ := hdb.subscription current hcurrent
  exact hpublished.configured hdb (hid ▸ hne) (hendpoint hexists)

theorem configured_of_updateRoute (hdb : Configured db)
    (h : updateRoute tenantID routeID actorID req env db = .ok (result, db')) : Configured db' := by
  obtain ⟨current, hcurrent, _, hchanged, hpublished⟩ := updateRoute_eq_ok h
  obtain ⟨-, hid, hendpoint⟩ := changedRoute_eq_ok hchanged
  obtain ⟨hne, hexists⟩ := hdb.route current hcurrent
  exact hpublished.configured hdb (hid ▸ hne) (hendpoint hexists)

theorem Configured.step (hdb : Configured db) (h : ConfigStep Starts db db') : Configured db' := by
  cases h with
  | createSubscription n _ _ _ h =>
    obtain ⟨versionID, hpublished, hendpoint, -⟩ := createSubscription_eq_ok h
    exact hpublished.configured hdb (n.row_id_ne_empty versionID) hendpoint
  | updateSubscription _ _ _ _ _ _ h
  | deleteSubscription _ _ _ _ _ h =>
    exact configured_of_updateSubscription hdb h
  | createRoute n _ _ _ h =>
    obtain ⟨versionID, hpublished, hendpoint, -⟩ := createRoute_eq_ok h
    exact hpublished.configured hdb (n.row_id_ne_empty versionID) hendpoint
  | updateRoute _ _ _ _ _ _ h
  | deleteRoute _ _ _ _ _ h =>
    exact configured_of_updateRoute hdb h
  | activateRoute _ _ _ _ _ h =>
    obtain ⟨current, hcurrent, hpublished⟩ := activateRoute_eq_ok h
    obtain ⟨hne, hexists⟩ := hdb.route current hcurrent
    exact hpublished.configured hdb hne hexists
  | other hsubscriptions hsubscriptionVersions hroutes hrouteVersions hendpoints =>
    constructor
    · rw [hsubscriptions, hsubscriptionVersions]
      exact hdb.subscriptions
    · rw [hsubscriptions]
      exact fun s hs ↦ (hdb.subscription s hs).imp id (hendpoints _ _)
    · rw [hroutes, hrouteVersions]
      exact hdb.routes
    · rw [hroutes]
      exact fun r hr ↦ (hdb.route r hr).imp id (hendpoints _ _)

/-- In every state that is reached, the active versions are the configuration. -/
theorem Unconfigured.configured_steps {db₀ : DB} (hinit : Unconfigured db₀)
    (hsteps : Relation.ReflTransGen (ConfigStep Starts) db₀ db) : Configured db := by
  induction hsteps with
  | refl => exact hinit.configured
  | tail _ hstep ih => exact ih.step hstep

end Webhookery.Store
