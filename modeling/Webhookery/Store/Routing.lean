import Webhookery.Store.Deliveries
import Webhookery.Relational.Versioned

/-!
# Subscriptions and routes

Creating, updating, deleting and activating subscriptions and routes. Every change of a row writes a
version row with the whole configuration and makes it the active version, in one transaction.
-/

namespace Webhookery.Store

open Go Relational

/-! ## What a configuration refers to -/

def requireActiveEndpoint (tenantID endpointID : String) (db : DB) : Except StoreError Unit := do
  let e ← selectRow db.endpoints fun e ↦ e.tenantID == tenantID && e.id == endpointID
  require (e.state == .active) (.invalidInput "endpoint disabled")

def requireActiveSource (tenantID sourceID : String) (db : DB) : Except StoreError Unit := do
  let s ← selectRow db.sources fun s ↦ s.tenantID == tenantID && s.id == sourceID
  require (s.state == .active) (.invalidInput "source disabled")

def activeTransformationVersionID (tenantID transformationID : String) (db : DB) :
    Except StoreError String := do
  let t ← selectRow db.transformations fun t ↦
    t.tenantID == tenantID && t.id == transformationID && t.state == .active
  let v ← selectRow db.transformationVersions fun v ↦
    v.tenantID == t.tenantID && v.id == t.activeVersionID && v.state == .active
  return v.id

/-- The transformation version of a new row: the active one of its transformation, if it has one. -/
def pinnedVersion (tenantID transformationID given : String) (db : DB) : Except StoreError String :=
  if transformationID = "" then .ok given
  else activeTransformationVersionID tenantID transformationID db

/-- The endpoint after an update. -/
def changedEndpoint (tenantID : String) (change : Option String) (current : String) (db : DB) :
    Except StoreError String :=
  match change with
  | none => .ok current
  | some endpointID => do
    requireActiveEndpoint tenantID endpointID db
    return endpointID

/-- The source after an update. -/
def changedSource (tenantID : String) (change : Option String) (current : String) (db : DB) :
    Except StoreError String :=
  match change with
  | none => .ok current
  | some sourceID => do
    requireActiveSource tenantID sourceID db
    return sourceID

/-- The transformation and its version after an update. -/
def changedTransformation (tenantID : String) (change : Option String) (current : String × String)
    (db : DB) : Except StoreError (String × String) :=
  match change with
  | none => .ok current
  | some transformationID => do
    let versionID ← pinnedVersion tenantID transformationID "" db
    return (transformationID, versionID)

/-! ## Subscriptions -/

/-- A subscription to create. An empty identifier, state, payload format or version takes its
default. -/
structure NewSubscription where
  (id tenantID endpointID : String)
  eventTypes : List String
  (payloadFormat transformationID transformationVersionID : String)
  state : Option ConfigState
  version : Nat

def NewSubscription.row (n : NewSubscription) (env : Env) (versionID : String) : Subscription where
  id := if n.id = "" then env.mustID "sub" 0 else n.id
  tenantID := n.tenantID
  endpointID := n.endpointID
  eventTypes := n.eventTypes
  payloadFormat := if n.payloadFormat = "" then "canonical_json" else n.payloadFormat
  transformationID := n.transformationID
  transformationVersionID := versionID
  state := n.state.getD .active
  version := if n.version = 0 then 1 else n.version
  activeVersionID := ""

def subscriptionVersionRow (env : Env) (s : Subscription) (actorID : String) : SubscriptionVersion where
  id := env.mustID "sv" 0
  tenantID := s.tenantID
  subscriptionID := s.id
  version := s.version
  endpointID := s.endpointID
  eventTypes := s.eventTypes
  payloadFormat := s.payloadFormat
  transformationID := s.transformationID
  transformationVersionID := s.transformationVersionID
  state := s.state
  createdBy := actorID

def putSubscription (s : Subscription) (db : DB) : DB :=
  { db with subscriptions := db.subscriptions.replace s fun _ _ ↦ rfl }

/-- `insertSubscriptionVersion`, and the new version becomes the active one. -/
def publishSubscription (env : Env) (actorID : String) (s : Subscription) (db : DB) :
    Except StoreError (Subscription × DB) := do
  let subscriptionVersions ← insertRow db.subscriptionVersions (subscriptionVersionRow env s actorID)
  let s := { s with activeVersionID := env.mustID "sv" 0 }
  return (s, putSubscription s { db with subscriptionVersions })

def createSubscription (n : NewSubscription) (env : Env) (db : DB) :
    Except StoreError (Subscription × DB) := do
  requireActiveEndpoint n.tenantID n.endpointID db
  let versionID ← pinnedVersion n.tenantID n.transformationID n.transformationVersionID db
  let subscriptions ← insertRow db.subscriptions (n.row env versionID)
  publishSubscription env "" (n.row env versionID) { db with subscriptions }

structure UpdateSubscriptionRequest where
  endpointID : Option String
  eventTypes : Option (List String)
  (payloadFormat transformationID : Option String)
  state : Option ConfigState

/-- The row after an update, before it is published. -/
def changedSubscription (req : UpdateSubscriptionRequest) (current : Subscription) (db : DB) :
    Except StoreError Subscription := do
  let endpointID ← changedEndpoint current.tenantID req.endpointID current.endpointID db
  let (transformationID, transformationVersionID) ← changedTransformation current.tenantID
    req.transformationID (current.transformationID, current.transformationVersionID) db
  return { current with
    endpointID, transformationID, transformationVersionID,
    eventTypes := req.eventTypes.getD current.eventTypes,
    payloadFormat := req.payloadFormat.getD current.payloadFormat,
    state := req.state.getD current.state, version := current.version + 1 }

def updateSubscription (tenantID subscriptionID actorID : String) (req : UpdateSubscriptionRequest)
    (env : Env) (db : DB) : Except StoreError (Subscription × DB) := do
  let current ← selectRow db.subscriptions fun s ↦ s.tenantID == tenantID && s.id == subscriptionID
  let changed ← changedSubscription req current db
  publishSubscription env actorID changed (putSubscription changed db)

def deleteSubscription (tenantID subscriptionID actorID : String) (env : Env) (db : DB) :
    Except StoreError (Subscription × DB) :=
  updateSubscription tenantID subscriptionID actorID ⟨none, none, none, none, some .disabled⟩ env db

/-! ## Routes -/

/-- A route to create. An empty identifier or state, priority zero and version zero take their
default. -/
structure NewRoute where
  (id tenantID sourceID name : String)
  priority : Int
  eventTypes : List String
  (endpointID retryPolicyID transformationID transformationVersionID : String)
  state : Option ConfigState
  version : Nat
  createdBy : String

def NewRoute.row (n : NewRoute) (env : Env) (versionID : String) : Route where
  id := if n.id = "" then env.mustID "rte" 0 else n.id
  tenantID := n.tenantID
  sourceID := n.sourceID
  name := n.name
  priority := if n.priority = 0 then 100 else n.priority
  eventTypes := n.eventTypes
  endpointID := n.endpointID
  retryPolicyID := n.retryPolicyID
  transformationID := n.transformationID
  transformationVersionID := versionID
  state := n.state.getD .draft
  version := if n.version = 0 then 1 else n.version
  activeVersionID := ""

def routeVersionRow (env : Env) (r : Route) (actorID : String) : RouteVersion where
  id := env.mustID "rv" 0
  tenantID := r.tenantID
  routeID := r.id
  version := r.version
  sourceID := r.sourceID
  name := r.name
  priority := r.priority
  eventTypes := r.eventTypes
  endpointID := r.endpointID
  retryPolicyID := r.retryPolicyID
  transformationID := r.transformationID
  transformationVersionID := r.transformationVersionID
  state := r.state
  createdBy := actorID

def putRoute (r : Route) (db : DB) : DB :=
  { db with routes := db.routes.replace r fun _ _ ↦ rfl }

/-- `insertRouteVersion`, and the new version becomes the active one. -/
def publishRoute (env : Env) (actorID : String) (r : Route) (db : DB) :
    Except StoreError (Route × DB) := do
  let routeVersions ← insertRow db.routeVersions (routeVersionRow env r actorID)
  let r := { r with activeVersionID := env.mustID "rv" 0 }
  return (r, putRoute r { db with routeVersions })

def createRoute (n : NewRoute) (env : Env) (db : DB) : Except StoreError (Route × DB) := do
  requireActiveSource n.tenantID n.sourceID db
  requireActiveEndpoint n.tenantID n.endpointID db
  let versionID ← pinnedVersion n.tenantID n.transformationID n.transformationVersionID db
  let routes ← insertRow db.routes (n.row env versionID)
  publishRoute env n.createdBy (n.row env versionID) { db with routes }

structure UpdateRouteRequest where
  (sourceID name : Option String)
  priority : Option Int
  eventTypes : Option (List String)
  (endpointID retryPolicyID transformationID : Option String)
  state : Option ConfigState

/-- The row after an update, before it is published. -/
def changedRoute (req : UpdateRouteRequest) (current : Route) (db : DB) : Except StoreError Route := do
  let sourceID ← changedSource current.tenantID req.sourceID current.sourceID db
  let endpointID ← changedEndpoint current.tenantID req.endpointID current.endpointID db
  let (transformationID, transformationVersionID) ← changedTransformation current.tenantID
    req.transformationID (current.transformationID, current.transformationVersionID) db
  return { current with
    sourceID, endpointID, transformationID, transformationVersionID,
    name := req.name.getD current.name, priority := req.priority.getD current.priority,
    eventTypes := req.eventTypes.getD current.eventTypes,
    retryPolicyID := req.retryPolicyID.getD current.retryPolicyID,
    state := req.state.getD current.state, version := current.version + 1 }

def updateRoute (tenantID routeID actorID : String) (req : UpdateRouteRequest) (env : Env) (db : DB) :
    Except StoreError (Route × DB) := do
  let current ← selectRow db.routes fun r ↦ r.tenantID == tenantID && r.id == routeID
  let changed ← changedRoute req current db
  publishRoute env actorID changed (putRoute changed db)

def deleteRoute (tenantID routeID actorID : String) (env : Env) (db : DB) : Except StoreError (Route × DB) :=
  updateRoute tenantID routeID actorID ⟨none, none, none, none, none, none, none, some .inactive⟩ env db

/-- `ActivateRoute`: neither the source nor the endpoint is checked again. -/
def activateRoute (tenantID routeID actorID : String) (env : Env) (db : DB) :
    Except StoreError (Route × DB) := do
  let current ← selectRow db.routes fun r ↦ r.tenantID == tenantID && r.id == routeID
  let active := { current with state := .active, version := current.version + 1 }
  publishRoute env actorID active (putRoute active db)

/-! ## Operations that committed -/

section Committed

variable {env : Env} {db db' : DB} {tenantID actorID : String}

/-- The endpoint of a tenant exists. -/
def EndpointExists (tenantID endpointID : String) (db : DB) : Prop :=
  ∃ e ∈ db.endpoints, e.tenantID = tenantID ∧ e.id = endpointID

theorem endpointExists_of_requireActiveEndpoint (h : requireActiveEndpoint tenantID endpointID db = .ok ()) :
    EndpointExists tenantID endpointID db := by
  obtain ⟨e, he, -⟩ := bind_eq_ok.mp h
  exact ⟨e, selectRow_columns he⟩

theorem changedEndpoint_eq_ok (h : changedEndpoint tenantID change current db = .ok endpointID) :
    EndpointExists tenantID current db → EndpointExists tenantID endpointID db := by
  cases change with
  | none =>
    cases h
    exact id
  | some =>
    obtain ⟨_, hrequire, h⟩ := bind_eq_ok.mp h
    cases h
    exact fun _ ↦ endpointExists_of_requireActiveEndpoint hrequire

/-- A subscription was published: the row names its new version, and nothing else changed. -/
structure SubscriptionPublished (env : Env) (actorID : String) (s : Subscription) (db db' : DB) : Prop where
  published : Published db.subscriptions db'.subscriptions db.subscriptionVersions
    db'.subscriptionVersions { s with activeVersionID := env.mustID "sv" 0 }
    (subscriptionVersionRow env s actorID)
  frame : db' = { db with
    subscriptions := db'.subscriptions, subscriptionVersions := db'.subscriptionVersions }

theorem createSubscription_eq_ok (h : createSubscription n env db = .ok (result, db')) :
    ∃ versionID, SubscriptionPublished env "" (n.row env versionID) db db' ∧
      EndpointExists n.tenantID n.endpointID db ∧
      ∀ s ∈ db.subscriptions, s.id ≠ (n.row env versionID).id := by
  obtain ⟨_, hendpoint, h⟩ := bind_eq_ok.mp h
  obtain ⟨versionID, -, h⟩ := bind_eq_ok.mp h
  obtain ⟨_, ht, h⟩ := bind_eq_ok.mp h
  obtain ⟨_, hvs, h⟩ := bind_eq_ok.mp h
  cases h
  refine ⟨versionID, ⟨?_, rfl⟩, endpointExists_of_requireActiveEndpoint hendpoint,
    (Table.fits_of_insert? (insertRow_eq_ok.mp ht)).1⟩
  exact published_of_insert? (fun _ _ ↦ rfl) (insertRow_eq_ok.mp ht) rfl (insertRow_eq_ok.mp hvs)

theorem changedSubscription_eq_ok (h : changedSubscription req current db = .ok s) :
    s.version = current.version + 1 ∧ s.id = current.id ∧
      (EndpointExists current.tenantID current.endpointID db → EndpointExists s.tenantID s.endpointID db) := by
  obtain ⟨_, hendpoint, h⟩ := bind_eq_ok.mp h
  obtain ⟨_, -, h⟩ := bind_eq_ok.mp h
  cases h
  exact ⟨rfl, rfl, changedEndpoint_eq_ok hendpoint⟩

theorem updateSubscription_eq_ok
    (h : updateSubscription tenantID subscriptionID actorID req env db = .ok (result, db')) :
    ∃ current ∈ db.subscriptions, ∃ s, changedSubscription req current db = .ok s ∧
      SubscriptionPublished env actorID s db db' := by
  obtain ⟨current, hcurrent, h⟩ := bind_eq_ok.mp h
  obtain ⟨s, hs, h⟩ := bind_eq_ok.mp h
  obtain ⟨_, hvs, h⟩ := bind_eq_ok.mp h
  cases h
  have hmem := (mem_of_selectRow hcurrent).1
  refine ⟨current, hmem, s, hs, ?_, rfl⟩
  exact published_of_replace (fun _ _ ↦ rfl) (fun _ _ ↦ rfl) rfl
    ⟨current, hmem, (changedSubscription_eq_ok hs).2.1.symm⟩ (insertRow_eq_ok.mp hvs)

/-- A route was published. -/
structure RoutePublished (env : Env) (actorID : String) (r : Route) (db db' : DB) : Prop where
  published : Published db.routes db'.routes db.routeVersions db'.routeVersions
    { r with activeVersionID := env.mustID "rv" 0 } (routeVersionRow env r actorID)
  frame : db' = { db with routes := db'.routes, routeVersions := db'.routeVersions }

theorem createRoute_eq_ok (h : createRoute n env db = .ok (result, db')) :
    ∃ versionID, RoutePublished env n.createdBy (n.row env versionID) db db' ∧
      EndpointExists n.tenantID n.endpointID db ∧ ∀ r ∈ db.routes, r.id ≠ (n.row env versionID).id := by
  obtain ⟨_, -, h⟩ := bind_eq_ok.mp h
  obtain ⟨_, hendpoint, h⟩ := bind_eq_ok.mp h
  obtain ⟨versionID, -, h⟩ := bind_eq_ok.mp h
  obtain ⟨_, ht, h⟩ := bind_eq_ok.mp h
  obtain ⟨_, hvs, h⟩ := bind_eq_ok.mp h
  cases h
  refine ⟨versionID, ⟨?_, rfl⟩, endpointExists_of_requireActiveEndpoint hendpoint,
    (Table.fits_of_insert? (insertRow_eq_ok.mp ht)).1⟩
  exact published_of_insert? (fun _ _ ↦ rfl) (insertRow_eq_ok.mp ht) rfl (insertRow_eq_ok.mp hvs)

theorem changedRoute_eq_ok (h : changedRoute req current db = .ok r) :
    r.version = current.version + 1 ∧ r.id = current.id ∧
      (EndpointExists current.tenantID current.endpointID db → EndpointExists r.tenantID r.endpointID db) := by
  obtain ⟨_, -, h⟩ := bind_eq_ok.mp h
  obtain ⟨_, hendpoint, h⟩ := bind_eq_ok.mp h
  obtain ⟨_, -, h⟩ := bind_eq_ok.mp h
  cases h
  exact ⟨rfl, rfl, changedEndpoint_eq_ok hendpoint⟩

theorem updateRoute_eq_ok (h : updateRoute tenantID routeID actorID req env db = .ok (result, db')) :
    ∃ current ∈ db.routes, ∃ r, changedRoute req current db = .ok r ∧
      RoutePublished env actorID r db db' := by
  obtain ⟨current, hcurrent, h⟩ := bind_eq_ok.mp h
  obtain ⟨r, hr, h⟩ := bind_eq_ok.mp h
  obtain ⟨_, hvs, h⟩ := bind_eq_ok.mp h
  cases h
  have hmem := (mem_of_selectRow hcurrent).1
  refine ⟨current, hmem, r, hr, ?_, rfl⟩
  exact published_of_replace (fun _ _ ↦ rfl) (fun _ _ ↦ rfl) rfl
    ⟨current, hmem, (changedRoute_eq_ok hr).2.1.symm⟩ (insertRow_eq_ok.mp hvs)

theorem activateRoute_eq_ok (h : activateRoute tenantID routeID actorID env db = .ok (result, db')) :
    ∃ current ∈ db.routes, RoutePublished env actorID
      { current with state := .active, version := current.version + 1 } db db' := by
  obtain ⟨current, hcurrent, h⟩ := bind_eq_ok.mp h
  obtain ⟨_, hvs, h⟩ := bind_eq_ok.mp h
  cases h
  have hmem := (mem_of_selectRow hcurrent).1
  refine ⟨current, hmem, ?_, rfl⟩
  exact published_of_replace (fun _ _ ↦ rfl) (fun _ _ ↦ rfl) rfl ⟨current, hmem, rfl⟩ (insertRow_eq_ok.mp hvs)

end Committed

/-! ## Dry runs of a route -/

/-- `containsString`, which ignores case. -/
def containsString (simpleFold : Char → Char) (values : List String) (needle : String) : Bool :=
  values.any fun value ↦ equalFoldWith simpleFold value needle

/-- One line of the explanation: a condition on one value or on a list of them. -/
structure MatchExplanation where
  name : String
  expected : String ⊕ List String
  actual : String
  result : Bool

/-- A delivery that the dry run announces. -/
structure AnnouncedDelivery where
  (endpointID routeID routeVersionID retryPolicyID transformationID transformationVersionID : String)

structure RouteDryRun where
  matched : Bool
  wouldCreateDeliveries : List AnnouncedDelivery
  explanation : List MatchExplanation

def Route.announced (r : Route) : AnnouncedDelivery where
  endpointID := r.endpointID
  routeID := r.id
  routeVersionID := r.activeVersionID
  retryPolicyID := r.retryPolicyID
  transformationID := r.transformationID
  transformationVersionID := r.transformationVersionID

/-- The result of `DryRunRoute` for the rows that it reads. -/
def Route.dryRun (simpleFold : Char → Char) (r : Route) (event : Event) : RouteDryRun :=
  let sameSource := r.sourceID == event.sourceID
  let sameType := containsString simpleFold r.eventTypes event.type
  { matched := sameSource && sameType
    wouldCreateDeliveries := if sameSource && sameType then [r.announced] else []
    explanation := [⟨"source_id", .inl r.sourceID, event.sourceID, sameSource⟩,
      ⟨"event_type", .inr r.eventTypes, event.type, sameType⟩] }

def getRoute (tenantID routeID : String) (db : DB) : Except StoreError Route :=
  selectRow db.routes fun r ↦ r.tenantID == tenantID && r.id == routeID

def dryRunRoute (simpleFold : Char → Char) (tenantID routeID eventID : String) : Work RouteDryRun := do
  let route ← query (getRoute tenantID routeID)
  let event ← query (getEvent tenantID eventID)
  return route.dryRun simpleFold event

/-- The rows that the dry run reads are found by their keys. -/
theorem runs_dryRunRoute (hr : r ∈ db.routes) (he : e ∈ db.events)
    (h : Concurrency.Program.Runs (dryRunRoute simpleFold e.tenantID r.id e.id) db (.ok out) db') :
    out = r.dryRun simpleFold e ∧ db' = db := by
  obtain ⟨_, _, hroute, h₁⟩ := h.of_bind
  obtain ⟨hread, rfl⟩ := runs_query hroute
  obtain ⟨_, _, hevent, h₂⟩ := h₁.of_bind
  obtain ⟨hread', rfl⟩ := runs_query hevent
  obtain ⟨hmem, -, hid⟩ := selectRow_columns hread
  obtain ⟨hmem', -, hid'⟩ := selectRow_columns hread'
  obtain rfl := Table.eq_of_key_eq hmem hr hid
  obtain rfl := Table.eq_of_key_eq hmem' he hid'
  cases h₂
  exact ⟨rfl, rfl⟩

end Webhookery.Store
