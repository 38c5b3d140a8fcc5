import Webhookery.Store.RetryPolicies

/-!
# Endpoints

Updating and deleting endpoints. An update changes the name, the URL, the state and the retry policy that
the request gives, and leaves the circuit alone; a deletion disables the endpoint.
-/

namespace Webhookery.Store

open Go

/-! ## Requests -/

structure UpdateEndpointRequest where
  (name url state retryPolicyID : Option String)
  reason : String

def requireEndpointState (state : String) : Except StoreError Unit :=
  require (state == "active" || state == "disabled")
    (.invalidInput "endpoint state must be active or disabled")

/-- A given URL is normalized by the validator, unless it blocks it. -/
def acceptedURL (validate : String → Option String) : Option String → Except StoreError (Option String)
  | none => .ok none
  | some raw => do
    require (trimSpace raw != "") (.invalidInput "url cannot be empty")
    match validate (trimSpace raw) with
    | some normalized => .ok (some normalized)
    | none => .error (.invalidInput "endpoint_url_blocked")

def requireEndpointAndReason (endpointID reason : String) : Except StoreError Unit :=
  require (trimSpace endpointID != "" && trimSpace reason != "")
    (.invalidInput "endpoint_id and reason are required")

/-- The checks of `ControlService.UpdateEndpoint`. -/
def UpdateEndpointRequest.accepted (validate : String → Option String) (req : UpdateEndpointRequest)
    (endpointID : String) : Except StoreError UpdateEndpointRequest := do
  requireEndpointAndReason endpointID req.reason
  require (req.name.isSome || req.url.isSome || req.state.isSome || req.retryPolicyID.isSome)
    (.invalidInput "at least one endpoint field is required")
  let name := req.name.map trimSpace
  require (name != some "") (.invalidInput "name cannot be empty")
  let url ← acceptedURL validate req.url
  let state := req.state.map trimSpace
  requireGiven requireEndpointState state
  return { req with name, url, state, retryPolicyID := req.retryPolicyID.map trimSpace }

/-! ## Transactions -/

def Endpoint.changed (req : UpdateEndpointRequest) (current : Endpoint) : Endpoint :=
  { current with
    name := req.name.getD current.name, url := req.url.getD current.url,
    state := (req.state.map policyStateOf).getD current.state,
    retryPolicyID := req.retryPolicyID.getD current.retryPolicyID }

def updateEndpoint (tenantID endpointID : String) (req : UpdateEndpointRequest) (db : DB) :
    Except StoreError (Endpoint × DB) := do
  let current ← selectRow db.endpoints fun e ↦ e.tenantID == tenantID && e.id == endpointID
  let changed := current.changed req
  require ([changed.name, changed.url, changed.retryPolicyID].all textAccepts) .failed
  let endpoints := db.endpoints.modify
    (fun e ↦ if e.tenantID = tenantID ∧ e.id = endpointID then e.changed req else e)
    (fun e ↦ by split <;> rfl) (fun _ ↦ rfl)
  return (changed, { db with endpoints })

def deleteEndpoint (tenantID endpointID reason : String) : DB → Except StoreError (Endpoint × DB) :=
  updateEndpoint tenantID endpointID
    { name := none, url := none, state := some "disabled", retryPolicyID := none, reason }

/-! ## Services -/

/-- `ControlService.UpdateEndpoint`. -/
@[irreducible]
def controlUpdateEndpoint (validate : String → Option String) (tenantID endpointID : String)
    (req : UpdateEndpointRequest) : Work Endpoint :=
  (.done (req.accepted validate endpointID) : Work _).bind fun req ↦
    transaction fun _ ↦ updateEndpoint tenantID endpointID req

/-- `ControlService.DeleteEndpoint`. -/
@[irreducible]
def controlDeleteEndpoint (tenantID endpointID reason : String) : Work Endpoint :=
  (.done (requireEndpointAndReason endpointID reason) : Work _).bind fun _ ↦
    transaction fun _ ↦ deleteEndpoint tenantID endpointID reason

/-! ## What becomes of the circuits -/

/-- The same endpoint with the same circuit. -/
structure SameCircuit (e e' : Endpoint) : Prop where
  id : e'.id = e.id
  tenantID : e'.tenantID = e.tenantID
  failureCount : e'.failureCount = e.failureCount
  circuitState : e'.circuitState = e.circuitState
  disabledUntil : e'.disabledUntil = e.disabledUntil

theorem SameCircuit.refl (e : Endpoint) : SameCircuit e e := ⟨rfl, rfl, rfl, rfl, rfl⟩

/-- Every endpoint keeps its circuit. -/
def CircuitsKept (db db' : DB) : Prop :=
  ∀ e' ∈ db'.endpoints, ∃ e ∈ db.endpoints, SameCircuit e e'

variable {db db' : DB}

theorem CircuitsKept.of_eq (h : db'.endpoints = db.endpoints) : CircuitsKept db db' :=
  fun e he ↦ ⟨e, h ▸ he, .refl e⟩

theorem updateEndpoint_eq_ok (h : updateEndpoint tenantID endpointID req db = .ok (e, db')) :
    CircuitsKept db db' ∧ db' = { db with endpoints := db'.endpoints } := by
  obtain ⟨_, -, h⟩ := bind_eq_ok.mp h
  obtain ⟨-, h⟩ := seq_eq_ok.mp h
  cases h
  refine ⟨fun e' he' ↦ ?_, rfl⟩
  obtain ⟨e, he, rfl⟩ := List.mem_map.mp he'
  refine ⟨e, he, ?_⟩
  split
  · exact ⟨rfl, rfl, rfl, rfl, rfl⟩
  · exact .refl e

end Webhookery.Store
