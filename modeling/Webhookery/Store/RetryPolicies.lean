import Webhookery.Store.Database

/-!
# Retry policies

Creating, updating and deleting retry policies. A row is never rewritten: an update adds a row with a
new identifier and the next version of its name, and a deletion disables the row. The control service
checks the limits of every field before the store is asked.
-/

namespace Webhookery.Store

open Go Relational

/-! ## Requests -/

structure CreateRetryPolicyRequest where
  name : String
  (maxAttempts maxDurationSeconds initialDelaySeconds maxDelaySeconds rateLimitPerMinute : Int)
  state : String

structure UpdateRetryPolicyRequest where
  name : Option String
  (maxAttempts maxDurationSeconds initialDelaySeconds maxDelaySeconds rateLimitPerMinute : Option Int)
  state : Option String
  reason : String

/-- The check of a field with a smallest and a largest value. -/
def requireBetween (field : String) (low high value : Int) : Except StoreError Unit :=
  require (decide (low ≤ value ∧ value ≤ high))
    (.invalidInput (field ++ " must be between " ++ formatInt low ++ " and " ++ formatInt high))

def requireMaxAttempts : Int → Except StoreError Unit := requireBetween "max_attempts" 1 100

def requireMaxDuration : Int → Except StoreError Unit :=
  requireBetween "max_duration_seconds" 1 (30 * 24 * 60 * 60)

def requireMaxDelay : Int → Except StoreError Unit :=
  requireBetween "max_delay_seconds" 1 (24 * 60 * 60)

def requireRateLimit : Int → Except StoreError Unit :=
  requireBetween "rate_limit_per_minute" 0 60000

def requirePolicyState (state : String) : Except StoreError Unit :=
  require (state == "active" || state == "disabled") (.invalidInput "state must be active or disabled")

/-- The state that an accepted text stands for. -/
def policyStateOf (state : String) : ConfigState := if state = "active" then .active else .disabled

def validateRetryPolicy (req : CreateRetryPolicyRequest) : Except StoreError Unit := do
  requirePolicyState req.state
  requireMaxAttempts req.maxAttempts
  requireMaxDuration req.maxDurationSeconds
  require (decide (0 < req.initialDelaySeconds ∧ req.initialDelaySeconds ≤ req.maxDelaySeconds))
    (.invalidInput "initial_delay_seconds must be positive and no greater than max_delay_seconds")
  requireMaxDelay req.maxDelaySeconds
  requireRateLimit req.rateLimitPerMinute

/-- `normalizeState`: no state stands for the active one. -/
def normalizeState (state : String) : String :=
  if trimSpace state = "" then "active" else trimSpace state

/-- The checks of `ControlService.CreateRetryPolicy`. -/
def CreateRetryPolicyRequest.accepted (req : CreateRetryPolicyRequest) :
    Except StoreError CreateRetryPolicyRequest := do
  let req := { req with name := trimSpace req.name, state := normalizeState req.state }
  require (req.name != "") (.invalidInput "name is required")
  validateRetryPolicy req
  return req

/-- The check of a field that is given. -/
def requireGiven {α : Type} (check : α → Except StoreError Unit) : Option α → Except StoreError Unit
  | none => .ok ()
  | some value => check value

/-- The checks of `ControlService.UpdateRetryPolicy`. -/
def UpdateRetryPolicyRequest.accepted (req : UpdateRetryPolicyRequest) (retryPolicyID : String) :
    Except StoreError UpdateRetryPolicyRequest := do
  require (trimSpace retryPolicyID != "" && trimSpace req.reason != "")
    (.invalidInput "retry_policy_id and reason are required")
  require (req.name.isSome || req.maxAttempts.isSome || req.maxDurationSeconds.isSome ||
    req.initialDelaySeconds.isSome || req.maxDelaySeconds.isSome || req.rateLimitPerMinute.isSome ||
    req.state.isSome) (.invalidInput "at least one retry policy field is required")
  let name := req.name.map trimSpace
  require (name != some "") (.invalidInput "name cannot be empty")
  requireGiven requireMaxAttempts req.maxAttempts
  requireGiven requireMaxDuration req.maxDurationSeconds
  requireGiven (fun delay ↦ require (decide (0 < delay))
    (.invalidInput "initial_delay_seconds must be positive")) req.initialDelaySeconds
  requireGiven requireMaxDelay req.maxDelaySeconds
  requireGiven (fun delay ↦ require (req.maxDelaySeconds.all (delay ≤ ·))
    (.invalidInput "initial_delay_seconds must be no greater than max_delay_seconds"))
    req.initialDelaySeconds
  requireGiven requireRateLimit req.rateLimitPerMinute
  let state := req.state.map trimSpace
  requireGiven requirePolicyState state
  return { req with name, state }

/-- The check of `ControlService.DeleteRetryPolicy`. -/
def acceptedDeletion (retryPolicyID reason : String) : Except StoreError Unit :=
  require (trimSpace retryPolicyID != "" && trimSpace reason != "")
    (.invalidInput "retry_policy_id and reason are required")

/-! ## Transactions -/

/-- `SELECT COALESCE(max(version),0)+1 FROM retry_policies WHERE tenant_id=$1 AND name=$2`. -/
def nextPolicyVersion (tenantID name : String) (db : DB) : Nat :=
  ((db.retryPolicies.rows.filter fun p ↦ p.tenantID == tenantID && p.name == name).map
    RetryPolicy.version).foldl max 0 + 1

def insertRetryPolicy (p : RetryPolicy) (db : DB) : Except StoreError (RetryPolicy × DB) := do
  require ([p.tenantID, p.name, p.createdBy].all textAccepts) .failed
  let retryPolicies ← insertRow db.retryPolicies p
  return (p, { db with retryPolicies })

def createRetryPolicy (tenantID actorID : String) (req : CreateRetryPolicyRequest) (env : Env) (db : DB) :
    Except StoreError (RetryPolicy × DB) :=
  insertRetryPolicy
    { id := env.mustID "rtp" 0, tenantID, name := req.name,
      version := nextPolicyVersion tenantID req.name db, state := policyStateOf req.state,
      maxAttempts := req.maxAttempts, maxDurationSeconds := req.maxDurationSeconds,
      initialDelaySeconds := req.initialDelaySeconds, maxDelaySeconds := req.maxDelaySeconds,
      rateLimitPerMinute := req.rateLimitPerMinute, createdBy := actorID } db

/-- The row that an update adds, before its version. -/
def changedRetryPolicy (actorID : String) (req : UpdateRetryPolicyRequest) (env : Env)
    (current : RetryPolicy) : RetryPolicy :=
  { current with
    id := env.mustID "rtp" 0, createdBy := actorID, name := req.name.getD current.name,
    maxAttempts := req.maxAttempts.getD current.maxAttempts,
    maxDurationSeconds := req.maxDurationSeconds.getD current.maxDurationSeconds,
    initialDelaySeconds := req.initialDelaySeconds.getD current.initialDelaySeconds,
    maxDelaySeconds := req.maxDelaySeconds.getD current.maxDelaySeconds,
    rateLimitPerMinute := req.rateLimitPerMinute.getD current.rateLimitPerMinute,
    state := (req.state.map policyStateOf).getD current.state }

def updateRetryPolicy (tenantID retryPolicyID actorID : String) (req : UpdateRetryPolicyRequest)
    (env : Env) (db : DB) : Except StoreError (RetryPolicy × DB) := do
  let current ← selectRow db.retryPolicies fun p ↦ p.tenantID == tenantID && p.id == retryPolicyID
  let changed := changedRetryPolicy actorID req env current
  require (decide (changed.initialDelaySeconds ≤ changed.maxDelaySeconds))
    (.invalidInput "initial_delay_seconds must be no greater than max_delay_seconds")
  insertRetryPolicy { changed with version := nextPolicyVersion tenantID changed.name db } db

def deleteRetryPolicy (tenantID retryPolicyID : String) (db : DB) :
    Except StoreError (RetryPolicy × DB) := do
  let p ← selectRow db.retryPolicies fun p ↦ p.tenantID == tenantID && p.id == retryPolicyID
  let retryPolicies := db.retryPolicies.modify
    (fun p ↦ if p.tenantID = tenantID ∧ p.id = retryPolicyID then { p with state := .disabled } else p)
    (fun p ↦ by split <;> rfl) (fun p ↦ by split <;> rfl)
  return ({ p with state := .disabled }, { db with retryPolicies })

/-! ## Services -/

/-- `ControlService.CreateRetryPolicy`. -/
@[irreducible]
def controlCreateRetryPolicy (tenantID actorID : String) (req : CreateRetryPolicyRequest) : Work RetryPolicy :=
  (.done req.accepted : Work _).bind fun req ↦ transaction (createRetryPolicy tenantID actorID req)

/-- `ControlService.UpdateRetryPolicy`. -/
@[irreducible]
def controlUpdateRetryPolicy (tenantID retryPolicyID actorID : String) (req : UpdateRetryPolicyRequest) :
    Work RetryPolicy :=
  (.done (req.accepted retryPolicyID) : Work _).bind fun req ↦
    transaction (updateRetryPolicy tenantID retryPolicyID actorID req)

/-- `ControlService.DeleteRetryPolicy`. -/
@[irreducible]
def controlDeleteRetryPolicy (tenantID retryPolicyID reason : String) : Work RetryPolicy :=
  (.done (acceptedDeletion retryPolicyID reason) : Work _).bind fun _ ↦
    transaction fun _ ↦ deleteRetryPolicy tenantID retryPolicyID

/-! ## What becomes of the rows -/

/-- The limits that every policy keeps. -/
structure RetryPolicy.Limited (p : RetryPolicy) : Prop where
  maxAttempts : 1 ≤ p.maxAttempts ∧ p.maxAttempts ≤ 100
  maxDuration : 1 ≤ p.maxDurationSeconds ∧ p.maxDurationSeconds ≤ 30 * 24 * 60 * 60
  initialDelay : 0 < p.initialDelaySeconds ∧ p.initialDelaySeconds ≤ p.maxDelaySeconds
  maxDelay : 1 ≤ p.maxDelaySeconds ∧ p.maxDelaySeconds ≤ 24 * 60 * 60
  rateLimit : 0 ≤ p.rateLimitPerMinute ∧ p.rateLimitPerMinute ≤ 60000

/-- Policies are added within their limits, and only the state of a row changes. -/
structure PoliciesKept (db db' : DB) : Prop where
  kept : ∀ p ∈ db.retryPolicies, ∃ p' ∈ db'.retryPolicies, p' = { p with state := p'.state }
  limited : (∀ p ∈ db.retryPolicies, p.Limited) → ∀ p ∈ db'.retryPolicies, p.Limited

variable {db db' : DB}

theorem PoliciesKept.of_eq (h : db'.retryPolicies = db.retryPolicies) : PoliciesKept db db' := by
  refine ⟨fun p hp ↦ ⟨p, ?_, rfl⟩, fun hlimited p hp ↦ hlimited p ?_⟩
  · rwa [h]
  · rwa [← h]

section Committed

variable {env : Env} {tenantID actorID retryPolicyID : String} {p : RetryPolicy}

theorem requireBetween_eq_ok {field : String} {low high value : Int} :
    requireBetween field low high value = .ok () ↔ low ≤ value ∧ value ≤ high := by
  rw [requireBetween, require_eq_ok, decide_eq_true_eq]

theorem requireGiven_eq_ok {α : Type} {check : α → Except StoreError Unit} {given : Option α} :
    requireGiven check given = .ok () ↔ ∀ value ∈ given, check value = .ok () := by
  cases given <;> simp [requireGiven]

theorem valid_of_accepted {req req' : CreateRetryPolicyRequest} (h : req.accepted = .ok req') :
    validateRetryPolicy req' = .ok () := by
  obtain ⟨-, h⟩ := seq_eq_ok.mp h
  obtain ⟨hvalid, h⟩ := seq_eq_ok.mp h
  cases h
  exact hvalid

variable {req req' : UpdateRetryPolicyRequest}

theorem frame_of_insertRetryPolicy (h : insertRetryPolicy row db = .ok (p, db')) :
    db' = { db with retryPolicies := db'.retryPolicies } := by
  obtain ⟨-, _, -, hdb⟩ := require_insertRow_eq_ok.mp h
  cases hdb
  rfl

theorem policiesKept_of_insert (h : insertRetryPolicy row db = .ok (p, db'))
    (hlimited : (∀ p ∈ db.retryPolicies, p.Limited) → row.Limited) : PoliciesKept db db' := by
  obtain ⟨-, _, ht, hdb⟩ := require_insertRow_eq_ok.mp h
  cases hdb
  have hmem (p' : RetryPolicy) := Table.mem_insert? ht (r := p')
  refine ⟨fun p' hp' ↦ ⟨p', (hmem p').mpr (.inl hp'), rfl⟩, fun hall p' hp' ↦ ?_⟩
  rcases (hmem p').mp hp' with hold | rfl
  · exact hall p' hold
  · exact hlimited hall

theorem policiesKept_of_create {req : CreateRetryPolicyRequest} (hvalid : validateRetryPolicy req = .ok ())
    (h : createRetryPolicy tenantID actorID req env db = .ok (p, db')) : PoliciesKept db db' := by
  simp only [validateRetryPolicy, seq_eq_ok, requireMaxAttempts, requireMaxDuration, requireMaxDelay,
    requireRateLimit, requireBetween_eq_ok, require_eq_ok, decide_eq_true_eq] at hvalid
  obtain ⟨-, hattempts, hduration, hinitial, hdelay, hrate⟩ := hvalid
  exact policiesKept_of_insert h fun _ ↦ ⟨hattempts, hduration, hinitial, hdelay, hrate⟩

/-- A given value, or else the current one. -/
theorem getD_of_forall {Q : Int → Prop} {given : Option Int} {current : Int} (hgiven : ∀ n ∈ given, Q n)
    (hcurrent : Q current) : Q (given.getD current) := by
  cases given with
  | none => exact hcurrent
  | some n => exact hgiven n rfl

theorem policiesKept_of_update (haccepted : req.accepted retryPolicyID = .ok req')
    (h : updateRetryPolicy tenantID retryPolicyID actorID req' env db = .ok (p, db')) :
    PoliciesKept db db' := by
  simp only [UpdateRetryPolicyRequest.accepted, seq_eq_ok, requireGiven_eq_ok, requireMaxAttempts,
    requireMaxDuration, requireMaxDelay, requireRateLimit, requireBetween_eq_ok, require_eq_ok,
    decide_eq_true_eq] at haccepted
  obtain ⟨-, -, -, hattempts, hduration, hinitial, hdelay, -, hrate, -, haccepted⟩ := haccepted
  cases haccepted
  obtain ⟨current, hcurrent, h⟩ := bind_eq_ok.mp h
  obtain ⟨hordered, h⟩ := seq_eq_ok.mp h
  rw [require_eq_ok, decide_eq_true_eq] at hordered
  refine policiesKept_of_insert h fun hall ↦ ?_
  have hlimited := hall current (mem_of_selectRow hcurrent).1
  exact ⟨getD_of_forall hattempts hlimited.maxAttempts, getD_of_forall hduration hlimited.maxDuration,
    ⟨getD_of_forall hinitial hlimited.initialDelay.1, hordered⟩,
    getD_of_forall hdelay hlimited.maxDelay, getD_of_forall hrate hlimited.rateLimit⟩

theorem policiesKept_of_delete (h : deleteRetryPolicy tenantID retryPolicyID db = .ok (p, db')) :
    PoliciesKept db db' := by
  obtain ⟨_, -, h⟩ := bind_eq_ok.mp h
  cases h
  constructor
  case kept =>
    intro p' hp'
    refine ⟨_, List.mem_map_of_mem hp', ?_⟩
    split <;> rfl
  case limited =>
    intro hall p' hp'
    obtain ⟨p₀, hp₀, rfl⟩ := List.mem_map.mp hp'
    obtain ⟨hattempts, hduration, hinitial, hdelay, hrate⟩ := hall p₀ hp₀
    split <;> exact ⟨hattempts, hduration, hinitial, hdelay, hrate⟩

end Committed

end Webhookery.Store
