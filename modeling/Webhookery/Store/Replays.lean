import Webhookery.Store.Deliveries

/-!
# Replay jobs

Creating, approving, pausing, resuming, canceling and processing replay jobs, and releasing dead
letters through them. Creating a job reads the approval policies and counts the deliveries in
statements of their own before its transaction.
-/

namespace Webhookery.Store

open Go Relational Provider

/-! ## Approval policies -/

/-- The route and the source of a delivery. -/
def deliveryRouteSource (tenantID deliveryID : String) (db : DB) : Option (String × String) := do
  let d ← db.deliveries.find? fun d ↦ d.tenantID == tenantID && d.id == deliveryID
  let e ← db.events.find? fun e ↦ e.tenantID == d.tenantID && e.id == d.eventID
  return (d.routeID, e.sourceID)

/-- The active routes that match a source and an event type. -/
def activeRouteIDs (tenantID sourceID eventType : String) (db : DB) : List String :=
  (db.routes.rows.filter (Route.matches tenantID sourceID eventType)).map Route.id

/-- The routes that created deliveries of an event. -/
def originalRouteIDs (tenantID eventID : String) (db : DB) : List String :=
  ((db.deliveries.rows.filter fun d ↦
    d.tenantID == tenantID && d.eventID == eventID && d.routeID != "").map Delivery.routeID).dedup

/-- Active policies that require approval. -/
def ReplayApprovalPolicy.applies (tenantID : String) (scope : PolicyScope) (scopeIDs : List String)
    (p : ReplayApprovalPolicy) : Bool :=
  p.tenantID == tenantID && p.scope == scope && scopeIDs.contains p.scopeID && p.state == .active &&
    p.requireApproval

section

variable (tenantID : String) (req : ReplayRequest)

def policyFor (scope : PolicyScope) (scopeIDs : List String) (db : DB) : Option ReplayApprovalPolicy :=
  db.replayPolicies.firstBy (ReplayApprovalPolicy.applies tenantID scope scopeIDs)
    (fun p q ↦ p.updatedAt > q.updatedAt)

/-- The routes and the source of the delivery a replay is about. -/
def deliveryScope : Work (List String × String) :=
  if req.deliveryID = "" then return ([], "")
  else do
    match ← query (fun db ↦ .ok (deliveryRouteSource tenantID req.deliveryID db)) with
    | none => return ([], "")
    | some (routeID, sourceID) => return (if routeID = "" then [] else [routeID], sourceID)

/-- The active routes of a source, when there is one. -/
def routesOfSource (sourceID eventType : String) : Work (List String) :=
  if sourceID = "" then return []
  else query fun db ↦ .ok (activeRouteIDs tenantID sourceID eventType db)

/-- The routes the event was delivered by, for a replay with the original configuration. -/
def routesOfDeliveries : Work (List String) :=
  if req.configMode = some .original then
    query fun db ↦ .ok (originalRouteIDs tenantID req.eventID db)
  else return []

/-- The routes and the source of the event a replay is about. Without such an event the source of
the delivery stays. -/
def eventScope (sourceID : String) : Work (List String × String) :=
  if req.eventID = "" then return ([], sourceID)
  else do
    let found ← query fun db ↦ .ok (db.events.find? fun e ↦ e.tenantID == tenantID && e.id == req.eventID)
    let sourceID := (found.map Event.sourceID).getD sourceID
    let eventType := (found.map Event.type).getD ""
    let current ← routesOfSource tenantID sourceID eventType
    let original ← routesOfDeliveries tenantID req
    return (current ++ original, sourceID)

/-- The policy of a scope, unless the scope is empty. -/
def scopePolicy (scope : PolicyScope) (scopeIDs : List String) : Work (Option ReplayApprovalPolicy) :=
  if scopeIDs = [] then return none
  else query fun db ↦ .ok (policyFor tenantID scope scopeIDs db)

/-- `replayApprovalPolicyForReplay`: the policy of a route, else of the source, else of the tenant. -/
def replayApprovalPolicyForReplay : Work (Option ReplayApprovalPolicy) := do
  let (deliveryRoutes, deliverySource) ← deliveryScope tenantID req
  let (eventRoutes, sourceID) ← eventScope tenantID req deliverySource
  let ofRoute ← scopePolicy tenantID .route (deliveryRoutes ++ eventRoutes)
  if ofRoute.isSome then return ofRoute
  let ofSource ← scopePolicy tenantID .source (if sourceID = "" then [] else [sourceID])
  if ofSource.isSome then return ofSource
  scopePolicy tenantID .tenant [""]

/-! ## Creating jobs -/

/-- How many deliveries a replay of an event would create. -/
def dryRunEvent : Work Nat :=
  if req.eventID = "" then return 0
  else if req.configMode = some .original then
    query fun db ↦ .ok (originalDeliveries tenantID req.eventID db).length
  else do
    let event ← query (getEvent tenantID req.eventID)
    if event.verified then
      query fun db ↦ .ok
        ((db.subscriptions.rows.filter (Subscription.matches tenantID event.type)).length +
          (activeRouteIDs tenantID event.sourceID event.type db).length)
    else return 0

def dryRunDelivery : Work Nat :=
  if req.deliveryID = "" then return 0
  else query fun db ↦ .ok (db.deliveries.rows.filter fun d ↦
    d.tenantID == tenantID && d.id == req.deliveryID).length

/-- The total of `DryRunReplay`. -/
def dryRunReplay : Work Nat := do
  let ofEvent ← dryRunEvent tenantID req
  let ofDelivery ← dryRunDelivery tenantID req
  return ofEvent + ofDelivery

end

def hour : Duration := 60 * minute

def replayApprovalDefaultExpiry : Duration := 24 * hour

def replayReasonOperatorRequested : String := "operator_requested"

/-- The defaults of a replay request. -/
def ReplayRequest.withDefaults (req : ReplayRequest) : ReplayRequest :=
  { req with
    configMode := some (req.configMode.getD .current),
    reasonCode := orElseString (trimSpace req.reasonCode) replayReasonOperatorRequested,
    reason := trimSpace req.reason }

/-- The request after the approval policy that applies to it. -/
def ReplayRequest.underPolicy (req : ReplayRequest) (policy : Option ReplayApprovalPolicy)
    (now : Time) : ReplayRequest :=
  match policy with
  | none => req
  | some p =>
    let seconds :=
      if p.defaultExpirySeconds ≤ 0 then replayApprovalDefaultExpiry / second
      else p.defaultExpirySeconds
    { req with
      requireApproval := true,
      approvalExpiresAt := some (req.approvalExpiresAt.getD (now + wrapInt64 (seconds * second))) }

/-- A request that requires approval expires. -/
def ReplayRequest.withExpiry (req : ReplayRequest) (now : Time) : ReplayRequest :=
  if req.requireApproval then
    { req with approvalExpiresAt := some (req.approvalExpiresAt.getD (now + replayApprovalDefaultExpiry)) }
  else req

def replayJobRow (env : Env) (tenantID actorID : String) (req : ReplayRequest) (total : Nat) : ReplayJob where
  id := env.mustID "rpl" 0
  tenantID := tenantID
  state := if req.requireApproval then .pendingApproval else .scheduled
  request := req
  createdBy := actorID
  totalItems := total
  processedItems := 0
  configMode := req.configMode.getD .current
  rateLimitPerMinute := req.rateLimitPerMinute
  approvalRequired := req.requireApproval
  approvalExpiresAt := req.approvalExpiresAt.map timestamptz
  approvedBy := ""
  approvedAt := none

theorem replayJobRow_state (env : Env) (tenantID actorID : String) (req : ReplayRequest) (total : Nat) :
    (replayJobRow env tenantID actorID req total).state =
      if (replayJobRow env tenantID actorID req total).approvalRequired then .pendingApproval
      else .scheduled := rfl

/-- A job that needs no approval is queued at once. -/
def queueReplayJob (env : Env) (job : ReplayJob) (db : DB) : Except StoreError DB :=
  if job.approvalRequired then .ok db else insertOutbox env job.tenantID .replayJob job.id db

/-- The transaction of `CreateReplay`. -/
def insertReplayJob (tenantID actorID : String) (req : ReplayRequest) (total : Nat) (env : Env)
    (db : DB) : Except StoreError (ReplayJob × DB) := do
  let job := replayJobRow env tenantID actorID req total
  let replayJobs ← insertRow db.replayJobs job
  let db ← queueReplayJob env job { db with replayJobs }
  return (job, db)

/-- The expiry of a request that requires approval is in the future. -/
def requireFutureExpiry (req : ReplayRequest) : Work Unit :=
  if req.requireApproval then do
    let now ← clockNow
    if now < req.approvalExpiresAt.getD now then return ()
    else .fail (.invalidInput "approval_expires_at must be in the future")
  else return ()

def createReplay (tenantID actorID : String) (req : ReplayRequest) : Work ReplayJob := do
  let req := req.withDefaults
  let policy ← replayApprovalPolicyForReplay tenantID req
  let now ← clockNow
  let req := (req.underPolicy policy now).withExpiry now
  requireFutureExpiry req
  let total ← dryRunReplay tenantID req
  transaction (insertReplayJob tenantID actorID req total)

/-! ## Deciding about jobs -/

/-- `UPDATE replay_jobs` of the rows that meet a condition. -/
def updateReplayJobs (p : ReplayJob → Bool) (f : ReplayJob → ReplayJob) (hid : ∀ j, (f j).id = j.id) (db : DB) : DB :=
  { db with
    replayJobs := db.replayJobs.modify (fun j ↦ if p j then f j else j)
      (fun j ↦ by split; exacts [hid j, rfl]) (fun _ ↦ rfl) }

/-- An update whose condition no job meets. -/
theorem updateReplayJobs_eq_self (h : ∀ j ∈ db.replayJobs, ¬p j = true) : updateReplayJobs p f hid db = db := by
  have hjobs : (updateReplayJobs p f hid db).replayJobs = db.replayJobs :=
    Table.eq_of_rows_map rfl fun j hj ↦ if_neg (h j hj)
  exact congrArg (fun t ↦ { db with replayJobs := t }) hjobs

/-- Whether a job waits for the approval of somebody else than its creator. -/
def ReplayJob.approvable (tenantID jobID actorID : String) (now : Time) (j : ReplayJob) : Bool :=
  j.tenantID == tenantID && j.id == jobID && j.createdBy != actorID && j.state == .pendingApproval &&
    j.approvalRequired && j.approvalExpiresAt.any (now < ·)

def approveReplayJob (tenantID jobID actorID : String) (env : Env) (db : DB) :
    Except StoreError (Unit × DB) := do
  let approvable := ReplayJob.approvable tenantID jobID actorID env.now
  let _ ← selectRow db.replayJobs approvable
  let db ← insertOutbox env tenantID .replayJob jobID
    (updateReplayJobs approvable
      (fun j ↦ { j with
        state := .scheduled, approvedBy := actorID, approvedAt := some (timestamptz env.now) })
      (fun _ ↦ rfl) db)
  return ((), db)

/-- The states from which a job changes to another one by hand. -/
def ReplayState.mayBecome (new old : ReplayState) : Bool :=
  !(old == .completed || old == .canceled || new == .scheduled && old == .pendingApproval)

def updateReplayState (tenantID jobID : String) (state : ReplayState) (db : DB) :
    Except StoreError (Unit × DB) := do
  let guard := fun j : ReplayJob ↦ j.tenantID == tenantID && j.id == jobID && state.mayBecome j.state
  let _ ← selectRow db.replayJobs guard
  return ((), updateReplayJobs guard (fun j ↦ { j with state }) (fun _ ↦ rfl) db)

def pauseReplayJob (tenantID jobID : String) : DB → Except StoreError (Unit × DB) :=
  updateReplayState tenantID jobID .paused

def resumeReplayJob (tenantID jobID : String) : DB → Except StoreError (Unit × DB) :=
  updateReplayState tenantID jobID .scheduled

def cancelReplayJob (tenantID jobID : String) : DB → Except StoreError (Unit × DB) :=
  updateReplayState tenantID jobID .canceled

/-! ### Jobs that were created or changed -/

section Committed

variable {tenantID jobID actorID : String} {env : Env} {db db' : DB}

theorem insertReplayJob_eq_ok (h : insertReplayJob tenantID actorID req total env db = .ok (job, db')) :
    job = replayJobRow env tenantID actorID req total ∧
      ∃ jobs outbox, jobs.rows = db.replayJobs.rows ++ [job] ∧
        outbox.rows = db.outbox.rows ++
          (if job.approvalRequired then [] else [outboxRow env job.tenantID .replayJob job.id]) ∧
        db' = { db with replayJobs := jobs, outbox := outbox } := by
  obtain ⟨jobs, hjobs, h⟩ := bind_eq_ok.mp h
  obtain ⟨_, hqueue, h⟩ := bind_eq_ok.mp h
  cases h
  have hrows := Table.rows_insert? (insertRow_eq_ok.mp hjobs)
  refine ⟨rfl, ?_⟩
  unfold queueReplayJob at hqueue
  split at hqueue
  case isTrue hrequired =>
    cases hqueue
    exact ⟨jobs, db.outbox, hrows, by rw [if_pos hrequired, List.append_nil], rfl⟩
  case isFalse hrequired =>
    obtain ⟨t, ht, rfl⟩ := insertOutbox_eq_ok.mp hqueue
    exact ⟨jobs, t, hrows, by rw [if_neg hrequired, Table.rows_insert? ht], rfl⟩

theorem approveReplayJob_eq_ok (h : approveReplayJob tenantID jobID actorID env db = .ok ((), db')) :
    (∃ j ∈ db.replayJobs, j.approvable tenantID jobID actorID env.now = true) ∧
      ∃ jobs outbox, jobs.rows = db.replayJobs.rows.map (fun j ↦
          if j.approvable tenantID jobID actorID env.now then
            { j with
              state := .scheduled, approvedBy := actorID, approvedAt := some (timestamptz env.now) }
          else j) ∧
        outbox.rows = db.outbox.rows ++ [outboxRow env tenantID .replayJob jobID] ∧
        db' = { db with replayJobs := jobs, outbox := outbox } := by
  obtain ⟨j, hselect, h⟩ := bind_eq_ok.mp h
  obtain ⟨_, hqueue, h⟩ := bind_eq_ok.mp h
  cases h
  obtain ⟨t, ht, rfl⟩ := insertOutbox_eq_ok.mp hqueue
  exact ⟨⟨j, mem_of_selectRow hselect⟩, _, t, rfl, Table.rows_insert? ht, rfl⟩

theorem updateReplayState_eq_ok (h : updateReplayState tenantID jobID state db = .ok ((), db')) :
    (∃ j ∈ db.replayJobs, j.tenantID = tenantID ∧ j.id = jobID ∧ state.mayBecome j.state = true) ∧
      ∃ jobs, jobs.rows = db.replayJobs.rows.map (fun j ↦
          if j.tenantID == tenantID && j.id == jobID && state.mayBecome j.state then { j with state }
          else j) ∧
        db' = { db with replayJobs := jobs } := by
  obtain ⟨j, hselect, h⟩ := bind_eq_ok.mp h
  cases h
  obtain ⟨hj, hguard⟩ := mem_of_selectRow hselect
  simp only [Bool.and_eq_true, beq_iff_eq] at hguard
  exact ⟨⟨j, hj, hguard.1.1, hguard.1.2, hguard.2⟩, _, rfl, rfl⟩

end Committed

/-! ## Processing jobs -/

structure ReplayJobWork where
  request : ReplayRequest
  state : ReplayState
  configMode : ConfigMode
  rateLimitPerMinute : Int

/-- What a worker reads of a job. -/
def ReplayJob.work (job : ReplayJob) : ReplayJobWork where
  request := { job.request with
    configMode := some (job.request.configMode.getD job.configMode)
    rateLimitPerMinute :=
      if job.request.rateLimitPerMinute = 0 then job.rateLimitPerMinute
      else job.request.rateLimitPerMinute }
  state := job.state
  configMode := job.configMode
  rateLimitPerMinute := job.rateLimitPerMinute

def getReplayJobWork (tenantID jobID : String) (db : DB) : Except StoreError ReplayJobWork := do
  let job ← selectRow db.replayJobs fun j ↦ j.tenantID == tenantID && j.id == jobID
  return job.work

theorem getReplayJobWork_eq_ok (h : getReplayJobWork tenantID jobID db = .ok work) :
    ∃ j ∈ db.replayJobs, j.tenantID = tenantID ∧ j.id = jobID ∧ work.state = j.state ∧
      work.request.eventID = j.request.eventID ∧ work.request.deliveryID = j.request.deliveryID ∧
      work.configMode = j.configMode := by
  obtain ⟨j, hselect, h⟩ := bind_eq_ok.mp h
  cases h
  obtain ⟨hj, hguard⟩ := mem_of_selectRow hselect
  simp only [Bool.and_eq_true, beq_iff_eq] at hguard
  exact ⟨j, hj, hguard.1, hguard.2, rfl, rfl, rfl, rfl⟩

theorem getReplayJobWork_of_mem (hjob : job ∈ db.replayJobs) :
    getReplayJobWork job.tenantID job.id db = .ok job.work := by
  unfold getReplayJobWork
  rw [selectRow_key hjob rfl rfl]
  rfl

/-- `StartReplayJob`: whether the job was still scheduled. -/
def startReplayJob (tenantID jobID : String) (db : DB) : Except StoreError (Bool × DB) :=
  let scheduled := fun j : ReplayJob ↦ j.tenantID == tenantID && j.id == jobID && j.state == .scheduled
  .ok (db.replayJobs.rows.any scheduled,
    updateReplayJobs scheduled (fun j ↦ { j with state := .running }) (fun _ ↦ rfl) db)

def completeReplayJob (tenantID jobID : String) (processedItems : Nat) (db : DB) : Except StoreError (Unit × DB) :=
  .ok ((), updateReplayJobs
    (fun j ↦ j.tenantID == tenantID && j.id == jobID && j.state != .canceled)
    (fun j ↦ { j with state := .completed, processedItems }) (fun _ ↦ rfl) db)

def insertReplayNoopItem (tenantID jobID eventID : String) (configMode : ConfigMode)
    (errorText : String) (env : Env) (db : DB) : Except StoreError (Unit × DB) := do
  require (db.replayJobs.rows.any (·.id == jobID) && db.events.rows.any (·.id == eventID)) .failed
  let replayItems ← insertRow db.replayItems
    { id := env.mustID "rpi" 0, tenantID, replayJobID := jobID, eventID, originalDeliveryID := "",
      newDeliveryID := "", configMode, routeVersionID := "", subscriptionVersionID := "",
      retryPolicyID := "", adapterVersionID := "", normalizedEnvelopeID := "",
      transformationVersionID := "", deliveryPayloadID := "", deliveryPayloadSHA256 := "",
      error := errorText }
  return ((), { db with replayItems })

/-! ## Dead letters -/

/-- The second transaction of `ReleaseDeadLetter`. -/
def markDeadLetterReleased (tenantID entryID : String) (db : DB) : Except StoreError (Unit × DB) :=
  .ok ((), { db with
    deadLetters := db.deadLetters.modify
      (fun d ↦ if d.tenantID = tenantID ∧ d.id = entryID then { d with released := true } else d)
      (fun d ↦ by split <;> rfl) (fun _ ↦ rfl) })

/-- The replay of a dead letter: of its delivery, or of its event when it names no delivery. -/
def deadLetterReplay (entry : DeadLetterEntry) (reasonCode reason : String) : ReplayRequest where
  eventID := if entry.deliveryID = "" then entry.eventID else ""
  deliveryID := entry.deliveryID
  endpointID := ""
  reasonCode := reasonCode
  reason := reason
  configMode := none
  rateLimitPerMinute := 0
  requireApproval := false
  approvalExpiresAt := none

def releaseDeadLetter (tenantID entryID actorID reasonCode reason : String) : Work ReplayJob := do
  let entry ← query fun db ↦ selectRow db.deadLetters fun d ↦
    d.tenantID == tenantID && d.id == entryID && !d.released
  let job ← createReplay tenantID actorID (deadLetterReplay entry reasonCode reason)
  transaction fun _ ↦ markDeadLetterReleased tenantID entryID
  return job

/-- The oldest hundred open entries of a tenant. -/
def openDeadLetterIDs (tenantID : String) (db : DB) : List String :=
  (((db.deadLetters.rows.filter fun d ↦ d.tenantID == tenantID && !d.released).insertionSort fun d d' ↦
    d.createdAt ≤ d'.createdAt).take 100).map DeadLetterEntry.id

/-- `BulkReleaseDeadLetter`: the named entries, or the oldest open ones, until one fails. -/
def bulkReleaseDeadLetter (tenantID : String) (entryIDs : List String)
    (actorID reasonCode reason : String) : Work Unit := do
  let entryIDs ← (if entryIDs = [] then query fun db ↦ .ok (openDeadLetterIDs tenantID db)
    else return entryIDs : Work (List String))
  .forEach (fun entryID ↦ (releaseDeadLetter tenantID entryID actorID reasonCode reason).discard) entryIDs

end Webhookery.Store
