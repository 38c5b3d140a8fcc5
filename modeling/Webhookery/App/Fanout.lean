import Webhookery.Store.Replays
import Webhookery.Store.Outbox

/-!
# Delivery fanout

`DeliveryFanoutService`: the deliveries of a routed event, one for each matching subscription and
route, and the deliveries of a replay job in both configuration modes. Every delivery is a
transaction of its own, so that a worker may stop between any two of them.
-/

namespace Webhookery.App

open Go Store Provider

structure DeliveryFanoutOptions where
  replayJobID : String
  configMode : Option ConfigMode
  rateLimitPerMinute : Int
  allowRecovered : Bool

/-- The options of a live event. -/
def DeliveryFanoutOptions.live : DeliveryFanoutOptions := ⟨"", none, 0, false⟩

def replayScheduleDelay (index : Nat) (rateLimitPerMinute : Int) : Duration :=
  if index = 0 ∨ rateLimitPerMinute ≤ 0 then 0
  else
    let interval := minute / rateLimitPerMinute
    if interval ≤ 0 then 0 else wrapInt64 (index * interval)

def scheduledDeliveryAt (index : Nat) (rateLimitPerMinute : Int) : Work Time := do
  let now ← clockNow
  return now + replayScheduleDelay index rateLimitPerMinute

/-- Whether the deliveries of an event may be created: an unverified event only when it was
recovered and recovered events are allowed. -/
def fanoutAllowed (event : Event) (opts : DeliveryFanoutOptions) : Bool :=
  event.verified ||
    opts.allowRecovered && event.verifyReason == verificationReasonProviderAPIReconcile

section

variable (codec : PayloadCodec)

def targetRequest (tenantID eventID : String) (target : DeliveryFanoutTarget)
    (opts : DeliveryFanoutOptions) (nextAttemptAt : Time) : DeliverySnapshotRequest where
  tenantID := tenantID
  eventID := eventID
  endpointID := target.endpointID
  routeID := target.routeID
  routeVersionID := target.routeVersionID
  subscriptionID := target.subscriptionID
  subscriptionVersionID := target.subscriptionVersionID
  retryPolicyID := target.retryPolicyID
  replayJobID := opts.replayJobID
  originalDeliveryID := ""
  adapterVersionID := ""
  normalizedEnvelopeID := ""
  transformationVersionID := target.transformationVersionID
  deliveryPayloadMode := .materialize
  sourceDeliveryPayloadID := ""
  retrySeed := ""
  nextAttemptAt := nextAttemptAt
  configMode := opts.configMode.getD .current

def createDeliveryFromTarget (tenantID eventID : String) (target : DeliveryFanoutTarget)
    (index : Nat) (opts : DeliveryFanoutOptions) : Work DeliverySnapshotResult := do
  let at' ← scheduledDeliveryAt index opts.rateLimitPerMinute
  transaction (createDeliverySnapshot codec (targetRequest tenantID eventID target opts at'))

/-- The loop over the targets; the result counts the deliveries. -/
def createFromTargets (tenantID eventID : String) (opts : DeliveryFanoutOptions) :
    Nat → List DeliveryFanoutTarget → Work Nat
  | created, [] => return created
  | created, target :: rest => do
    let _ ← createDeliveryFromTarget codec tenantID eventID target created opts
    createFromTargets tenantID eventID opts (created + 1) rest

/-- `ListDeliveryFanoutTargets`: two statements. -/
def listDeliveryFanoutTargets (tenantID sourceID eventType : String) :
    Work (List DeliveryFanoutTarget) := do
  let subscriptions ← query fun db ↦ .ok (listSubscriptionTargets tenantID eventType db)
  let routes ← query fun db ↦ .ok (listRouteTargets tenantID sourceID eventType db)
  return subscriptions ++ routes

def createDeliveriesForEvent (tenantID eventID : String) (opts : DeliveryFanoutOptions) : Work Nat := do
  let event ← query (getEvent tenantID eventID)
  if fanoutAllowed event opts then do
    let targets ← listDeliveryFanoutTargets tenantID event.sourceID event.type
    createFromTargets codec tenantID eventID opts 0 targets
  else return 0

/-! ## Replays -/

/-- `deliverySnapshotRequestFromSource`, with the payload materialized. -/
def sourceRequest (tenantID : String) (source : DeliveryReplaySource) (opts : DeliveryFanoutOptions)
    (nextAttemptAt : Time) : DeliverySnapshotRequest where
  tenantID := tenantID
  eventID := source.eventID
  endpointID := source.endpointID
  routeID := source.routeID
  routeVersionID := source.routeVersionID
  subscriptionID := source.subscriptionID
  subscriptionVersionID := source.subscriptionVersionID
  retryPolicyID := source.retryPolicyID
  replayJobID := opts.replayJobID
  originalDeliveryID := source.id
  adapterVersionID := source.adapterVersionID
  normalizedEnvelopeID := source.normalizedEnvelopeID
  transformationVersionID := source.transformationVersionID
  deliveryPayloadMode := .materialize
  sourceDeliveryPayloadID := source.deliveryPayloadID
  retrySeed := ""
  nextAttemptAt := nextAttemptAt
  configMode := opts.configMode.getD .current

/-- The loop of `createDeliveriesFromOriginalEvent`: each original delivery is cloned. -/
def cloneOriginals (tenantID : String) (opts : DeliveryFanoutOptions) :
    Nat → List DeliveryReplaySource → Work Nat
  | created, [] => return created
  | created, original :: rest => do
    let at' ← scheduledDeliveryAt created opts.rateLimitPerMinute
    let _ ← transaction (createDeliverySnapshot codec
      { sourceRequest tenantID original opts at' with deliveryPayloadMode := .clone })
    cloneOriginals tenantID opts (created + 1) rest

def createDeliveriesFromOriginalEvent (tenantID eventID : String) (opts : DeliveryFanoutOptions) :
    Work Nat := do
  let originals ← query fun db ↦ .ok (listOriginalDeliveryReplaySources tenantID eventID db)
  cloneOriginals codec tenantID opts 0 originals

/-- The request of a replayed delivery under the current configuration. -/
def currentRequest (req : DeliverySnapshotRequest) (current : DeliveryFanoutTarget) : DeliverySnapshotRequest :=
  { req with
    endpointID := current.endpointID, routeVersionID := current.routeVersionID,
    subscriptionVersionID := current.subscriptionVersionID, retryPolicyID := current.retryPolicyID,
    transformationVersionID := current.transformationVersionID, adapterVersionID := "",
    normalizedEnvelopeID := "", sourceDeliveryPayloadID := "" }

/-- The request for one existing delivery, none when its route or subscription is not active any
more. -/
def existingRequest (tenantID : String) (source : DeliveryReplaySource) (opts : DeliveryFanoutOptions)
    (req : DeliverySnapshotRequest) : Work (Option DeliverySnapshotRequest) :=
  if opts.configMode ≠ some .original ∧ (source.routeID ≠ "" ∨ source.subscriptionID ≠ "") then do
    let current ← query fun db ↦
      .ok (getCurrentDeliveryFanoutTarget tenantID source.routeID source.subscriptionID db)
    return current.map (currentRequest req)
  else return some req

/-- A delivery is cloned in original mode when it has a payload. -/
def existingPayloadMode (source : DeliveryReplaySource) (opts : DeliveryFanoutOptions)
    (req : DeliverySnapshotRequest) : DeliverySnapshotRequest :=
  if source.deliveryPayloadID ≠ "" ∧ opts.configMode = some .original then
    { req with deliveryPayloadMode := .clone, sourceDeliveryPayloadID := source.deliveryPayloadID }
  else { req with deliveryPayloadMode := .materialize }

theorem existingPayloadMode_frame (source : DeliveryReplaySource) (opts : DeliveryFanoutOptions)
    (req : DeliverySnapshotRequest) :
    existingPayloadMode source opts req = { req with
      deliveryPayloadMode := (existingPayloadMode source opts req).deliveryPayloadMode
      sourceDeliveryPayloadID := (existingPayloadMode source opts req).sourceDeliveryPayloadID } := by
  unfold existingPayloadMode
  split <;> rfl

def createDeliveryFromExisting (tenantID deliveryID : String) (opts : DeliveryFanoutOptions) :
    Work Nat := do
  let source ← query (getDeliveryReplaySource tenantID deliveryID)
  let at' ← scheduledDeliveryAt 0 opts.rateLimitPerMinute
  match ← existingRequest tenantID source opts
      { sourceRequest tenantID source opts at' with originalDeliveryID := deliveryID } with
  | none => return 0
  | some req => do
    let _ ← transaction (createDeliverySnapshot codec (existingPayloadMode source opts req))
    return 1

/-- The item of a replay that selected nothing. -/
def recordNoop (tenantID jobID eventID : String) (mode : ConfigMode) (errorText : String) (count : Nat) : Work Unit :=
  if count = 0 then transaction (insertReplayNoopItem tenantID jobID eventID mode errorText)
  else return ()

/-- The deliveries a replay creates for the event it names. -/
def replayEvent (tenantID jobID eventID : String) (mode : ConfigMode) (opts : DeliveryFanoutOptions) : Work Nat :=
  if eventID = "" then return 0
  else
    match mode with
    | .original => do
      let count ← createDeliveriesFromOriginalEvent codec tenantID eventID opts
      recordNoop tenantID jobID eventID mode "no original deliveries found" count
      return count
    | .current => do
      let count ← createDeliveriesForEvent codec tenantID eventID opts
      recordNoop tenantID jobID eventID mode "no current route or subscription matched" count
      return count

/-- The delivery a replay creates for the delivery it names. -/
def replayDelivery (tenantID deliveryID : String) (opts : DeliveryFanoutOptions) : Work Nat :=
  if deliveryID = "" then return 0 else createDeliveryFromExisting codec tenantID deliveryID opts

/-- A replay job that was started. -/
def runReplayJob (tenantID jobID : String) (work : ReplayJobWork) : Work Unit := do
  let rateLimitPerMinute :=
    if work.rateLimitPerMinute = 0 then work.request.rateLimitPerMinute else work.rateLimitPerMinute
  let opts := ⟨jobID, some work.configMode, rateLimitPerMinute, false⟩
  let ofEvent ← replayEvent codec tenantID jobID work.request.eventID work.configMode opts
  let ofDelivery ← replayDelivery codec tenantID work.request.deliveryID opts
  transaction fun _ ↦ completeReplayJob tenantID jobID (ofEvent + ofDelivery)

/-- `CreateReplayDeliveries`: a paused or unapproved job is deferred, a finished one is done. -/
def createReplayDeliveries (tenantID jobID : String) : Work Unit := do
  let work ← query (getReplayJobWork tenantID jobID)
  match work.state with
  | .paused | .pendingApproval => .fail .deferred
  | .scheduled => do
    let started ← transaction fun _ ↦ startReplayJob tenantID jobID
    if started then runReplayJob codec tenantID jobID work else .fail .deferred
  | .running | .completed | .canceled => return ()

/-- `DeliveryFanoutService.ProcessOutbox`. -/
def processFanout (item : OutboxItem) : Work Unit :=
  match item.kind with
  | .routeEvent => do
    let _ ← createDeliveriesForEvent codec item.tenantID item.resourceID .live
    return ()
  | .routeRecoveredEvent => do
    let _ ← createDeliveriesForEvent codec item.tenantID item.resourceID
      { DeliveryFanoutOptions.live with allowRecovered := true }
    return ()
  | .replayJob => createReplayDeliveries codec item.tenantID item.resourceID
  | .reconciliationJob => return ()

end

/-! ## Properties of every step -/

/-- A property of programs that sequences keep and that the steps of a fanout have. -/
structure FanoutProperty (codec : PayloadCodec) (C : (α : Type) → Work α → Prop) : Prop where
  pure {α : Type} (a : α) : C α (.done (.ok a))
  bind {α β : Type} {p : Work α} {f : α → Work β} (hp : C α p) (hf : ∀ a, C β (f a)) : C β (p.bind f)
  query {α : Type} {q : DB → Except StoreError α} (hq : ∀ db, q db ≠ .error .deferred) : C α (query q)
  clockNow : C Time clockNow
  snapshot (req : DeliverySnapshotRequest) :
    C DeliverySnapshotResult (transaction (createDeliverySnapshot codec req))
  noop (tenantID jobID eventID : String) (mode : ConfigMode) (errorText : String) :
    C Unit (transaction (insertReplayNoopItem tenantID jobID eventID mode errorText))

namespace FanoutProperty

variable {codec : PayloadCodec} {C : (α : Type) → Work α → Prop} {tenantID : String}
  {opts : DeliveryFanoutOptions}

theorem scheduledDeliveryAt (h : FanoutProperty codec C) (index : Nat) (limit : Int) :
    C Time (scheduledDeliveryAt index limit) :=
  h.bind h.clockNow fun _ ↦ h.pure _

theorem createDeliveriesForEvent (h : FanoutProperty codec C) (eventID : String) :
    C Nat (createDeliveriesForEvent codec tenantID eventID opts) := by
  have hloop (targets : List DeliveryFanoutTarget) (n : Nat) :
      C Nat (createFromTargets codec tenantID eventID opts n targets) := by
    induction targets generalizing n with
    | nil => exact h.pure _
    | cons _ _ ih =>
      refine h.bind ?_ fun _ ↦ ih (n + 1)
      exact h.bind (h.scheduledDeliveryAt _ _) fun at' ↦ h.snapshot _
  have htargets (sourceID eventType : String) :
      C (List DeliveryFanoutTarget) (listDeliveryFanoutTargets tenantID sourceID eventType) :=
    h.bind (h.query fun _ ↦ nofun) fun _ ↦ h.bind (h.query fun _ ↦ nofun) fun _ ↦ h.pure _
  refine h.bind (h.query fun _ ↦ selectRow_ne_deferred) fun event ↦ ?_
  split
  · exact h.bind (htargets _ _) fun targets ↦ hloop targets 0
  · exact h.pure _

theorem createDeliveriesFromOriginalEvent (h : FanoutProperty codec C) (eventID : String) :
    C Nat (createDeliveriesFromOriginalEvent codec tenantID eventID opts) := by
  have hloop (originals : List DeliveryReplaySource) (n : Nat) :
      C Nat (cloneOriginals codec tenantID opts n originals) := by
    induction originals generalizing n with
    | nil => exact h.pure _
    | cons _ _ ih =>
      refine h.bind (h.scheduledDeliveryAt _ _) fun at' ↦ ?_
      exact h.bind (h.snapshot _) fun _ ↦ ih (n + 1)
  exact h.bind (h.query fun _ ↦ nofun) fun originals ↦ hloop originals 0

theorem replayEvent (h : FanoutProperty codec C) (jobID eventID : String) (mode : ConfigMode) :
    C Nat (replayEvent codec tenantID jobID eventID mode opts) := by
  have hnoop (errorText : String) (count : Nat) :
      C Unit (recordNoop tenantID jobID eventID mode errorText count) := by
    unfold recordNoop
    split
    · exact h.noop _ _ _ _ _
    · exact h.pure _
  unfold App.replayEvent
  split
  · exact h.pure _
  · cases mode with
    | original =>
      exact h.bind (h.createDeliveriesFromOriginalEvent eventID) fun count ↦
        h.bind (hnoop _ count) fun _ ↦ h.pure _
    | current =>
      exact h.bind (h.createDeliveriesForEvent eventID) fun count ↦
        h.bind (hnoop _ count) fun _ ↦ h.pure _

theorem replayDelivery (h : FanoutProperty codec C) (deliveryID : String) :
    C Nat (replayDelivery codec tenantID deliveryID opts) := by
  have hrequest (source : DeliveryReplaySource) (req : DeliverySnapshotRequest) :
      C (Option DeliverySnapshotRequest) (existingRequest tenantID source opts req) := by
    unfold existingRequest
    split
    · exact h.bind (h.query fun _ ↦ nofun) fun _ ↦ h.pure _
    · exact h.pure _
  unfold App.replayDelivery
  split
  · exact h.pure _
  · refine h.bind (h.query fun _ ↦ map_ne_error selectRow_ne_deferred) fun source ↦ ?_
    refine h.bind (h.scheduledDeliveryAt _ _) fun at' ↦ h.bind (hrequest _ _) fun found ↦ ?_
    cases found with
    | none => exact h.pure _
    | some => exact h.bind (h.snapshot _) fun _ ↦ h.pure _

end FanoutProperty

end Webhookery.App
