import Webhookery.Replay.Scope
import Webhookery.Replay.Policies

/-!
# Dry runs of a replay

A dry run counts the deliveries that a replay would create. It counts matching subscriptions and routes
without looking at their endpoints, and a named delivery without looking at its route or subscription, so
its count is an upper bound. Both agree exactly when everything that was counted can be delivered.
-/

namespace Webhookery.Replay

open Go Store App Relational Concurrency Machine Delivery
open Program (Runs)

/-! ## Counts that are upper bounds -/

/-- The number is bounded by another one, which it reaches exactly under the condition. -/
structure Reaches (k n : Nat) (P : Prop) : Prop where
  le : k ≤ n
  eq_iff : k = n ↔ P

section Bounds

variable {k k' n n' : Nat} {P P' : Prop}

theorem Reaches.add (h : Reaches k n P) (h' : Reaches k' n' P') : Reaches (k + k') (n + n') (P ∧ P') where
  le := Nat.add_le_add h.le h'.le
  eq_iff := by
    have hle := h.le
    have hle' := h'.le
    rw [← h.eq_iff, ← h'.eq_iff]
    omega

theorem Reaches.congr (h : Reaches k n P) (hiff : P ↔ P') : Reaches k n P' where
  le := h.le
  eq_iff := h.eq_iff.trans hiff

theorem reaches_self (hP : P) : Reaches n n P where
  le := Nat.le_refl n
  eq_iff := by simp [hP]

theorem reaches_ite [Decidable P] : Reaches (if P then 1 else 0) 1 P := by
  split
  case isTrue h => exact reaches_self h
  case isFalse h => exact ⟨Nat.zero_le 1, by simp [h]⟩

/-- A join in which every row has at most one partner. -/
theorem reaches_flatMap {α β : Type} {f : α → List β} (hone : ∀ a, (f a).length ≤ 1) (rows : List α) :
    Reaches (rows.flatMap f).length rows.length (∀ a ∈ rows, f a ≠ []) := by
  induction rows with
  | nil => exact reaches_self (by simp)
  | cons a rest ih =>
    have hhead : Reaches (f a).length 1 (f a ≠ []) := by
      refine ⟨hone a, ?_⟩
      have hle := hone a
      rw [← List.length_pos_iff]
      omega
    have hboth := hhead.add ih
    rw [List.flatMap_cons, List.length_append, List.length_cons, Nat.add_comm rest.length]
    exact hboth.congr (by simp)

end Bounds

/-! ## What the dry run counts -/

section Counts

variable (tenantID : String) (db : DB)

/-- The count for the event that a request names. -/
def eventCount (mode : ConfigMode) (eventID : String) : Nat :=
  if eventID = "" then 0
  else
    match mode with
    | .original => (originalDeliveries tenantID eventID db).length
    | .current =>
      match getEvent tenantID eventID db with
      | .error _ => 0
      | .ok event =>
        if event.verified then
          (db.subscriptions.rows.filter (Subscription.matches tenantID event.type)).length +
            (activeRouteIDs tenantID event.sourceID event.type db).length
        else 0

/-- The count for the delivery that a request names. -/
def deliveryCount (deliveryID : String) : Nat :=
  if deliveryID = "" then 0
  else (db.deliveries.rows.filter fun d ↦ d.tenantID == tenantID && d.id == deliveryID).length

end Counts

section Reads

variable {tenantID : String} {req : ReplayRequest} {n : Nat} {db db' : DB}

theorem runs_dryRunEvent (h : Runs (dryRunEvent tenantID req) db (.ok n) db') :
    n = eventCount tenantID db (req.configMode.getD .current) req.eventID ∧ db' = db := by
  unfold dryRunEvent at h
  unfold eventCount
  split at h
  case isTrue hempty =>
    cases h
    exact ⟨(if_pos hempty).symm, rfl⟩
  case isFalse hnamed =>
    rw [if_neg hnamed]
    split at h
    case isTrue hmode =>
      obtain ⟨hread, rfl⟩ := runs_query h
      rw [hmode]
      exact ⟨(Except.ok.inj hread).symm, rfl⟩
    case isFalse hmode =>
      have hcurrent : req.configMode.getD .current = .current := by
        cases hgiven : req.configMode with
        | none => rfl
        | some mode =>
          cases mode with
          | current => rfl
          | original => exact absurd hgiven hmode
      obtain ⟨_, _, hevent, hcount⟩ := h.of_bind
      obtain ⟨hread, rfl⟩ := runs_query hevent
      rw [hcurrent]
      simp only [hread]
      split at hcount
      case isTrue hverified =>
        obtain ⟨hn, rfl⟩ := runs_query hcount
        rw [if_pos hverified]
        exact ⟨(Except.ok.inj hn).symm, rfl⟩
      case isFalse hverified =>
        cases hcount
        rw [if_neg hverified]
        exact ⟨rfl, rfl⟩

theorem runs_dryRunDelivery (h : Runs (dryRunDelivery tenantID req) db (.ok n) db') :
    n = deliveryCount tenantID db req.deliveryID ∧ db' = db := by
  unfold dryRunDelivery at h
  unfold deliveryCount
  split at h
  case isTrue hempty =>
    cases h
    exact ⟨(if_pos hempty).symm, rfl⟩
  case isFalse hnamed =>
    obtain ⟨hread, rfl⟩ := runs_query h
    rw [if_neg hnamed]
    exact ⟨(Except.ok.inj hread).symm, rfl⟩

theorem runs_dryRunReplay (h : Runs (dryRunReplay tenantID req) db (.ok total) db') :
    total = eventCount tenantID db (req.configMode.getD .current) req.eventID +
      deliveryCount tenantID db req.deliveryID ∧ db' = db := by
  obtain ⟨_, _, hevent, h⟩ := h.of_bind
  obtain ⟨_, _, hdelivery, h⟩ := h.of_bind
  obtain ⟨rfl, rfl⟩ := runs_dryRunEvent hevent
  obtain ⟨rfl, rfl⟩ := runs_dryRunDelivery hdelivery
  cases h
  exact ⟨rfl, rfl⟩

end Reads

/-! ## Counts and plans -/

/-- The route of a delivery, or else its subscription, is active and has an endpoint. -/
def TargetActive (tenantID routeID subscriptionID : String) (db : DB) : Prop :=
  if routeID ≠ "" then
    ∃ r ∈ db.routes, r.tenantID = tenantID ∧ r.id = routeID ∧ r.state = .active ∧
      EndpointExists r.tenantID r.endpointID db
  else subscriptionID ≠ "" →
    ∃ s ∈ db.subscriptions, s.tenantID = tenantID ∧ s.id = subscriptionID ∧ s.state = .active ∧
      EndpointExists s.tenantID s.endpointID db

/-- Whatever a dry run in current mode counts can be delivered. -/
structure Deliverable (tenantID : String) (mode : ConfigMode) (eventID deliveryID : String) (db : DB) : Prop where
  subscriptions : mode = .current → eventID ≠ "" → ∀ e ∈ db.events, e.tenantID = tenantID →
    e.id = eventID → e.verified = true → ∀ s ∈ db.subscriptions, s.matches tenantID e.type = true →
      EndpointExists s.tenantID s.endpointID db
  routes : mode = .current → eventID ≠ "" → ∀ e ∈ db.events, e.tenantID = tenantID →
    e.id = eventID → e.verified = true → ∀ r ∈ db.routes, r.matches tenantID e.sourceID e.type = true →
      EndpointExists r.tenantID r.endpointID db
  named : mode = .current → deliveryID ≠ "" → ∀ d ∈ db.deliveries, d.tenantID = tenantID →
    d.id = deliveryID → TargetActive tenantID d.routeID d.subscriptionID db

/-- The subscriptions and routes that match the event have endpoints. -/
def EventDeliverable (tenantID eventID : String) (db : DB) : Prop :=
  ∀ e ∈ db.events, e.tenantID = tenantID → e.id = eventID → e.verified = true →
    (∀ s ∈ db.subscriptions, s.matches tenantID e.type = true → EndpointExists s.tenantID s.endpointID db) ∧
      ∀ r ∈ db.routes, r.matches tenantID e.sourceID e.type = true → EndpointExists r.tenantID r.endpointID db

section Plans

variable {tenantID eventID deliveryID : String} {mode : ConfigMode} {opts : DeliveryFanoutOptions}
  {db : DB}

theorem joinedEndpoints_ne_nil {endpointID : String} :
    joinedEndpoints tenantID endpointID db ≠ [] ↔ EndpointExists tenantID endpointID db := by
  rw [← exists_mem_joinedEndpoints, ne_eq, List.eq_nil_iff_forall_not_mem, not_forall_not]

theorem reaches_listSubscriptionTargets (eventType : String) :
    Reaches (listSubscriptionTargets tenantID eventType db).length
      (db.subscriptions.rows.filter (Subscription.matches tenantID eventType)).length
      (∀ s ∈ db.subscriptions, s.matches tenantID eventType = true →
        EndpointExists s.tenantID s.endpointID db) := by
  unfold listSubscriptionTargets
  refine (reaches_flatMap (fun s ↦ length_joinedEndpoints_le_one _ _) _).congr ?_
  simp only [List.mem_filter, and_imp, ne_eq, List.map_eq_nil_iff, ← joinedEndpoints_ne_nil]
  rfl

theorem reaches_listRouteTargets (sourceID eventType : String) :
    Reaches (listRouteTargets tenantID sourceID eventType db).length
      (activeRouteIDs tenantID sourceID eventType db).length
      (∀ r ∈ db.routes, r.matches tenantID sourceID eventType = true →
        EndpointExists r.tenantID r.endpointID db) := by
  have hlength : (activeRouteIDs tenantID sourceID eventType db).length =
      ((db.routes.rows.filter (Route.matches tenantID sourceID eventType)).insertionSort
        (fun r r' ↦ r.priority ≤ r'.priority)).length := by
    rw [List.length_insertionSort, activeRouteIDs, List.length_map]
  rw [hlength]
  unfold listRouteTargets
  refine (reaches_flatMap (fun r ↦ length_joinedEndpoints_le_one _ _) _).congr ?_
  simp only [List.mem_insertionSort, List.mem_filter, and_imp, ne_eq, List.map_eq_nil_iff,
    ← joinedEndpoints_ne_nil]
  rfl

theorem reaches_currentPlan (hrecovered : opts.allowRecovered = false) (hevent : eventID ≠ "") :
    Reaches (currentPlan tenantID opts eventID db).length (eventCount tenantID db .current eventID)
      (EventDeliverable tenantID eventID db) := by
  unfold eventCount currentPlan
  rw [if_neg hevent]
  dsimp only
  cases hread : getEvent tenantID eventID db with
  | error =>
    refine reaches_self fun e he htenant hid _ ↦ ?_
    have hfound : getEvent tenantID eventID db = .ok e := selectRow_key he htenant hid
    cases hread.symm.trans hfound
  | ok event =>
    obtain ⟨hmem, hmatch⟩ := selectRow_columns hread
    have hallowed : fanoutAllowed event opts = event.verified := by simp [fanoutAllowed, hrecovered]
    have honly {e : Event} (he : e ∈ db.events) (hid : e.id = eventID) : e = event :=
      Table.eq_of_key_eq he hmem (hid.trans hmatch.2.symm)
    dsimp only
    rw [hallowed]
    split
    case isTrue hverified =>
      rw [targetPlan, List.length_map, fanoutTargets, List.length_append]
      refine ((reaches_listSubscriptionTargets event.type).add
        (reaches_listRouteTargets event.sourceID event.type)).congr ?_
      constructor
      · intro h e he _ hid _
        rw [honly he hid]
        exact h
      · exact fun h ↦ h event hmem hmatch.1 hmatch.2 hverified
    case isFalse hverified =>
      refine reaches_self fun e he _ hid he' ↦ ?_
      rw [honly he hid] at he'
      exact absurd he' hverified

theorem reaches_eventPlan (hrecovered : opts.allowRecovered = false) :
    Reaches (eventPlan tenantID opts mode eventID db).length (eventCount tenantID db mode eventID)
      (mode = .current → eventID ≠ "" → EventDeliverable tenantID eventID db) := by
  by_cases hevent : eventID = ""
  · unfold eventPlan eventCount
    rw [if_pos hevent, if_pos hevent]
    exact reaches_self fun _ hne ↦ absurd hevent hne
  · cases mode with
    | original =>
      unfold eventPlan eventCount
      rw [if_neg hevent, if_neg hevent, originalPlan, List.length_map, listOriginalDeliveryReplaySources,
        List.length_map, List.length_insertionSort]
      exact reaches_self (by rintro ⟨⟩)
    | current =>
      unfold eventPlan
      rw [if_neg hevent]
      exact (reaches_currentPlan hrecovered hevent).congr (by simp [hevent])

/-- The target of a delivery is found exactly when it is active. -/
theorem isSome_getCurrentDeliveryFanoutTarget {routeID subscriptionID : String} :
    (getCurrentDeliveryFanoutTarget tenantID routeID subscriptionID db).isSome ↔
      TargetActive tenantID routeID subscriptionID db := by
  unfold getCurrentDeliveryFanoutTarget TargetActive firstJoined
  have hjoined {α : Type} {row : Option α} {endpoints : α → List Endpoint}
      {target : α → Endpoint → DeliveryFanoutTarget} :
      (row.bind fun r ↦ (endpoints r).head?.map (target r)).isSome ↔
        ∃ r, row = some r ∧ endpoints r ≠ [] := by
    cases row <;> simp
  split
  · rw [hjoined]
    simp only [joinedEndpoints_ne_nil]
    rw [Table.exists_find?_iff]
    · simp only [Bool.and_eq_true, beq_iff_eq, and_assoc]
    · intro r hr r' hr' hmatch hmatch'
      simp only [Bool.and_eq_true, beq_iff_eq] at hmatch hmatch'
      exact Table.eq_of_key_eq hr hr' (hmatch.1.2.trans hmatch'.1.2.symm)
  · split
    case isTrue hsubscription =>
      rw [hjoined]
      simp only [joinedEndpoints_ne_nil]
      rw [Table.exists_find?_iff]
      · simp only [Bool.and_eq_true, beq_iff_eq, and_assoc, hsubscription, ne_eq, not_false_eq_true,
          true_imp_iff]
      · intro s hs s' hs' hmatch hmatch'
        simp only [Bool.and_eq_true, beq_iff_eq] at hmatch hmatch'
        exact Table.eq_of_key_eq hs hs' (hmatch.1.2.trans hmatch'.1.2.symm)
    case isFalse hnone => simp [hnone]

theorem isSome_existingTarget (hmode : opts.configMode = some mode) :
    (existingTarget tenantID opts source req db).isSome ↔
      (mode = .current → TargetActive tenantID source.routeID source.subscriptionID db) := by
  unfold existingTarget
  rw [hmode]
  cases mode with
  | original => simp
  | current =>
    split
    · rw [Option.isSome_map, isSome_getCurrentDeliveryFanoutTarget]
      simp
    case isFalse hnone =>
      -- without a route and a subscription the delivery keeps its own target
      have hempty : source.routeID = "" ∧ source.subscriptionID = "" := by simpa using hnone
      simp [TargetActive, hempty]

/-- A named delivery counts once, and is replayed unless its current target is gone. -/
theorem reaches_deliveryPlan (hmode : opts.configMode = some mode) :
    Reaches (deliveryPlan tenantID opts deliveryID db).length (deliveryCount tenantID db deliveryID)
      (mode = .current → deliveryID ≠ "" → ∀ d ∈ db.deliveries, d.tenantID = tenantID →
        d.id = deliveryID → TargetActive tenantID d.routeID d.subscriptionID db) := by
  by_cases hnamed : deliveryID = ""
  case pos =>
    rw [deliveryPlan, deliveryCount, if_pos hnamed, if_pos hnamed]
    exact reaches_self fun _ hne ↦ absurd hnamed hne
  rw [deliveryPlan, deliveryCount, if_neg hnamed, if_neg hnamed]
  by_cases hfound : ∃ d ∈ db.deliveries, d.tenantID = tenantID ∧ d.id = deliveryID
  case neg =>
    push Not at hfound
    have hnone : (db.deliveries.rows.filter fun d ↦ d.tenantID == tenantID && d.id == deliveryID) = [] := by
      rw [List.filter_eq_nil_iff]
      intro d hd hmatch
      rw [Bool.and_eq_true, beq_iff_eq, beq_iff_eq] at hmatch
      exact hfound d hd hmatch.1 hmatch.2
    rw [existingPlan_eq_nil hfound, hnone]
    exact reaches_self fun _ _ d hd htenant hid ↦ absurd hid (hfound d hd htenant)
  case pos =>
    obtain ⟨d, hd, htenant, rfl⟩ := hfound
    have honly {d' : Delivery} (hd' : d' ∈ db.deliveries) (hid : d'.id = d.id) : d' = d :=
      Table.eq_of_key_eq hd' hd hid
    have hone : (db.deliveries.rows.filter fun d' ↦ d'.tenantID == tenantID && d'.id == d.id) = [d] := by
      refine Table.filter_eq_singleton hd (by simp [htenant]) fun d' hd' hmatch ↦ ?_
      rw [Bool.and_eq_true, beq_iff_eq, beq_iff_eq] at hmatch
      exact honly hd' hmatch.2
    have hcondition : (mode = .current → d.id ≠ "" → ∀ d' ∈ db.deliveries, d'.tenantID = tenantID →
        d'.id = d.id → TargetActive tenantID d'.routeID d'.subscriptionID db) ↔
        (mode = .current → TargetActive tenantID d.routeID d.subscriptionID db) := by
      constructor
      · exact fun h hcurrent ↦ h hcurrent hnamed d hd htenant rfl
      · intro h hcurrent _ d' hd' _ hid
        rw [honly hd' hid]
        exact h hcurrent
    rw [existingPlan_of_mem hd htenant, hone, List.length_singleton, Option.length_toList,
      Option.isSome_map]
    refine (reaches_ite.congr ?_).congr hcondition.symm
    exact isSome_existingTarget hmode

/-- What a dry run counts bounds what the replay creates, and is reached when all of it can be
delivered. -/
theorem reaches_replayPlan :
    Reaches (replayPlan tenantID jobID work db).length
      (eventCount tenantID db work.configMode work.request.eventID +
        deliveryCount tenantID db work.request.deliveryID)
      (Deliverable tenantID work.configMode work.request.eventID work.request.deliveryID db) := by
  rw [replayPlan, List.length_append]
  refine ((reaches_eventPlan rfl).add (reaches_deliveryPlan rfl)).congr ?_
  constructor
  · rintro ⟨htargets, hnamed⟩
    exact {
      subscriptions := fun hmode hevent e he htenant hid hverified ↦
        (htargets hmode hevent e he htenant hid hverified).1
      routes := fun hmode hevent e he htenant hid hverified ↦
        (htargets hmode hevent e he htenant hid hverified).2
      named := hnamed }
  · intro h
    exact ⟨fun hmode hevent e he htenant hid hverified ↦
      ⟨h.subscriptions hmode hevent e he htenant hid hverified,
        h.routes hmode hevent e he htenant hid hverified⟩, h.named⟩

end Plans

/-! ## Replays -/

/-- The row of a job that was created, which is about what the request names. -/
structure CreatedFor (tenantID : String) (req : ReplayRequest) (job : ReplayJob) (db db' : DB) : Prop where
  mem : job ∈ db'.replayJobs
  tenantID : job.tenantID = tenantID
  state : job.state = if job.approvalRequired then .pendingApproval else .scheduled
  eventID : job.request.eventID = req.eventID
  deliveryID : job.request.deliveryID = req.deliveryID
  configMode : job.configMode = req.configMode.getD .current
  frame : db' = { db with replayJobs := db'.replayJobs, outbox := db'.outbox }

variable {req : ReplayRequest}

theorem runs_requireFutureExpiry (h : Runs (requireFutureExpiry req) db (.ok ()) db') : db' = db := by
  unfold requireFutureExpiry at h
  split at h
  · obtain ⟨_, _, hnow, hexpiry⟩ := h.of_bind
    obtain rfl := runs_clockNow hnow
    split at hexpiry
    · cases hexpiry
      rfl
    · cases hexpiry
  · cases h
    rfl

theorem createdFor_of_createReplay {tenantID actorID : String} {job : ReplayJob}
    {db db' : DB} (h : Runs (createReplay tenantID actorID req) db (.ok job) db') :
    CreatedFor tenantID req job db db' := by
  obtain ⟨policy, _, hpolicy, h₁⟩ := h.of_bind
  obtain ⟨-, rfl⟩ := (reads_replayApprovalPolicyForReplay _ _ _).mp hpolicy
  obtain ⟨now, _, hnow, h₂⟩ := h₁.of_bind
  obtain rfl := runs_clockNow hnow
  obtain ⟨_, _, hexpiry, h₃⟩ := h₂.of_bind
  have hsame := runs_requireFutureExpiry hexpiry
  obtain ⟨_, _, htotal, h₄⟩ := h₃.of_bind
  obtain ⟨-, hsame'⟩ := runs_dryRunReplay htotal
  rw [hsame', hsame] at h₄
  obtain ⟨_, hinsert⟩ := runs_transaction h₄
  obtain ⟨rfl, _, _, hjobs, -, rfl⟩ := insertReplayJob_eq_ok hinsert
  have hscope : ∀ r : ReplayRequest, ((r.underPolicy policy now).withExpiry now).eventID = r.eventID ∧
      ((r.underPolicy policy now).withExpiry now).deliveryID = r.deliveryID ∧
      ((r.underPolicy policy now).withExpiry now).configMode = r.configMode := by
    intro r
    unfold ReplayRequest.withExpiry ReplayRequest.underPolicy
    cases policy <;> dsimp only <;> split <;> exact ⟨rfl, rfl, rfl⟩
  obtain ⟨hevent, hdelivery, hmode⟩ := hscope req.withDefaults
  exact {
    mem := by
      exact (Table.mem_of_rows_append hjobs).mpr (.inr rfl)
    tenantID := rfl
    state := rfl
    eventID := hevent
    deliveryID := hdelivery
    configMode := by
      rw [replayJobRow, hmode]
      rfl
    frame := rfl }

/-- A replay that needs no approval and runs on the store of its dry run without failures creates as many
deliveries as the dry run counted, exactly when everything that was counted can be delivered. -/
theorem dryRun_count_iff {codec : PayloadCodec} {tenantID actorID : String} {req : ReplayRequest}
    {job : ReplayJob} {total : Nat} {db db₁ db₂ : DB}
    (hdry : Runs (dryRunReplay tenantID req) db (.ok total) db)
    (hcreate : Runs (createReplay tenantID actorID req) db (.ok job) db₁)
    (happroval : job.approvalRequired = false)
    (hrun : Runs (createReplayDeliveries codec tenantID job.id) db₁ (.ok ()) db₂)
    (hfresh : FreshFor job db₁ db₂) :
    ∃ created, db₂.deliveries.rows = db.deliveries.rows ++ created ∧ created.length ≤ total ∧
      (created.length = total ↔
        Deliverable tenantID (req.configMode.getD .current) req.eventID req.deliveryID db) := by
  have hjob := createdFor_of_createReplay hcreate
  have hscheduled : job.state = .scheduled := by rw [hjob.state, happroval, if_neg (by simp)]
  obtain ⟨htotal, -⟩ := runs_dryRunReplay hdry
  rw [← hjob.tenantID] at hrun
  obtain ⟨_, -, hdone, hall⟩ := plan_of_createReplayDeliveries hjob.mem hrun hfresh
  obtain ⟨created, hrows, hmade⟩ := hdone.deliveries
  have hdeliveries : db₁.deliveries = db.deliveries := by rw [hjob.frame]
  have hplan : jobPlan job db₁ = replayPlan tenantID job.id job.work db := by
    rw [jobPlan, if_pos hscheduled, hjob.tenantID, hjob.frame]
    rfl
  have hlength : created.length = (replayPlan tenantID job.id job.work db).length := by
    rw [← hmade.length_eq, (hall rfl).1, hplan]
  have hreaches : Reaches (replayPlan tenantID job.id job.work db).length
      (eventCount tenantID db job.configMode job.request.eventID +
        deliveryCount tenantID db job.request.deliveryID)
      (Deliverable tenantID job.configMode job.request.eventID job.request.deliveryID db) :=
    reaches_replayPlan
  rw [← hlength, hjob.configMode, hjob.eventID, hjob.deliveryID, ← htotal] at hreaches
  exact ⟨created, by rw [hrows, hdeliveries], hreaches.le, hreaches.eq_iff⟩

/-! ### A route that is switched off -/

/-- The event of the shop is routed, and its route then gets a state. -/
def switchedRun (state : ConfigState) : AppRun :=
  runScript
    (routedScript ++
      [.start (.updateRoute "t" "rte_0" "alice" ⟨none, none, none, none, none, none, none, some state⟩),
        .go 1 5 (shopFrom 90)])
    shopQueued

def switchedDB (state : ConfigState) : DB := (switchedRun state).2.state

/-- The store after the replay was requested. -/
def switchedRequested (state : ConfigState) (req : ReplayRequest) : DB :=
  ((createReplay "t" "alice" req).run (fun _ ↦ shopEnv 100) (switchedDB state)).2

/-- The store after the replay was processed. -/
def switchedReplayed (state : ConfigState) (req : ReplayRequest) : DB :=
  ((createReplayDeliveries shopCodec "t" "rpl_100").run (shopFrom 110)
    (switchedRequested state req)).2

/-- Whether the dry run counts so many deliveries and the replay succeeds with so many. -/
def previews (state : ConfigState) (req : ReplayRequest) (counted created : Nat) : Bool :=
  okWith ((dryRunReplay "t" req).run (fun _ ↦ shopEnv 0) (switchedDB state)).1 (· == counted) &&
  okWith ((createReplay "t" "alice" req).run (fun _ ↦ shopEnv 100) (switchedDB state)).1
    (fun job ↦ job.id == "rpl_100" && !job.approvalRequired && job.request.deliveryID == "del_17") &&
  ((createReplayDeliveries shopCodec "t" "rpl_100").run (shopFrom 110)
    (switchedRequested state req)).1.isOk &&
  (switchedReplayed state req).deliveries.rows.length ==
    (switchedDB state).deliveries.rows.length + created &&
  (switchedRequested state req).deliveries.rows.any (·.id == "del_17")

theorem exists_of_previews {state : ConfigState} {counted created : Nat}
    (h : previews state req counted created = true) :
    Runs (dryRunReplay "t" req) (switchedDB state) (.ok counted) (switchedDB state) ∧
    ∃ job, Runs (createReplay "t" "alice" req) (switchedDB state) (.ok job)
        (switchedRequested state req) ∧ job.approvalRequired = false ∧
      Runs (createReplayDeliveries shopCodec "t" job.id) (switchedRequested state req) (.ok ())
        (switchedReplayed state req) ∧
      FreshFor job (switchedRequested state req) (switchedReplayed state req) ∧
      (switchedReplayed state req).deliveries.rows.length =
        (switchedDB state).deliveries.rows.length + created := by
  simp only [previews, Bool.and_eq_true, beq_iff_eq] at h
  obtain ⟨⟨⟨⟨hdry, hcreate⟩, hok⟩, hlength⟩, hnamed⟩ := h
  obtain ⟨_, hn, hcount⟩ := exists_of_okWith hdry
  obtain rfl := beq_iff_eq.mp hcount
  obtain ⟨job, hjob, hmatch⟩ := exists_of_okWith hcreate
  simp only [Bool.and_eq_true, beq_iff_eq, Bool.not_eq_true'] at hmatch
  obtain ⟨⟨hid, happroval⟩, hdelivery⟩ := hmatch
  obtain ⟨_, hd, hdid⟩ := List.any_eq_true.mp hnamed
  have hcounted := Program.runs_run (dryRunReplay "t" req) (fun _ ↦ shopEnv 0) (switchedDB state)
  rw [hn] at hcounted
  rw [(runs_dryRunReplay hcounted).2] at hcounted
  have hcreated := Program.runs_run (createReplay "t" "alice" req) (fun _ ↦ shopEnv 100) (switchedDB state)
  rw [hjob] at hcreated
  have hrun : Runs (createReplayDeliveries shopCodec "t" "rpl_100")
      (switchedRequested state req) (.ok ()) (switchedReplayed state req) := Program.runs_of_isOk hok
  have hfresh : FreshFor job (switchedRequested state req) (switchedReplayed state req) :=
    freshFor_of_mem (adds_of_createReplayDeliveries hrun) hd
      ((beq_iff_eq.mp hdid).trans hdelivery.symm)
  rw [← hid] at hrun
  exact ⟨hcounted, job, hcreated, happroval, hrun, hfresh, hlength⟩

/-- The replay of the event and of the delivery of its route, which is active. -/
theorem shop_previewed :
    ∃ created, (switchedReplayed .active (endpointReplay "" .current "evt_1" "del_17")).deliveries.rows =
        (switchedDB .active).deliveries.rows ++ created ∧ created.length = 3 ∧
      Deliverable "t" .current "evt_1" "del_17" (switchedDB .active) := by
  obtain ⟨hdry, _, hcreate, happroval, hrun, hfresh, hlength⟩ := exists_of_previews
    (show previews .active (endpointReplay "" .current "evt_1" "del_17") 3 3 = true by decide +kernel)
  obtain ⟨created, hrows, -, hiff⟩ := dryRun_count_iff hdry hcreate happroval hrun hfresh
  rw [hrows, List.length_append] at hlength
  have hcreated : created.length = 3 := by omega
  exact ⟨created, hrows, hcreated, hiff.mp hcreated⟩

/-- The route of a delivery is switched off: a replay of the delivery is counted and creates nothing. -/
theorem switched_route_counted :
    App.system.Run VersionsAgree (switchedRun .inactive).1 (switchedRun .inactive).2 ∧
    Runs (dryRunReplay "t" (endpointReplay "" .current "" "del_17")) (switchedDB .inactive) (.ok 1)
      (switchedDB .inactive) ∧
    ∃ job, Runs (createReplay "t" "alice" (endpointReplay "" .current "" "del_17"))
        (switchedDB .inactive) (.ok job)
        (switchedRequested .inactive (endpointReplay "" .current "" "del_17")) ∧
      job.approvalRequired = false ∧
      Runs (createReplayDeliveries shopCodec "t" job.id)
        (switchedRequested .inactive (endpointReplay "" .current "" "del_17")) (.ok ())
        (switchedReplayed .inactive (endpointReplay "" .current "" "del_17")) ∧
      (switchedReplayed .inactive (endpointReplay "" .current "" "del_17")).deliveries.rows.length =
        (switchedDB .inactive).deliveries.rows.length := by
  obtain ⟨hdry, job, hcreate, happroval, hrun, -, hlength⟩ := exists_of_previews
    (show previews .inactive (endpointReplay "" .current "" "del_17") 1 0 = true by decide +kernel)
  exact ⟨run_runScript versionsAgree_shopQueued, hdry, job, hcreate, happroval, hrun, hlength⟩

end Webhookery.Replay
