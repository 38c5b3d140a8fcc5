import Webhookery.App.Fanout
import Webhookery.Store.Routing
import Mathlib.Data.List.Infix

/-!
# Plans of a fanout

What a fanout is going to create follows from the state that it reads: its plan is a list of requests,
whose times are left open. A fanout that runs alone carries out its plan in order, all of it when it
does not fail, and otherwise a part from its beginning.
-/

namespace Webhookery.App

open Go Store Relational Concurrency Provider
open Program (Ensures ensures_done)

/-! ## Plans -/

section Plans

variable (tenantID : String) (opts : DeliveryFanoutOptions)

def targetPlan (eventID : String) (targets : List DeliveryFanoutTarget) : List DeliverySnapshotRequest :=
  targets.map fun target ↦ targetRequest tenantID eventID target opts 0

def originalPlan (originals : List DeliveryReplaySource) : List DeliverySnapshotRequest :=
  originals.map fun original ↦
    { sourceRequest tenantID original opts 0 with deliveryPayloadMode := .clone }

def fanoutTargets (sourceID eventType : String) (db : DB) : List DeliveryFanoutTarget :=
  listSubscriptionTargets tenantID eventType db ++ listRouteTargets tenantID sourceID eventType db

/-- The plan of `createDeliveriesForEvent`. -/
def currentPlan (eventID : String) (db : DB) : List DeliverySnapshotRequest :=
  match getEvent tenantID eventID db with
  | .error _ => []
  | .ok event =>
    if fanoutAllowed event opts then
      targetPlan tenantID opts eventID (fanoutTargets tenantID event.sourceID event.type db)
    else []

/-- The request for one existing delivery in the state that was read. -/
def existingTarget (source : DeliveryReplaySource) (req : DeliverySnapshotRequest) (db : DB) :
    Option DeliverySnapshotRequest :=
  if opts.configMode ≠ some .original ∧ (source.routeID ≠ "" ∨ source.subscriptionID ≠ "") then
    (getCurrentDeliveryFanoutTarget tenantID source.routeID source.subscriptionID db).map
      (currentRequest req)
  else some req

/-- The plan of `createDeliveryFromExisting`. -/
def existingPlan (deliveryID : String) (db : DB) : List DeliverySnapshotRequest :=
  match getDeliveryReplaySource tenantID deliveryID db with
  | .error _ => []
  | .ok source =>
    ((existingTarget tenantID opts source
      { sourceRequest tenantID source opts 0 with originalDeliveryID := deliveryID } db).map
        (existingPayloadMode source opts)).toList

/-- The plan for the event that a replay names. -/
def eventPlan (mode : ConfigMode) (eventID : String) (db : DB) : List DeliverySnapshotRequest :=
  if eventID = "" then []
  else
    match mode with
    | .original => originalPlan tenantID opts (listOriginalDeliveryReplaySources tenantID eventID db)
    | .current => currentPlan tenantID opts eventID db

/-- The plan for the delivery that a replay names. -/
def deliveryPlan (deliveryID : String) (db : DB) : List DeliverySnapshotRequest :=
  if deliveryID = "" then [] else existingPlan tenantID opts deliveryID db

end Plans

/-- The options of a replay job. -/
def replayOptions (jobID : String) (work : ReplayJobWork) : DeliveryFanoutOptions :=
  ⟨jobID, some work.configMode,
    if work.rateLimitPerMinute = 0 then work.request.rateLimitPerMinute else work.rateLimitPerMinute,
    false⟩

/-- The plan of a replay job. -/
def replayPlan (tenantID jobID : String) (work : ReplayJobWork) (db : DB) : List DeliverySnapshotRequest :=
  eventPlan tenantID (replayOptions jobID work) work.configMode work.request.eventID db ++
    deliveryPlan tenantID (replayOptions jobID work) work.request.deliveryID db

section Members

variable {tenantID sourceID eventType : String} {db : DB} {opts : DeliveryFanoutOptions}

theorem exists_mem_joinedEndpoints :
    (∃ e, e ∈ joinedEndpoints tenantID endpointID db) ↔ EndpointExists tenantID endpointID db := by
  simp [joinedEndpoints, EndpointExists, Table.mem_def]

theorem mem_fanoutTargets :
    target ∈ fanoutTargets tenantID sourceID eventType db ↔
      (∃ s ∈ db.subscriptions, s.matches tenantID eventType = true ∧
        ∃ e ∈ joinedEndpoints s.tenantID s.endpointID db, subscriptionTarget s e = target) ∨
      ∃ r ∈ db.routes, r.matches tenantID sourceID eventType = true ∧
        ∃ e ∈ joinedEndpoints r.tenantID r.endpointID db, routeTarget r e = target := by
  simp only [fanoutTargets, listSubscriptionTargets, listRouteTargets, List.mem_append, List.mem_flatMap,
    List.mem_map, List.mem_filter, List.mem_insertionSort, Table.mem_def, and_assoc]

theorem exists_of_getDeliveryReplaySource (h : getDeliveryReplaySource tenantID deliveryID db = .ok source) :
    ∃ d ∈ db.deliveries, d.tenantID = tenantID ∧ d.id = deliveryID ∧ source = d.replaySource := by
  obtain ⟨d, hselect, hd⟩ := map_eq_ok.mp h
  obtain ⟨hmem, htenant, hid⟩ := selectRow_columns hselect
  exact ⟨d, hmem, htenant, hid, hd.symm⟩

/-- The plan of an event that was found. -/
theorem currentPlan_of_mem (hevent : event ∈ db.events) (htenant : event.tenantID = tenantID) :
    currentPlan tenantID opts event.id db =
      if fanoutAllowed event opts then
        targetPlan tenantID opts event.id (fanoutTargets tenantID event.sourceID event.type db)
      else [] := by
  unfold currentPlan getEvent
  rw [selectRow_key hevent htenant rfl]

theorem currentPlan_eq_nil (h : ∀ e ∈ db.events, e.tenantID = tenantID → e.id ≠ eventID) :
    currentPlan tenantID opts eventID db = [] := by
  unfold currentPlan
  split
  · rfl
  case h_2 event hevent =>
    obtain ⟨hmem, htenant, hid⟩ := selectRow_columns hevent
    exact absurd hid (h event hmem htenant)

/-- The plan of a delivery that was found. -/
theorem existingPlan_of_mem (hd : d ∈ db.deliveries) (htenant : d.tenantID = tenantID) :
    existingPlan tenantID opts d.id db =
      ((existingTarget tenantID opts d.replaySource
        { sourceRequest tenantID d.replaySource opts 0 with originalDeliveryID := d.id } db).map
          (existingPayloadMode d.replaySource opts)).toList := by
  unfold existingPlan getDeliveryReplaySource
  rw [selectRow_key hd htenant rfl]
  rfl

theorem existingPlan_eq_nil (h : ∀ d ∈ db.deliveries, d.tenantID = tenantID → d.id ≠ deliveryID) :
    existingPlan tenantID opts deliveryID db = [] := by
  unfold existingPlan
  split
  · rfl
  case h_2 hsource =>
    obtain ⟨d, hd, htenant, hid, -⟩ := exists_of_getDeliveryReplaySource hsource
    exact absurd hid (h d hd htenant)

end Members

/-! ## Carrying out a plan -/

/-- Nothing but replay jobs and replay items changed, and every new item is one of a replay that selected
nothing. -/
structure OnlyReplays (db db' : DB) : Prop where
  frame : db' = { db with replayJobs := db'.replayJobs, replayItems := db'.replayItems }
  items : ∃ items, db'.replayItems.rows = db.replayItems.rows ++ items ∧
    ∀ i ∈ items, i.originalDeliveryID = "" ∧ i.newDeliveryID = ""

theorem OnlyReplays.refl (db : DB) : OnlyReplays db db :=
  ⟨rfl, [], (List.append_nil _).symm, List.forall_mem_nil _⟩

/-- The requests were carried out in their order, each at some time and in a transaction of its own.
In between only replay jobs and items changed. -/
inductive Fulfils (codec : PayloadCodec) : List DeliverySnapshotRequest → DB → DB → Prop
  | nil (db : DB) : Fulfils codec [] db db
  | create {db db₁ db₂ : DB} {req : DeliverySnapshotRequest} {reqs : List DeliverySnapshotRequest}
      (at' : Time) (env : Env) (result : DeliverySnapshotResult)
      (commits : createDeliverySnapshot codec { req with nextAttemptAt := at' } env db =
        .ok (result, db₁))
      (rest : Fulfils codec reqs db₁ db₂) : Fulfils codec (req :: reqs) db db₂
  | note {db db₁ db₂ : DB} {reqs : List DeliverySnapshotRequest} (replays : OnlyReplays db db₁)
      (rest : Fulfils codec reqs db₁ db₂) : Fulfils codec reqs db db₂

section Carry

variable {codec : PayloadCodec} {tenantID jobID eventID : String} {opts : DeliveryFanoutOptions}
  {plan plan' : List DeliverySnapshotRequest} {req : DeliverySnapshotRequest} {n : Nat}
  {db db₁ db₂ : DB}

theorem Fulfils.append (h : Fulfils codec plan db db₁) (h' : Fulfils codec plan' db₁ db₂) :
    Fulfils codec (plan ++ plan') db db₂ := by
  induction h with
  | nil => exact h'
  | create at' env result commits _ ih => exact .create at' env result commits (ih h')
  | note replays _ ih => exact .note replays (ih h')

theorem Fulfils.then_note (h : Fulfils codec plan db db₁) (hreplays : OnlyReplays db₁ db₂) :
    Fulfils codec plan db db₂ := by
  have happend := h.append (.note hreplays (.nil db₂))
  rwa [List.append_nil] at happend

/-- A loop carried out a part of its plan, and all of it unless it failed; it counts from `n` on. -/
def Carried (codec : PayloadCodec) (plan : List DeliverySnapshotRequest) (n : Nat) (db : DB)
    (r : Except StoreError Nat) (db' : DB) : Prop :=
  ∃ part, part <+: plan ∧ Fulfils codec part db db' ∧
    ∀ count, r = .ok count → part = plan ∧ count = n + plan.length

/-- The snapshot was taken, or nothing happened. -/
def Snapshotted (codec : PayloadCodec) (req : DeliverySnapshotRequest) (db : DB) :
    Except StoreError DeliverySnapshotResult → DB → Prop
  | .ok result, db' => ∃ at' env,
      createDeliverySnapshot codec { req with nextAttemptAt := at' } env db = .ok (result, db')
  | .error _, db' => db' = db

theorem carried_error (e : StoreError) : Carried codec plan n db (.error e) db :=
  ⟨[], List.nil_prefix, .nil db, nofun⟩

theorem carried_nil : Carried codec [] n db (.ok n) db := by
  refine ⟨[], List.nil_prefix, .nil db, fun count hcount ↦ ⟨rfl, ?_⟩⟩
  exact (Except.ok.inj hcount).symm

theorem ensures_scheduledDeliveryAt (index : Nat) (limit : Int) :
    Ensures (scheduledDeliveryAt index limit) db fun _ db' ↦ db' = db :=
  ensures_clockNow (fun _ ↦ ensures_done rfl) fun _ ↦ rfl

theorem ensures_snapshot (req : DeliverySnapshotRequest) (at' : Time) :
    Ensures (transaction (createDeliverySnapshot codec { req with nextAttemptAt := at' })) db
      (Snapshotted codec req db) :=
  ensures_transaction (fun env _ _ commits ↦ ⟨at', env, commits⟩) fun _ ↦ rfl

/-- One snapshot, and then the rest of the plan. -/
theorem carried_cons (hp : Ensures p db (Snapshotted codec req db))
    (hrest : ∀ db₁, Ensures rest db₁ (Carried codec plan (n + 1) db₁)) :
    Ensures (p.bind fun _ ↦ rest) db (Carried codec (req :: plan) n db) := by
  refine hp.bind ?_ ?_
  · rintro result db₁ ⟨at', env, commits⟩
    refine (hrest db₁).mono ?_
    rintro r _ ⟨part, hpart, hdone, hall⟩
    refine ⟨req :: part, List.cons_prefix_cons.mpr ⟨rfl, hpart⟩,
      .create at' env result commits hdone, fun count hcount ↦ ?_⟩
    obtain ⟨rfl, rfl⟩ := hall count hcount
    refine ⟨rfl, ?_⟩
    rw [List.length_cons]
    omega
  · rintro e _ rfl
    exact carried_error e

theorem ensures_createFromTargets (targets : List DeliveryFanoutTarget) (n : Nat) (db : DB) :
    Ensures (createFromTargets codec tenantID eventID opts n targets) db
      (Carried codec (targetPlan tenantID opts eventID targets) n db) := by
  induction targets generalizing n db with
  | nil => exact ensures_done carried_nil
  | cons target _ ih =>
    refine carried_cons ?_ fun db₁ ↦ ih (n + 1) db₁
    refine (ensures_scheduledDeliveryAt n opts.rateLimitPerMinute).bind ?_ ?_
    · rintro at' _ rfl
      exact ensures_snapshot (targetRequest tenantID eventID target opts 0) at'
    · exact fun _ _ h ↦ h

theorem ensures_cloneOriginals (originals : List DeliveryReplaySource) (n : Nat) (db : DB) :
    Ensures (cloneOriginals codec tenantID opts n originals) db
      (Carried codec (originalPlan tenantID opts originals) n db) := by
  induction originals generalizing n db with
  | nil => exact ensures_done carried_nil
  | cons original _ ih =>
    refine (ensures_scheduledDeliveryAt n opts.rateLimitPerMinute).bind ?_ ?_
    · rintro at' _ rfl
      refine carried_cons ?_ fun db₁ ↦ ih (n + 1) db₁
      exact ensures_snapshot
        { sourceRequest tenantID original opts 0 with deliveryPayloadMode := .clone } at'
    · rintro e _ rfl
      exact carried_error e

theorem ensures_createDeliveriesForEvent (eventID : String) (db : DB) :
    Ensures (createDeliveriesForEvent codec tenantID eventID opts) db
      (Carried codec (currentPlan tenantID opts eventID db) 0 db) := by
  refine ensures_query (fun event hevent ↦ ?_) carried_error
  have htargets : Ensures (listDeliveryFanoutTargets tenantID event.sourceID event.type) db
      fun r db' ↦ db' = db ∧
        ∀ ts, r = .ok ts → ts = fanoutTargets tenantID event.sourceID event.type db := by
    refine ensures_query (fun subscriptions hsubscriptions ↦ ?_) fun _ ↦ ⟨rfl, nofun⟩
    refine ensures_query (fun routes hroutes ↦ ?_) fun _ ↦ ⟨rfl, nofun⟩
    cases hsubscriptions
    cases hroutes
    exact ensures_done ⟨rfl, fun ts hts ↦ (Except.ok.inj hts).symm⟩
  rw [currentPlan, hevent]
  dsimp only
  split
  · refine htargets.bind ?_ ?_
    · rintro ts _ ⟨rfl, hts⟩
      rw [hts ts rfl]
      exact ensures_createFromTargets _ 0 _
    · rintro e _ ⟨rfl, -⟩
      exact carried_error e
  · exact ensures_done carried_nil

theorem onlyReplays_noop (h : insertReplayNoopItem tenantID jobID eventID mode errorText env db = .ok ((), db₁)) :
    OnlyReplays db db₁ := by
  obtain ⟨-, _, hitems, hdb⟩ := require_insertRow_eq_ok.mp h
  cases hdb
  refine ⟨rfl, _, Table.rows_insert? hitems, fun i hi ↦ ?_⟩
  rw [List.mem_singleton.mp hi]
  exact ⟨rfl, rfl⟩

theorem onlyReplays_updateReplayJobs : OnlyReplays db (updateReplayJobs p f hid db) :=
  ⟨rfl, [], (List.append_nil _).symm, List.forall_mem_nil _⟩

/-- The item of a replay that selected nothing adds nothing to the plan. -/
theorem carried_recordNoop (hp : Ensures p db (Carried codec plan n db)) :
    Ensures (p.bind fun count ↦
      (recordNoop tenantID jobID eventID mode errorText count).bind fun _ ↦ .done (.ok count)) db
      (Carried codec plan n db) := by
  refine hp.bind ?_ ?_
  · rintro count db₁ ⟨part, hpart, hdone, hall⟩
    have hnoop : Ensures (recordNoop tenantID jobID eventID mode errorText count) db₁
        fun _ db₂ ↦ Fulfils codec part db db₂ := by
      unfold recordNoop
      split
      · exact ensures_transaction (fun _ _ _ h ↦ hdone.then_note (onlyReplays_noop h)) fun _ ↦ hdone
      · exact ensures_done hdone
    refine hnoop.bind ?_ ?_
    · exact fun _ db₂ hdone' ↦ ensures_done ⟨part, hpart, hdone', hall⟩
    · exact fun e db₂ hdone' ↦ ⟨part, hpart, hdone', nofun⟩
  · rintro e _ ⟨part, hpart, hdone, -⟩
    exact ⟨part, hpart, hdone, nofun⟩

theorem ensures_replayEvent (mode : ConfigMode) (eventID : String) (db : DB) :
    Ensures (replayEvent codec tenantID jobID eventID mode opts) db
      (Carried codec (eventPlan tenantID opts mode eventID db) 0 db) := by
  unfold replayEvent eventPlan
  split
  · exact ensures_done carried_nil
  · cases mode with
    | original =>
      refine carried_recordNoop (ensures_query (fun originals horiginals ↦ ?_) carried_error)
      cases horiginals
      exact ensures_cloneOriginals _ 0 db
    | current => exact carried_recordNoop (ensures_createDeliveriesForEvent eventID db)

/-- The request for one existing delivery is that of the state that was read, at its own time. -/
theorem ensures_existingRequest (source : DeliveryReplaySource) (req : DeliverySnapshotRequest)
    (at' : Time) (db : DB) :
    Ensures (existingRequest tenantID source opts { req with nextAttemptAt := at' }) db
      fun r db' ↦ db' = db ∧ ∀ found, r = .ok found →
        found = (existingTarget tenantID opts source req db).map
          fun req ↦ { req with nextAttemptAt := at' } := by
  unfold existingRequest existingTarget
  split
  · refine ensures_query (fun current hcurrent ↦ ?_) fun _ ↦ ⟨rfl, nofun⟩
    cases hcurrent
    refine ensures_done ⟨rfl, fun found hfound ↦ ?_⟩
    cases hfound
    rw [Option.map_map]
    rfl
  · exact ensures_done ⟨rfl, fun found hfound ↦ (Except.ok.inj hfound).symm⟩

theorem ensures_createDeliveryFromExisting (deliveryID : String) (db : DB) :
    Ensures (createDeliveryFromExisting codec tenantID deliveryID opts) db
      (Carried codec (existingPlan tenantID opts deliveryID db) 0 db) := by
  refine ensures_query (fun source hsource ↦ ?_) carried_error
  refine (ensures_scheduledDeliveryAt 0 opts.rateLimitPerMinute).bind ?_ ?_
  · rintro at' _ rfl
    refine (ensures_existingRequest source
      { sourceRequest tenantID source opts 0 with originalDeliveryID := deliveryID } at' _).bind ?_ ?_
    · rintro found db ⟨rfl, hfound⟩
      rw [existingPlan, hsource, hfound found rfl]
      dsimp only
      cases existingTarget tenantID opts source
        { sourceRequest tenantID source opts 0 with originalDeliveryID := deliveryID } db with
      | none => exact ensures_done carried_nil
      | some req =>
        have hmode : existingPayloadMode source opts { req with nextAttemptAt := at' } =
            { existingPayloadMode source opts req with nextAttemptAt := at' } := by
          unfold existingPayloadMode
          split <;> rfl
        simp only [Option.map_some, Option.toList_some, hmode]
        refine carried_cons (ensures_snapshot _ at') fun db₁ ↦ ensures_done carried_nil
    · rintro e _ ⟨rfl, -⟩
      exact carried_error e
  · rintro e _ rfl
    exact carried_error e

theorem ensures_replayDelivery (deliveryID : String) (db : DB) :
    Ensures (replayDelivery codec tenantID deliveryID opts) db
      (Carried codec (deliveryPlan tenantID opts deliveryID db) 0 db) := by
  unfold replayDelivery deliveryPlan
  split
  · exact ensures_done carried_nil
  · exact ensures_createDeliveryFromExisting deliveryID db

end Carry

/-! ## What a fulfilled plan leaves behind -/

section Fulfilled

variable {codec : PayloadCodec} {plan : List DeliverySnapshotRequest} {req : DeliverySnapshotRequest}
  {tenantID : String} {opts : DeliveryFanoutOptions} {db db' : DB} {d : Delivery}

/-- The delivery was created for the request. -/
def MadeFor (codec : PayloadCodec) (req : DeliverySnapshotRequest) (d : Delivery) : Prop :=
  ∃ env at' ref,
    d = (deliveryRow codec.crypto env { req with nextAttemptAt := at' }).withPayload ref

theorem MadeFor.endpointID_eq (h : MadeFor codec req d) : d.endpointID = req.endpointID := by
  obtain ⟨_, _, _, rfl⟩ := h
  rfl

theorem MadeFor.routeID_eq (h : MadeFor codec req d) : d.routeID = req.routeID := by
  obtain ⟨_, _, _, rfl⟩ := h
  rfl

/-- Only deliveries with their payloads, and what replays record, changed. -/
def OnlyDeliveries (db db' : DB) : Prop :=
  db' = { db with
    deliveries := db'.deliveries, deliveryPayloads := db'.deliveryPayloads,
    replayJobs := db'.replayJobs, replayItems := db'.replayItems, replayReceipts := db'.replayReceipts }

theorem Fulfils.frame (h : Fulfils codec plan db db') : OnlyDeliveries db db' := by
  induction h with
  | nil => rfl
  | create _ _ _ commits _ ih =>
    obtain ⟨_, _, htaken⟩ := createDeliverySnapshot_taken commits
    rw [OnlyDeliveries, ih, htaken.frame]
  | note replays _ ih =>
    rw [OnlyDeliveries, ih, replays.frame]

/-- One delivery was added for each request. -/
theorem Fulfils.deliveries (h : Fulfils codec plan db db') :
    ∃ new, db'.deliveries.rows = db.deliveries.rows ++ new ∧ List.Forall₂ (MadeFor codec) plan new := by
  induction h with
  | nil => exact ⟨[], by simp, .nil⟩
  | @create _ _ _ req _ at' env _ commits _ ih =>
    obtain ⟨ref, _, htaken⟩ := createDeliverySnapshot_taken commits
    obtain ⟨new, hnew, hall⟩ := ih
    refine ⟨(deliveryRow codec.crypto env { req with nextAttemptAt := at' }).withPayload ref :: new, ?_,
      .cons ⟨env, at', ref, rfl⟩ hall⟩
    rw [hnew, htaken.deliveries, List.append_assoc, List.singleton_append]
  | note replays _ ih =>
    obtain ⟨new, hnew, hall⟩ := ih
    refine ⟨new, ?_, hall⟩
    rw [hnew, replays.frame]

theorem Fulfils.mem (h : Fulfils codec plan db db') (hd : d ∈ db.deliveries) : d ∈ db'.deliveries := by
  obtain ⟨new, hrows, -⟩ := h.deliveries
  rw [Table.mem_def, hrows]
  exact List.mem_append_left new hd

/-- Every delivery that was added was made for a request of the plan. -/
theorem Fulfils.exists_request (h : Fulfils codec plan db db') (hd : d ∈ db'.deliveries)
    (hnew : d ∉ db.deliveries) : ∃ req ∈ plan, MadeFor codec req d := by
  obtain ⟨_, hrows, hall⟩ := h.deliveries
  obtain ⟨hlength, hmade⟩ := List.forall₂_iff_get.mp hall
  obtain ⟨i, rfl⟩ := List.get_of_mem (((Table.mem_append hrows).mp hd).resolve_left hnew)
  exact ⟨_, List.get_mem plan ⟨i, i.2.trans_eq hlength.symm⟩, hmade i _ i.2⟩

/-- Every request of the plan has its delivery. -/
theorem Fulfils.exists_delivery (h : Fulfils codec plan db db') (hreq : req ∈ plan) :
    ∃ d ∈ db'.deliveries, d ∉ db.deliveries ∧ MadeFor codec req d := by
  obtain ⟨new, hrows, hall⟩ := h.deliveries
  obtain ⟨hlength, hmade⟩ := List.forall₂_iff_get.mp hall
  obtain ⟨i, rfl⟩ := List.get_of_mem hreq
  have hd := List.get_mem new ⟨i, i.2.trans_eq hlength⟩
  exact ⟨_, (Table.mem_append hrows).mpr (.inr hd), Table.not_mem_of_rows_append hrows hd, hmade i i.2 _⟩

/-- The plan for a named delivery stays, unless a new delivery got its identifier. -/
theorem Fulfils.deliveryPlan_eq (h : Fulfils codec plan db db')
    (hfresh : ∀ d ∈ db'.deliveries, d.id = deliveryID → d ∈ db.deliveries) :
    deliveryPlan tenantID opts deliveryID db' = deliveryPlan tenantID opts deliveryID db := by
  have hsource : getDeliveryReplaySource tenantID deliveryID db' =
      getDeliveryReplaySource tenantID deliveryID db := by
    obtain ⟨new, hrows, -⟩ := h.deliveries
    have hnone : new.find? (fun d ↦ d.tenantID == tenantID && d.id == deliveryID) = none := by
      rw [List.find?_eq_none]
      intro d hd hmatch
      rw [Bool.and_eq_true, beq_iff_eq, beq_iff_eq] at hmatch
      refine Table.not_mem_of_rows_append hrows hd (hfresh d ?_ hmatch.2)
      rw [Table.mem_def, hrows]
      exact List.mem_append_right _ hd
    unfold getDeliveryReplaySource selectRow Table.find?
    rw [hrows, List.find?_append, hnone, Option.or_none]
  have htarget (source : DeliveryReplaySource) (req : DeliverySnapshotRequest) :
      existingTarget tenantID opts source req db' = existingTarget tenantID opts source req db := by
    rw [h.frame]
    rfl
  unfold deliveryPlan existingPlan
  simp only [hsource, htarget]

end Fulfilled

/-! ## Replay jobs -/

/-- The plan of a job in the state in which a worker takes it. -/
def jobPlan (job : ReplayJob) (db : DB) : List DeliverySnapshotRequest :=
  if job.state = .scheduled then replayPlan job.tenantID job.id job.work db else []

/-- The job is over. -/
def Finished (job : ReplayJob) (db : DB) : Prop :=
  ∀ j ∈ db.replayJobs, j.tenantID = job.tenantID → j.id = job.id →
    j.state = .completed ∨ j.state = .canceled

/-- No delivery was created with the identifier that the job names. -/
def FreshFor (job : ReplayJob) (db db' : DB) : Prop :=
  ∀ d ∈ db'.deliveries, d.id = job.request.deliveryID → d ∈ db.deliveries

/-- The delivery that the job names exists. -/
def NamesDelivery (job : ReplayJob) (db : DB) : Prop :=
  job.request.deliveryID ≠ "" → ∃ d ∈ db.deliveries, d.tenantID = job.tenantID ∧
    d.id = job.request.deliveryID

section Jobs

variable {codec : PayloadCodec} {job : ReplayJob} {db db' : DB}

/-- The named delivery was found when its replay did not fail. -/
theorem ensures_named (tenantID deliveryID : String) (opts : DeliveryFanoutOptions) (db : DB) :
    Ensures (replayDelivery codec tenantID deliveryID opts) db fun r _ ↦
      ∀ count, r = .ok count → deliveryID ≠ "" →
        ∃ d ∈ db.deliveries, d.tenantID = tenantID ∧ d.id = deliveryID := by
  unfold replayDelivery
  split
  case isTrue hempty => exact ensures_done fun _ _ hne ↦ absurd hempty hne
  case isFalse =>
    refine ensures_query (fun source hsource ↦ ?_) fun _ ↦ nofun
    obtain ⟨d, hd, htenant, hid, -⟩ := exists_of_getDeliveryReplaySource hsource
    exact fun _ _ _ _ _ _ ↦ ⟨d, hd, htenant, hid⟩

/-- What a worker did for a job: a part of the plan for the event, and after all of it a part of the plan
for the named delivery, which it read then. Without a failure the job is over. -/
def CarriedOut (codec : PayloadCodec) (job : ReplayJob) (db : DB) (r : Except StoreError Unit) (db' : DB) : Prop :=
  ∃ db₁ ofEvent ofDelivery,
    ofEvent <+: eventPlan job.tenantID (replayOptions job.id job.work) job.configMode
      job.request.eventID db ∧
    ofDelivery <+: deliveryPlan job.tenantID (replayOptions job.id job.work) job.request.deliveryID db₁ ∧
    Fulfils codec ofEvent db db₁ ∧ Fulfils codec ofDelivery db₁ db' ∧
    (ofDelivery = [] ∨ ofEvent = eventPlan job.tenantID (replayOptions job.id job.work) job.configMode
      job.request.eventID db) ∧
    (r = .ok () →
      ofEvent = eventPlan job.tenantID (replayOptions job.id job.work) job.configMode
        job.request.eventID db ∧
      ofDelivery = deliveryPlan job.tenantID (replayOptions job.id job.work) job.request.deliveryID db₁ ∧
      NamesDelivery job db₁ ∧ Finished job db')

theorem finished_completeReplayJob (job : ReplayJob) (processedItems : Nat)
    (h : completeReplayJob job.tenantID job.id processedItems db = .ok ((), db')) : Finished job db' := by
  cases h
  intro j hj htenant hid
  obtain ⟨_, _, rfl⟩ := List.mem_map.mp hj
  split
  case isTrue => exact .inl rfl
  case isFalse hguard =>
    rw [if_neg hguard] at htenant hid
    simp only [htenant, hid, beq_self_eq_true, Bool.true_and, Bool.not_eq_true,
      bne_eq_false_iff_eq] at hguard
    exact .inr hguard

theorem ensures_runReplayJob (job : ReplayJob) (db : DB) :
    Ensures (runReplayJob codec job.tenantID job.id job.work) db
      (CarriedOut codec job db) := by
  refine (ensures_replayEvent job.configMode job.request.eventID db).bind ?_ ?_
  · rintro ofEvent db₁ ⟨_, -, hdone, hall⟩
    obtain ⟨rfl, -⟩ := hall ofEvent rfl
    have hdelivery : Ensures (replayDelivery codec job.tenantID job.request.deliveryID
        (replayOptions job.id job.work)) db₁ fun r db₂ ↦ Carried codec (deliveryPlan job.tenantID
          (replayOptions job.id job.work) job.request.deliveryID db₁) 0 db₁ r db₂ ∧
        ∀ count, r = .ok count → NamesDelivery job db₁ :=
      fun r db₂ hrun ↦ ⟨ensures_replayDelivery _ _ r db₂ hrun, ensures_named _ _ _ _ r db₂ hrun⟩
    refine hdelivery.bind ?_ ?_
    · rintro ofDelivery db₂ ⟨⟨_, -, hdone₂, hall₂⟩, hnamed⟩
      obtain ⟨rfl, -⟩ := hall₂ ofDelivery rfl
      refine ensures_transaction (fun env _ db' hcomplete ↦ ?_) fun e ↦ ?_
      · have hreplays : OnlyReplays db₂ db' := by
          cases hcomplete
          exact onlyReplays_updateReplayJobs
        exact ⟨db₁, _, _, List.prefix_rfl, List.prefix_rfl, hdone, hdone₂.then_note hreplays, .inr rfl,
          fun _ ↦ ⟨rfl, rfl, hnamed ofDelivery rfl, finished_completeReplayJob job _ hcomplete⟩⟩
      · exact ⟨db₁, _, _, List.prefix_rfl, List.prefix_rfl, hdone, hdone₂, .inr rfl, nofun⟩
    · rintro e _ ⟨⟨part₂, hpart₂, hdone₂, -⟩, -⟩
      exact ⟨db₁, _, part₂, List.prefix_rfl, hpart₂, hdone, hdone₂, .inr rfl, nofun⟩
  · rintro e db₁ ⟨part, hpart, hdone, -⟩
    exact ⟨db₁, part, [], hpart, List.nil_prefix, hdone, .nil db₁, .inl rfl, nofun⟩

/-- A worker that takes a scheduled job carries out its plan; it leaves any other job alone. -/
theorem carriedOut_of_createReplayDeliveries (hjob : job ∈ db.replayJobs)
    (hrun : Program.Runs (createReplayDeliveries codec job.tenantID job.id) db r db') :
    job.state = .scheduled ∧ CarriedOut codec job db r db' ∨ job.state ≠ .scheduled ∧ db' = db := by
  have hensures : Ensures (createReplayDeliveries codec job.tenantID job.id) db fun r db' ↦
      job.state = .scheduled ∧ CarriedOut codec job db r db' ∨ job.state ≠ .scheduled ∧ db' = db := by
    refine ensures_query (fun work hwork ↦ ?_) fun e ↦ ?_
    · obtain rfl := Except.ok.inj ((getReplayJobWork_of_mem hjob).symm.trans hwork)
      have hstate : job.work.state = job.state := rfl
      rw [hstate]
      split
      case h_1 h | h_2 h | h_4 h | h_5 h | h_6 h =>
        exact ensures_done (.inr ⟨by simp [h], rfl⟩)
      case h_3 hscheduled =>
        have hstart : Ensures (transaction fun _ ↦ startReplayJob job.tenantID job.id) db
            fun r db₁ ↦ OnlyReplays db db₁ ∧ ∀ started, r = .ok started → started = true := by
          refine ensures_transaction (fun env started db₁ h ↦ ?_) fun e ↦ ⟨.refl db, nofun⟩
          cases h
          refine ⟨onlyReplays_updateReplayJobs, fun started h ↦ ?_⟩
          cases h
          exact List.any_eq_true.mpr ⟨job, hjob, by simp [hscheduled]⟩
        refine hstart.bind ?_ ?_
        · rintro started db₁ ⟨hreplays, hstarted⟩
          rw [if_pos (hstarted started rfl)]
          refine (ensures_runReplayJob job db₁).mono ?_
          rintro r _ ⟨db₂, ofEvent, ofDelivery, hevent, hdelivery, hdone, hdone₂, hboth, hall⟩
          -- starting the job changes nothing that the plan for the event reads
          have hsame (opts : DeliveryFanoutOptions) : eventPlan job.tenantID opts job.configMode
              job.request.eventID db₁ =
              eventPlan job.tenantID opts job.configMode job.request.eventID db := by
            rw [hreplays.frame]
            rfl
          rw [hsame] at hevent hboth hall
          exact .inl ⟨hscheduled, db₂, ofEvent, ofDelivery, hevent, hdelivery, .note hreplays hdone,
            hdone₂, hboth, hall⟩
        · rintro e db₁ ⟨hreplays, -⟩
          exact .inl ⟨hscheduled, db₁, [], [], List.nil_prefix, List.nil_prefix,
            .note hreplays (.nil db₁), .nil db₁, .inl rfl, nofun⟩
    · by_cases hscheduled : job.state = .scheduled
      · exact .inl ⟨hscheduled, db, [], [], List.nil_prefix, List.nil_prefix, .nil db, .nil db, .inl rfl, nofun⟩
      · exact .inr ⟨hscheduled, rfl⟩
  exact hensures r db' hrun

/-- When no new delivery got the identifier that the job names, the plan is that of the state in which the
job was taken. -/
theorem plan_of_createReplayDeliveries (hjob : job ∈ db.replayJobs)
    (hrun : Program.Runs (createReplayDeliveries codec job.tenantID job.id) db r db')
    (hfresh : FreshFor job db db') :
    ∃ part, part <+: jobPlan job db ∧ Fulfils codec part db db' ∧
      (r = .ok () → part = jobPlan job db ∧
        (job.state = .scheduled → NamesDelivery job db ∧ Finished job db')) := by
  rcases carriedOut_of_createReplayDeliveries hjob hrun with ⟨hscheduled, hcarried⟩ | ⟨hstate, rfl⟩
  · obtain ⟨db₁, ofEvent, ofDelivery, hevent, hdelivery, hdone, hdone₂, hboth, hall⟩ := hcarried
    have hfresh₁ : FreshFor job db db₁ := fun d hd hid ↦ hfresh d (hdone₂.mem hd) hid
    rw [hdone.deliveryPlan_eq hfresh₁] at hdelivery hall
    have hplan : jobPlan job db =
        eventPlan job.tenantID (replayOptions job.id job.work) job.configMode job.request.eventID db ++
          deliveryPlan job.tenantID (replayOptions job.id job.work) job.request.deliveryID db :=
      if_pos hscheduled
    refine ⟨ofEvent ++ ofDelivery, ?_, hdone.append hdone₂, fun hr ↦ ?_⟩
    · rw [hplan]
      rcases hboth with rfl | rfl
      · rw [List.append_nil]
        exact hevent.trans (List.prefix_append _ _)
      · exact (List.prefix_append_right_inj _).mpr hdelivery
    · obtain ⟨rfl, rfl, hnamed, hfinished⟩ := hall hr
      refine ⟨hplan.symm, fun _ ↦ ⟨fun hne ↦ ?_, hfinished⟩⟩
      obtain ⟨d, hd, htenant, hid⟩ := hnamed hne
      exact ⟨d, hfresh₁ d hd hid, htenant, hid⟩
  · rw [jobPlan, if_neg hstate]
    exact ⟨[], List.prefix_rfl, .nil _, fun _ ↦ ⟨rfl, fun h ↦ absurd h hstate⟩⟩

end Jobs

end Webhookery.App
