import Webhookery.Replay.Copies

/-!
# The endpoint of a replay request

A replay request may name an endpoint. The name is stored with the job, and nothing that processes the
job reads it: a replay keeps to the endpoint exactly when whatever else the request selects belongs to
that endpoint anyway.
-/

namespace Webhookery.Replay

open Go Store App Relational Concurrency Delivery

/-! ## What a request selects -/

/-- Whatever the job selects belongs to the endpoint: the deliveries of its event in original mode, the
active subscriptions and routes for its event in current mode, and the delivery that it names or, in
current mode, its route or subscription. -/
structure SelectsOnly (endpointID : String) (job : ReplayJob) (db : DB) : Prop where
  originals : job.configMode = .original → job.request.eventID ≠ "" → ∀ d ∈ db.deliveries,
    d.tenantID = job.tenantID → d.eventID = job.request.eventID → d.replayJobID = "" →
      d.endpointID = endpointID
  subscriptions : job.configMode = .current → job.request.eventID ≠ "" → ∀ e ∈ db.events,
    e.tenantID = job.tenantID → e.id = job.request.eventID → e.verified = true →
      ∀ s ∈ db.subscriptions, s.matches job.tenantID e.type = true →
        EndpointExists s.tenantID s.endpointID db → s.endpointID = endpointID
  routes : job.configMode = .current → job.request.eventID ≠ "" → ∀ e ∈ db.events,
    e.tenantID = job.tenantID → e.id = job.request.eventID → e.verified = true →
      ∀ r ∈ db.routes, r.matches job.tenantID e.sourceID e.type = true →
        EndpointExists r.tenantID r.endpointID db → r.endpointID = endpointID
  named : job.request.deliveryID ≠ "" → ∀ d ∈ db.deliveries, d.tenantID = job.tenantID →
    d.id = job.request.deliveryID →
      if job.configMode = .current ∧ (d.routeID ≠ "" ∨ d.subscriptionID ≠ "") then
        ∀ t ∈ getCurrentDeliveryFanoutTarget job.tenantID d.routeID d.subscriptionID db,
          t.endpointID = endpointID
      else d.endpointID = endpointID

section Selection

variable {endpointID tenantID eventID : String} {opts : DeliveryFanoutOptions} {job : ReplayJob} {db : DB}
  {mode : ConfigMode}

/-- The endpoints of the plan for an event are those of the subscriptions and routes. -/
theorem currentPlan_endpoints (hrecovered : opts.allowRecovered = false) :
    (∀ req ∈ currentPlan tenantID opts eventID db, req.endpointID = endpointID) ↔
      ∀ e ∈ db.events, e.tenantID = tenantID → e.id = eventID → e.verified = true →
        (∀ s ∈ db.subscriptions, s.matches tenantID e.type = true →
          EndpointExists s.tenantID s.endpointID db → s.endpointID = endpointID) ∧
        ∀ r ∈ db.routes, r.matches tenantID e.sourceID e.type = true →
          EndpointExists r.tenantID r.endpointID db → r.endpointID = endpointID := by
  by_cases hfound : ∃ e ∈ db.events, e.tenantID = tenantID ∧ e.id = eventID
  case neg =>
    push Not at hfound
    rw [currentPlan_eq_nil hfound]
    exact ⟨fun _ e he htenant hid ↦ absurd hid (hfound e he htenant), fun _ _ h ↦ absurd h List.not_mem_nil⟩
  case pos =>
    obtain ⟨event, hevent, htenant, rfl⟩ := hfound
    have hallowed : fanoutAllowed event opts = event.verified := by simp [fanoutAllowed, hrecovered]
    rw [currentPlan_of_mem hevent htenant, hallowed]
    constructor
    · intro hplan e he _ hid hverified
      obtain rfl := Table.eq_of_key_eq he hevent hid
      rw [if_pos hverified, targetPlan, List.forall_mem_map] at hplan
      refine ⟨fun s hs hmatches hexists ↦ ?_, fun r hr hmatches hexists ↦ ?_⟩
      · obtain ⟨ep, hep⟩ := exists_mem_joinedEndpoints.mpr hexists
        exact hplan _ (mem_fanoutTargets.mpr (.inl ⟨s, hs, hmatches, ep, hep, rfl⟩))
      · obtain ⟨ep, hep⟩ := exists_mem_joinedEndpoints.mpr hexists
        exact hplan _ (mem_fanoutTargets.mpr (.inr ⟨r, hr, hmatches, ep, hep, rfl⟩))
    · intro hselects
      split
      case isFalse => exact List.forall_mem_nil _
      case isTrue hverified =>
        obtain ⟨hsubscriptions, hroutes⟩ := hselects event hevent htenant rfl hverified
        rw [targetPlan, List.forall_mem_map]
        intro target htarget
        rcases mem_fanoutTargets.mp htarget with ⟨s, hs, hmatches, ep, hep, rfl⟩ |
          ⟨r, hr, hmatches, ep, hep, rfl⟩
        · exact hsubscriptions s hs hmatches (exists_mem_joinedEndpoints.mp ⟨ep, hep⟩)
        · exact hroutes r hr hmatches (exists_mem_joinedEndpoints.mp ⟨ep, hep⟩)

theorem eventPlan_endpoints (hrecovered : opts.allowRecovered = false) :
    (∀ req ∈ eventPlan tenantID opts mode eventID db, req.endpointID = endpointID) ↔
      (mode = .original → eventID ≠ "" → ∀ d ∈ db.deliveries, d.tenantID = tenantID →
        d.eventID = eventID → d.replayJobID = "" → d.endpointID = endpointID) ∧
      (mode = .current → eventID ≠ "" → ∀ e ∈ db.events, e.tenantID = tenantID → e.id = eventID →
        e.verified = true →
          (∀ s ∈ db.subscriptions, s.matches tenantID e.type = true →
            EndpointExists s.tenantID s.endpointID db → s.endpointID = endpointID) ∧
          ∀ r ∈ db.routes, r.matches tenantID e.sourceID e.type = true →
            EndpointExists r.tenantID r.endpointID db → r.endpointID = endpointID) := by
  unfold eventPlan
  split
  case isTrue hempty => simp [hempty]
  case isFalse hnamed =>
    cases mode with
    | original =>
      simp only [originalPlan, listOriginalDeliveryReplaySources, originalDeliveries, List.forall_mem_map,
        List.mem_insertionSort, List.mem_filter, Bool.and_eq_true, beq_iff_eq, and_imp]
      simp only [hnamed, Table.mem_def, reduceCtorEq, ne_eq, not_false_eq_true, true_imp_iff, false_imp_iff, and_true]
      rfl
    | current =>
      rw [currentPlan_endpoints hrecovered]
      simp [hnamed]

theorem deliveryPlan_endpoints (hmode : opts.configMode = some mode) :
    (∀ req ∈ deliveryPlan tenantID opts deliveryID db, req.endpointID = endpointID) ↔
      (deliveryID ≠ "" → ∀ d ∈ db.deliveries, d.tenantID = tenantID → d.id = deliveryID →
        if mode = .current ∧ (d.routeID ≠ "" ∨ d.subscriptionID ≠ "") then
          ∀ t ∈ getCurrentDeliveryFanoutTarget tenantID d.routeID d.subscriptionID db,
            t.endpointID = endpointID
        else d.endpointID = endpointID) := by
  unfold deliveryPlan
  split
  case isTrue hempty => simp [hempty]
  case isFalse hnamed =>
    rw [forall_prop_of_true hnamed]
    by_cases hfound : ∃ d ∈ db.deliveries, d.tenantID = tenantID ∧ d.id = deliveryID
    case neg =>
      push Not at hfound
      rw [existingPlan_eq_nil hfound]
      exact ⟨fun _ d hd htenant hid ↦ absurd hid (hfound d hd htenant), fun _ _ h ↦ absurd h List.not_mem_nil⟩
    case pos =>
      obtain ⟨d, hd, htenant, rfl⟩ := hfound
      have hpayload (req : DeliverySnapshotRequest) :
          (existingPayloadMode d.replaySource opts req).endpointID = req.endpointID := by
        rw [existingPayloadMode_frame]
      have hcurrent : opts.configMode ≠ some .original ↔ mode = .current := by
        rw [hmode]
        cases mode <;> simp
      have honly {P : Delivery → Prop} :
          (∀ d' ∈ db.deliveries, d'.tenantID = tenantID → d'.id = d.id → P d') ↔ P d := by
        refine ⟨fun h ↦ h d hd htenant rfl, fun h d' hd' _ hid ↦ ?_⟩
        obtain rfl := Table.eq_of_key_eq hd' hd hid
        exact h
      rw [honly, existingPlan_of_mem hd htenant]
      simp only [existingTarget, hcurrent, Option.mem_toList, Option.mem_def, Option.map_eq_some_iff]
      by_cases hlookup : mode = .current ∧ (d.routeID ≠ "" ∨ d.subscriptionID ≠ "")
      · have hsource : mode = .current ∧
            (d.replaySource.routeID ≠ "" ∨ d.replaySource.subscriptionID ≠ "") := hlookup
        rw [if_pos hlookup, if_pos hsource]
        constructor
        · intro h t ht
          have hreq := h _ ⟨_, Option.map_eq_some_iff.mpr ⟨t, ht, rfl⟩, rfl⟩
          rwa [hpayload] at hreq
        · rintro h _ ⟨_, hreq, rfl⟩
          obtain ⟨t, ht, rfl⟩ := Option.map_eq_some_iff.mp hreq
          rw [hpayload]
          exact h t ht
      · have hsource : ¬(mode = .current ∧
            (d.replaySource.routeID ≠ "" ∨ d.replaySource.subscriptionID ≠ "")) := hlookup
        rw [if_neg hlookup, if_neg hsource]
        constructor
        · intro h
          have hreq := h _ ⟨_, rfl, rfl⟩
          rwa [hpayload] at hreq
        · rintro h _ ⟨_, hreq, rfl⟩
          cases hreq
          rw [hpayload]
          exact h

/-- A job selects only what belongs to an endpoint exactly when its plan has no other endpoint. -/
theorem selectsOnly_iff : SelectsOnly endpointID job db ↔
    ∀ req ∈ replayPlan job.tenantID job.id job.work db, req.endpointID = endpointID := by
  unfold replayPlan
  rw [List.forall_mem_append, eventPlan_endpoints rfl, deliveryPlan_endpoints rfl]
  constructor
  · intro h
    exact ⟨⟨h.originals, fun hmode hnamed e he htenant hid hverified ↦
      ⟨h.subscriptions hmode hnamed e he htenant hid hverified,
        h.routes hmode hnamed e he htenant hid hverified⟩⟩, h.named⟩
  · rintro ⟨⟨horiginals, htargets⟩, hnamed⟩
    exact {
      originals := horiginals
      subscriptions := fun hmode hevent e he htenant hid hverified ↦
        (htargets hmode hevent e he htenant hid hverified).1
      routes := fun hmode hevent e he htenant hid hverified ↦
        (htargets hmode hevent e he htenant hid hverified).2
      named := hnamed }

end Selection

/-! ## Replays -/

/-- Every delivery that was created is for the endpoint of the request, and what was selected for another
endpoint has no delivery. -/
structure KeepsScope (codec : PayloadCodec) (job : ReplayJob) (db db' : DB) : Prop where
  created : ∀ d ∈ db'.deliveries, d ∉ db.deliveries → d.endpointID = job.request.endpointID
  others : ∀ req ∈ jobPlan job db, req.endpointID ≠ job.request.endpointID →
    ∀ d ∈ db'.deliveries, d ∉ db.deliveries → ¬MadeFor codec req d

/-- Identifiers are unique, so none is created for a delivery that already exists. -/
theorem freshFor_of_mem {tenantID jobID : String} {job : ReplayJob} {d : Delivery} {db db' : DB}
    (hadds : Adds tenantID jobID db db') (hd : d ∈ db.deliveries)
    (hid : d.id = job.request.deliveryID) : FreshFor job db db' := by
  intro d' hd' hid'
  have hkept : d ∈ db'.deliveries := hadds.deliveries.subset hd
  obtain rfl := Table.eq_of_key_eq hd' hkept (hid'.trans hid.symm)
  exact hd

/-- A replay keeps to the endpoint of its request if the request selects nothing that belongs to another
endpoint, and a scheduled one that does not fail keeps to it only then. -/
theorem replay_scoped_iff {codec : PayloadCodec} {job : ReplayJob} {db db' : DB}
    {r : Except StoreError Unit} (hjob : job ∈ db.replayJobs)
    (hrun : Program.Runs (createReplayDeliveries codec job.tenantID job.id) db r db')
    (hfresh : FreshFor job db db') :
    (SelectsOnly job.request.endpointID job db → KeepsScope codec job db db') ∧
      (r = .ok () → job.state = .scheduled → KeepsScope codec job db db' →
        SelectsOnly job.request.endpointID job db) := by
  obtain ⟨_, hpart, hdone, hall⟩ := plan_of_createReplayDeliveries hjob hrun hfresh
  constructor
  · intro hselects
    have hcreated : ∀ d ∈ db'.deliveries, d ∉ db.deliveries →
        d.endpointID = job.request.endpointID := by
      intro d hd hnew
      obtain ⟨req, hreq, hfor⟩ := hdone.exists_request hd hnew
      have hplan := hpart.subset hreq
      unfold jobPlan at hplan
      split at hplan
      · rw [hfor.endpointID_eq]
        exact selectsOnly_iff.mp hselects req hplan
      · cases hplan
    exact ⟨hcreated, fun req _ hother d hd hnew hfor ↦
      hother (hfor.endpointID_eq.symm.trans (hcreated d hd hnew))⟩
  · intro hr hscheduled hkeeps
    rw [selectsOnly_iff]
    intro req hreq
    rw [(hall hr).1, jobPlan, if_pos hscheduled] at hdone
    obtain ⟨d, hd, hnew, hfor⟩ := hdone.exists_delivery hreq
    exact hfor.endpointID_eq.symm.trans (hkeeps.created d hd hnew)

/-! ### Replays of the shop that name an endpoint -/

/-- A replay of an event or of a delivery that names an endpoint. -/
def endpointReplay (endpointID : String) (mode : ConfigMode) (eventID deliveryID : String) : ReplayRequest :=
  { originalReplay with endpointID, configMode := some mode, eventID, deliveryID }

/-- What the worker leaves when it processes the replay. -/
def scopedState (req : ReplayRequest) : DB :=
  ((createReplayDeliveries shopCodec "t" "rpl_100").run (shopFrom 110)
    (requestedRun req).2.state).2

/-- The deliveries and the plan of the shop are all for its endpoint. -/
theorem shop_replay_scoped :
    ∃ job ∈ (requestedRun (endpointReplay "ep_1" .current "evt_1" "del_15")).2.state.replayJobs,
      job.request.endpointID = "ep_1" ∧
      SelectsOnly "ep_1" job (requestedRun (endpointReplay "ep_1" .current "evt_1" "del_15")).2.state ∧
      KeepsScope shopCodec job (requestedRun (endpointReplay "ep_1" .current "evt_1" "del_15")).2.state
        (scopedState (endpointReplay "ep_1" .current "evt_1" "del_15")) := by
  obtain ⟨j, hj, htenant, hid, hendpoint, hdelivery, hplan⟩ :
      ∃ j ∈ (requestedRun (endpointReplay "ep_1" .current "evt_1" "del_15")).2.state.replayJobs,
        j.tenantID = "t" ∧ j.id = "rpl_100" ∧ j.request.endpointID = "ep_1" ∧ j.request.deliveryID = "del_15" ∧
        ∀ req ∈ replayPlan j.tenantID j.id j.work
          (requestedRun (endpointReplay "ep_1" .current "evt_1" "del_15")).2.state, req.endpointID = "ep_1" := by
    decide +kernel
  have hruns : Program.Runs (createReplayDeliveries shopCodec "t" "rpl_100")
      (requestedRun (endpointReplay "ep_1" .current "evt_1" "del_15")).2.state (.ok ())
      (scopedState (endpointReplay "ep_1" .current "evt_1" "del_15")) :=
    Program.runs_of_isOk (by decide +kernel)
  have hselects := selectsOnly_iff.mpr hplan
  rw [← htenant, ← hid] at hruns
  obtain ⟨_, hd, hdid⟩ : ∃ d ∈ (requestedRun (endpointReplay "ep_1" .current "evt_1" "del_15")).2.state.deliveries,
      d.id = "del_15" := by decide +kernel
  have hfresh := freshFor_of_mem (adds_of_createReplayDeliveries hruns) hd (hdid.trans hdelivery.symm)
  exact ⟨j, hj, hendpoint, hselects,
    (replay_scoped_iff hj hruns hfresh).1 (hendpoint.symm ▸ hselects)⟩

/-- Whether the replay of the shop that names another endpoint is scheduled with that name and, once it is
processed, has delivered to the endpoint of the shop. -/
def ignoresEndpoint (req : ReplayRequest) : Bool :=
  (requestedRun req).2.state.replayJobs.rows.any (fun j ↦
    j.tenantID == "t" && j.id == "rpl_100" && j.state == .scheduled && j.request.endpointID == "ep_2") &&
  (((createReplayDeliveries shopCodec "t" "rpl_100").run (shopFrom 110)
    (requestedRun req).2.state).1.isOk) &&
  (scopedState req).deliveries.rows.any (fun d ↦ d.replayJobID == "rpl_100" && d.endpointID == "ep_1")

/-- A replay that names another endpoint, by its event, by a delivery or by both and in both modes,
delivers to the endpoint of the shop. -/
theorem endpoint_scope_ignored :
    [ConfigMode.current, .original].Forall fun mode ↦
    ∀ scope ∈ [("evt_1", ""), ("", "del_15"), ("evt_1", "del_15")],
      App.system.Run VersionsAgree (requestedRun (endpointReplay "ep_2" mode scope.1 scope.2)).1
        (requestedRun (endpointReplay "ep_2" mode scope.1 scope.2)).2 ∧
      (∃ job ∈ (requestedRun (endpointReplay "ep_2" mode scope.1 scope.2)).2.state.replayJobs,
        job.tenantID = "t" ∧ job.id = "rpl_100" ∧ job.state = .scheduled ∧
          job.request.endpointID = "ep_2") ∧
      Program.Runs (createReplayDeliveries shopCodec "t" "rpl_100")
        (requestedRun (endpointReplay "ep_2" mode scope.1 scope.2)).2.state (.ok ())
        (scopedState (endpointReplay "ep_2" mode scope.1 scope.2)) ∧
      ∃ d ∈ (scopedState (endpointReplay "ep_2" mode scope.1 scope.2)).deliveries,
        d.replayJobID = "rpl_100" ∧ d.endpointID = "ep_1" := by
  have hignored : ∀ mode ∈ [ConfigMode.current, .original],
      ∀ scope ∈ [("evt_1", ""), ("", "del_15"), ("evt_1", "del_15")],
        ignoresEndpoint (endpointReplay "ep_2" mode scope.1 scope.2) = true := by decide +kernel
  rw [List.forall_iff_forall_mem]
  intro mode hmode scope hscope
  have h := hignored mode hmode scope hscope
  simp only [ignoresEndpoint, Bool.and_eq_true] at h
  obtain ⟨⟨hjob, hok⟩, hdelivery⟩ := h
  obtain ⟨job, hmem, hmatch⟩ := List.any_eq_true.mp hjob
  obtain ⟨d, hd, hsent⟩ := List.any_eq_true.mp hdelivery
  simp only [Bool.and_eq_true, beq_iff_eq] at hmatch hsent
  obtain ⟨⟨⟨htenant, hid⟩, hstate⟩, hendpoint⟩ := hmatch
  exact ⟨run_runScript versionsAgree_shopQueued, ⟨job, hmem, htenant, hid, hstate, hendpoint⟩,
    Program.runs_of_isOk hok, d, hd, hsent⟩

end Webhookery.Replay
