import Webhookery.App.Plan
import Webhookery.Delivery.ExactlyOnce

/-!
# Dry runs of a route

The dry run of a route compares the source and the type of an event with the route itself, while the
fanout of the event selects routes in the database. The dry run looks neither at the state of the route
nor at the verification of the event, and it ignores the case of event types.
-/

namespace Webhookery.Delivery

open Go Store App Relational Concurrency Provider

/-- A delivery of the route was created. -/
def CreatesFor (routeID : String) (db db' : DB) : Prop :=
  ∃ d ∈ db'.deliveries, d ∉ db.deliveries ∧ d.routeID = routeID

/-- If the route has the source of the event and names its type in some case, then it is active, the event
is verified, its type is listed as it is, and the endpoint exists. -/
def RoutesWhenMatched (simpleFold : Char → Char) (r : Route) (e : Event) (db : DB) : Prop :=
  r.sourceID = e.sourceID → containsString simpleFold r.eventTypes e.type = true →
    r.state = .active ∧ e.verified = true ∧ e.type ∈ r.eventTypes ∧
      EndpointExists r.tenantID r.endpointID db

section Routes

variable {simpleFold : Char → Char} {codec : PayloadCodec} {registry : ReconcileRegistry} {r : Route}
  {e : Event} {itemID : String} {result : Except StoreError Unit} {db db' : DB}

theorem matched_dryRun :
    (r.dryRun simpleFold e).matched = true ↔
      r.sourceID = e.sourceID ∧ containsString simpleFold r.eventTypes e.type = true := by
  simp [Route.dryRun]

theorem matches_iff :
    r.matches tenantID sourceID eventType = true ↔
      r.tenantID = tenantID ∧ r.sourceID = sourceID ∧ r.state = .active ∧ eventType ∈ r.eventTypes := by
  simp only [Route.matches, Bool.and_eq_true, beq_iff_eq, List.contains_iff_mem, and_assoc]

/-- The requests for a route in the plan of an event. -/
theorem exists_currentPlan_iff (hr : r ∈ db.routes) (he : e ∈ db.events)
    (htenant : r.tenantID = e.tenantID) (hid : r.id ≠ "") :
    (∃ req ∈ currentPlan e.tenantID .live e.id db, req.routeID = r.id) ↔
      r.sourceID = e.sourceID ∧ r.state = .active ∧ e.verified = true ∧ e.type ∈ r.eventTypes ∧
        EndpointExists r.tenantID r.endpointID db := by
  have hallowed : fanoutAllowed e .live = e.verified := by simp [fanoutAllowed, DeliveryFanoutOptions.live]
  rw [currentPlan_of_mem he rfl, hallowed]
  constructor
  · rintro ⟨_, hreq, hroute⟩
    split at hreq
    case isFalse => cases hreq
    case isTrue hverified =>
      obtain ⟨_, htarget, rfl⟩ := List.mem_map.mp hreq
      rcases mem_fanoutTargets.mp htarget with ⟨s, _, hmatches, ep, hep, rfl⟩ |
        ⟨_, hr', hmatches, ep, hep, rfl⟩
      · exact absurd hroute.symm hid
      · obtain rfl := Table.eq_of_key_eq hr' hr hroute
        obtain ⟨-, hsource, hactive, htype⟩ := matches_iff.mp hmatches
        exact ⟨hsource, hactive, hverified, htype, exists_mem_joinedEndpoints.mp ⟨ep, hep⟩⟩
  · rintro ⟨hsource, hactive, hverified, htype, hendpoint⟩
    obtain ⟨ep, hep⟩ := exists_mem_joinedEndpoints.mpr hendpoint
    have hmatches := matches_iff.mpr ⟨htenant, hsource, hactive, htype⟩
    rw [if_pos hverified]
    refine ⟨_, List.mem_map_of_mem (mem_fanoutTargets.mpr (.inr ⟨r, hr, hmatches, ep, hep, rfl⟩)), rfl⟩

/-- A fanout creates deliveries only for routes of its plan, and for all of them when it does not fail. -/
theorem createsFor_of_processOutbox (routeID : String)
    (hrun : Program.Runs (processOutbox codec registry ⟨itemID, tenantID, .routeEvent, eventID⟩) db
      result db') :
    (CreatesFor routeID db db' → ∃ req ∈ currentPlan tenantID .live eventID db, req.routeID = routeID) ∧
      (result = .ok () → (∃ req ∈ currentPlan tenantID .live eventID db, req.routeID = routeID) →
        CreatesFor routeID db db') := by
  have hensures : Program.Ensures (processOutbox codec registry ⟨itemID, tenantID, .routeEvent, eventID⟩) db
      fun r db' ↦ ∃ part, part <+: currentPlan tenantID .live eventID db ∧ Fulfils codec part db db' ∧
        (r = .ok () → part = currentPlan tenantID .live eventID db) := by
    refine (ensures_createDeliveriesForEvent eventID db).bind ?_ ?_
    · rintro count _ ⟨part, hpart, hdone, hall⟩
      exact Program.ensures_done ⟨part, hpart, hdone, fun _ ↦ (hall count rfl).1⟩
    · rintro _ _ ⟨part, hpart, hdone, -⟩
      exact ⟨part, hpart, hdone, nofun⟩
  obtain ⟨_, hpart, hdone, hall⟩ := hensures _ _ hrun
  constructor
  · rintro ⟨d, hd, hnew, hroute⟩
    obtain ⟨req, hreq, hfor⟩ := hdone.exists_request hd hnew
    exact ⟨req, hpart.subset hreq, hfor.routeID_eq.symm.trans hroute⟩
  · rintro hresult ⟨_, hreq, hroute⟩
    rw [← hall hresult] at hreq
    obtain ⟨d, hd, hnew, hfor⟩ := hdone.exists_delivery hreq
    exact ⟨d, hd, hnew, hfor.routeID_eq.trans hroute⟩

/-- A route for which a delivery is created was matched by the dry run. When the processing of the event
does not fail, the converse holds exactly if the route can deliver the event whenever it is matched. -/
theorem routeDryRun_agrees_iff {out : RouteDryRun} (hr : r ∈ db.routes) (he : e ∈ db.events)
    (htenant : r.tenantID = e.tenantID) (hid : r.id ≠ "")
    (hdry : Program.Runs (dryRunRoute simpleFold e.tenantID r.id e.id) db (.ok out) db)
    (hrun : Program.Runs (processOutbox codec registry ⟨itemID, e.tenantID, .routeEvent, e.id⟩) db
      result db') :
    (CreatesFor r.id db db' → out.matched = true) ∧
      (result = .ok () →
        ((out.matched = true ↔ CreatesFor r.id db db') ↔ RoutesWhenMatched simpleFold r e db)) := by
  obtain ⟨rfl, -⟩ := runs_dryRunRoute hr he hdry
  have hplan := exists_currentPlan_iff hr he htenant hid
  obtain ⟨honly, hall⟩ := createsFor_of_processOutbox r.id hrun
  have hmatched : CreatesFor r.id db db' → (r.dryRun simpleFold e).matched = true := by
    intro hcreates
    obtain ⟨hsource, -, -, htype, -⟩ := hplan.mp (honly hcreates)
    exact matched_dryRun.mpr ⟨hsource, List.any_eq_true.mpr ⟨_, htype, equalFoldWith_self simpleFold _⟩⟩
  refine ⟨hmatched, fun hresult ↦ ⟨fun hagrees hsource htype ↦ ?_, fun hroutes ↦ ⟨fun h ↦ ?_, hmatched⟩⟩⟩
  · have hcreates := hagrees.mp (matched_dryRun.mpr ⟨hsource, htype⟩)
    exact (hplan.mp (honly hcreates)).2
  · obtain ⟨hsource, htype⟩ := matched_dryRun.mp h
    exact hall hresult (hplan.mpr ⟨hsource, hroutes hsource htype⟩)

end Routes

/-! ### The route of the shop -/

/-- The shop after its route was updated. -/
def rerouted (state : Option ConfigState) (eventTypes : Option (List String)) : DB :=
  committedState (updateRoute "t" "rte_0" "alice" ⟨none, none, none, eventTypes, none, none, none, state⟩
    (shopEnv 3) shopConfigured)

/-- The event is processed. -/
def reroutedFanout (state : Option ConfigState) (eventTypes : Option (List String)) : DB :=
  ((processOutbox shopCodec (fun _ _ ↦ none) ⟨"out_1", "t", .routeEvent, "evt_1"⟩).run shopEnv
    (rerouted state eventTypes)).2

/-- Whether the dry run of the route matches, the event is processed, and the route has a delivery. -/
def reroutes (state : Option ConfigState) (eventTypes : Option (List String)) (delivers : Bool) : Bool :=
  okWith ((dryRunRoute id "t" "rte_0" "evt_1").run shopEnv (rerouted state eventTypes)).1 (·.matched) &&
  ((processOutbox shopCodec (fun _ _ ↦ none) ⟨"out_1", "t", .routeEvent, "evt_1"⟩).run shopEnv
    (rerouted state eventTypes)).1.isOk &&
  (reroutedFanout state eventTypes).deliveries.rows.any (·.routeID == "rte_0") == delivers

theorem exists_of_reroutes (h : reroutes state eventTypes delivers = true) :
    (∃ out, out.matched = true ∧ Program.Runs (dryRunRoute id "t" "rte_0" "evt_1")
      (rerouted state eventTypes) (.ok out)
      ((dryRunRoute id "t" "rte_0" "evt_1").run shopEnv (rerouted state eventTypes)).2) ∧
    Program.Runs (processOutbox shopCodec (fun _ _ ↦ none) ⟨"out_1", "t", .routeEvent, "evt_1"⟩)
      (rerouted state eventTypes) (.ok ()) (reroutedFanout state eventTypes) ∧
    (reroutedFanout state eventTypes).deliveries.rows.any (·.routeID == "rte_0") = delivers := by
  simp only [reroutes, Bool.and_eq_true, beq_iff_eq] at h
  obtain ⟨⟨hdry, hok⟩, hdelivers⟩ := h
  obtain ⟨out, hout, hmatched⟩ := exists_of_okWith hdry
  have hruns := Program.runs_run (dryRunRoute id "t" "rte_0" "evt_1") shopEnv (rerouted state eventTypes)
  rw [hout] at hruns
  exact ⟨⟨out, hmatched, hruns⟩, Program.runs_of_isOk hok, hdelivers⟩

/-- The active route matches the event of the shop, gets a delivery, and can deliver it. -/
theorem shop_route_agrees :
    ∃ r ∈ (rerouted (some .active) none).routes, ∃ e ∈ (rerouted (some .active) none).events,
      r.id = "rte_0" ∧ e.id = "evt_1" ∧
      CreatesFor r.id (rerouted (some .active) none) (reroutedFanout (some .active) none) ∧
      RoutesWhenMatched id r e (rerouted (some .active) none) := by
  obtain ⟨⟨_, hmatched, hdry⟩, hrun, hsome⟩ :=
    exists_of_reroutes (show reroutes (some .active) none true = true by decide +kernel)
  obtain ⟨r, hr, hrid, hrtenant⟩ : ∃ r ∈ (rerouted (some .active) none).routes, r.id = "rte_0" ∧ r.tenantID = "t" := by
    decide +kernel
  obtain ⟨e, he, heid, hetenant⟩ : ∃ e ∈ (rerouted (some .active) none).events, e.id = "evt_1" ∧ e.tenantID = "t" := by
    decide +kernel
  have hnone : ∀ d ∈ (rerouted (some .active) none).deliveries, d.routeID ≠ "rte_0" := by decide +kernel
  obtain ⟨d, hd, hdroute⟩ := List.any_eq_true.mp hsome
  rw [beq_iff_eq] at hdroute
  rw [← hrid, ← heid, ← hetenant] at hdry
  rw [← heid, ← hetenant] at hrun
  have hnew : d ∉ (rerouted (some .active) none).deliveries := fun hold ↦ hnone d hold hdroute
  have hcreates : CreatesFor r.id (rerouted (some .active) none) (reroutedFanout (some .active) none) :=
    ⟨d, hd, hnew, hdroute.trans hrid.symm⟩
  rw [(runs_dryRunRoute hr he hdry).2] at hdry
  have hagrees := routeDryRun_agrees_iff hr he (hrtenant.trans hetenant.symm) (by simp [hrid]) hdry hrun
  exact ⟨r, hr, e, he, hrid, heid, hcreates,
    (hagrees.2 rfl).mp ⟨fun _ ↦ hcreates, fun _ ↦ hmatched⟩⟩

/-- A route that is not active, or that lists the type in capital letters, matches and gets no delivery. -/
theorem unroutable_route_matched :
    [(some ConfigState.inactive, none), (none, some ["CHARGE.FAILED"])].Forall fun change ↦
      (∃ out db', Program.Runs (dryRunRoute id "t" "rte_0" "evt_1") (rerouted change.1 change.2) (.ok out) db' ∧
        out.matched = true) ∧
      Program.Runs (processOutbox shopCodec (fun _ _ ↦ none) ⟨"out_1", "t", .routeEvent, "evt_1"⟩)
        (rerouted change.1 change.2) (.ok ()) (reroutedFanout change.1 change.2) ∧
      ∀ d ∈ (reroutedFanout change.1 change.2).deliveries, d.routeID ≠ "rte_0" := by
  have hchecked : ∀ change ∈ [(some ConfigState.inactive, none), (none, some ["CHARGE.FAILED"])],
      reroutes change.1 change.2 false = true := by decide +kernel
  rw [List.forall_iff_forall_mem]
  intro change hchange
  obtain ⟨⟨out, hmatched, hdry⟩, hrun, hnone⟩ := exists_of_reroutes (hchecked change hchange)
  refine ⟨⟨out, _, hdry, hmatched⟩, hrun, fun d hd hroute ↦ ?_⟩
  rw [List.any_eq_false] at hnone
  exact hnone d hd (beq_iff_eq.mpr hroute)

end Webhookery.Delivery
