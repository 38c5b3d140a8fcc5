import Webhookery.Machine.Replays

/-!
# Slots

A slot stands for something that is to be delivered at most once: an original delivery that a replay
job replays, or a subscription or route that an event is for. The deliveries that took a slot are
counted in the store, and what a fanout may still create for it is counted in its phase. A fanout never
gains more than it had.
-/

namespace Webhookery.Machine

open Go Store App Relational

inductive Slot where
  | original (deliveryID : String)
  | subscription (subscriptionID : String)
  | route (routeID : String)

namespace Slot

def id : Slot → String
  | .original id | .subscription id | .route id => id

/-- The slot is one of an event. -/
def ofEvent : Slot → Bool
  | .original _ => false
  | .subscription _ | .route _ => true

/-! ## What is taken -/

/-- The deliveries of a job, or of no job, that took the slot; those of a subscription or route are
for one event. -/
def taken (jobID eventID : String) (db : DB) : Slot → Nat
  | .original id => db.replayItems.rows.countP fun i ↦
      i.replayJobID == jobID && i.originalDeliveryID == id
  | .subscription id => db.deliveries.rows.countP fun d ↦
      d.replayJobID == jobID && (d.eventID == eventID && d.subscriptionID == id)
  | .route id => db.deliveries.rows.countP fun d ↦
      d.replayJobID == jobID && (d.eventID == eventID && d.routeID == id)

/-- Whether a snapshot takes the slot. -/
def hit (eventID : String) (req : DeliverySnapshotRequest) : Slot → Bool
  | .original id => req.originalDeliveryID == id
  | .subscription id => req.eventID == eventID && req.subscriptionID == id
  | .route id => req.eventID == eventID && req.routeID == id

/-! ## What is left -/

def ofTarget (target : DeliveryFanoutTarget) : Slot → Bool
  | .original _ => false
  | .subscription id => target.subscriptionID == id
  | .route id => target.routeID == id

def ofSource (eventID : String) (source : DeliveryReplaySource) : Slot → Bool
  | .original id => source.id == id
  | .subscription id => source.eventID == eventID && source.subscriptionID == id
  | .route id => source.eventID == eventID && source.routeID == id

/-- What the routes may add that were not read yet. -/
def ofRoutes : Slot → Nat
  | .route _ => 1
  | _ => 0

/-- What the named delivery may add. -/
def ofNamed (deliveryID : String) : Slot → Nat
  | .original id => if deliveryID = id then 1 else 0
  | _ => 0

/-- What the named delivery may add once it was read. -/
def ofExisting (eventID deliveryID : String) (source : DeliveryReplaySource) : Slot → Nat
  | .original id => if deliveryID = id then 1 else 0
  | _ => if source.eventID = eventID then 1 else 0

/-- What a fanout may still create for the slot. -/
def left (eventID deliveryID : String) (slot : Slot) : Todo → Nat
  | .event | .allowed => 1
  | .subscriptions targets =>
    targets.countP (fun t ↦ slot.ofTarget t) + slot.ofRoutes + slot.ofNamed deliveryID
  | .targets targets => targets.countP (fun t ↦ slot.ofTarget t) + slot.ofNamed deliveryID
  | .originals sources => sources.countP (fun s ↦ slot.ofSource eventID s) + slot.ofNamed deliveryID
  | .delivery => slot.ofNamed deliveryID
  | .existing source => slot.ofExisting eventID deliveryID source
  | .done => 0

theorem ofNamed_le_one (slot : Slot) (deliveryID : String) : slot.ofNamed deliveryID ≤ 1 := by
  cases slot with
  | original =>
    simp only [ofNamed]
    split <;> simp
  | subscription | route => simp [ofNamed]

theorem left_delivery_le (slot : Slot) (eventID deliveryID : String)
    (h : todo.ofEvent = true) : slot.left eventID deliveryID .delivery ≤ slot.left eventID deliveryID todo := by
  have hnamed := slot.ofNamed_le_one deliveryID
  cases todo with
  | event | allowed | subscriptions | targets | originals =>
    simp only [left]
    omega
  | delivery | existing | done => cases h

end Slot

/-! ## Targets and originals of a slot -/

section Reads

variable {db : DB} {tenantID eventType sourceID : String}

theorem length_joinedEndpoints_le_one {α : Type} {f : Endpoint → α} (tenantID endpointID : String) :
    ((joinedEndpoints tenantID endpointID db).map f).length ≤ 1 := by
  rw [List.length_map]
  by_cases h : ∃ e ∈ db.endpoints, (e.tenantID == tenantID && e.id == endpointID) = true
  case neg =>
    push Not at h
    rw [joinedEndpoints, List.filter_eq_nil_iff.mpr h]
    simp
  case pos =>
    obtain ⟨_, he, hmatch⟩ := h
    rw [joinedEndpoints, Table.filter_eq_singleton he hmatch]
    · simp
    · intro x hx hx'
      simp only [Bool.and_eq_true, beq_iff_eq] at hmatch hx'
      exact Table.eq_of_key_eq hx he (hx'.2.trans hmatch.2.symm)

theorem countP_subscriptionTargets {slot : Slot} (hslot : slot.id ≠ "") :
    (listSubscriptionTargets tenantID eventType db).countP (fun t ↦ slot.ofTarget t) + slot.ofRoutes ≤ 1 := by
  cases slot with
  | original => simp [Slot.ofTarget, Slot.ofRoutes]
  | subscription id =>
    have hnodup : ((db.subscriptions.rows.filter
        (Subscription.matches tenantID eventType)).map Subscription.id).Nodup :=
      db.subscriptions.key_nodup.sublist (List.filter_sublist.map _)
    have hcount : (listSubscriptionTargets tenantID eventType db).countP (·.subscriptionID == id) ≤ 1 := by
      refine Table.countP_flatMap_le_one (k := id) hnodup (fun s ↦ length_joinedEndpoints_le_one _ _)
        fun s t ht hid ↦ ?_
      obtain ⟨_, -, rfl⟩ := List.mem_map.mp ht
      exact beq_iff_eq.mp hid
    simpa [Slot.ofTarget, Slot.ofRoutes] using hcount
  | route id =>
    have hcount : (listSubscriptionTargets tenantID eventType db).countP (·.routeID == id) = 0 := by
      rw [List.countP_eq_zero]
      intro t ht hid
      obtain ⟨_, -, ht⟩ := List.mem_flatMap.mp ht
      obtain ⟨_, -, rfl⟩ := List.mem_map.mp ht
      exact hslot (beq_iff_eq.mp hid).symm
    simp [Slot.ofTarget, Slot.ofRoutes, hcount]

theorem countP_routeTargets {slot : Slot} (hslot : slot.id ≠ "") :
    (listRouteTargets tenantID sourceID eventType db).countP (fun t ↦ slot.ofTarget t) ≤ slot.ofRoutes := by
  cases slot with
  | original => simp [Slot.ofTarget]
  | subscription id =>
    have hcount : (listRouteTargets tenantID sourceID eventType db).countP (·.subscriptionID == id) = 0 := by
      rw [List.countP_eq_zero]
      intro t ht hid
      obtain ⟨_, -, ht⟩ := List.mem_flatMap.mp ht
      obtain ⟨_, -, rfl⟩ := List.mem_map.mp ht
      exact hslot (beq_iff_eq.mp hid).symm
    simp [Slot.ofTarget, hcount]
  | route id =>
    have hperm := List.perm_insertionSort (fun r r' : Route ↦ r.priority ≤ r'.priority)
      (db.routes.rows.filter (Route.matches tenantID sourceID eventType))
    have hnodup := (hperm.map Route.id).nodup_iff.mpr
      (db.routes.key_nodup.sublist (List.filter_sublist.map _))
    refine Table.countP_flatMap_le_one (k := id) hnodup (fun r ↦ length_joinedEndpoints_le_one _ _)
      fun r t ht hid ↦ ?_
    obtain ⟨_, -, rfl⟩ := List.mem_map.mp ht
    exact beq_iff_eq.mp hid

/-- Every original delivery is read once, and all of them are of the event. -/
theorem countP_originals (db : DB) (tenantID eventID id : String) :
    (listOriginalDeliveryReplaySources tenantID eventID db).countP (·.id == id) ≤ 1 ∧
      ∀ s ∈ listOriginalDeliveryReplaySources tenantID eventID db, ∃ d ∈ db.deliveries,
        d.id = s.id ∧ d.eventID = eventID := by
  have hperm := List.perm_insertionSort
    (fun d d' : Delivery ↦ d.createdAt < d'.createdAt ∨ d.createdAt = d'.createdAt ∧ d.id ≤ d'.id)
    (originalDeliveries tenantID eventID db)
  refine ⟨?_, fun s hs ↦ ?_⟩
  · rw [listOriginalDeliveryReplaySources, List.countP_map, hperm.countP_eq]
    have hnodup : ((originalDeliveries tenantID eventID db).map Delivery.id).Nodup :=
      db.deliveries.key_nodup.sublist (List.filter_sublist.map _)
    have hcount := List.nodup_iff_count_le_one.mp hnodup id
    rwa [List.count, List.countP_map] at hcount
  · obtain ⟨d, hd, rfl⟩ := List.mem_map.mp hs
    obtain ⟨hd, hmatch⟩ := List.mem_filter.mp (hperm.mem_iff.mp hd)
    simp only [Bool.and_eq_true, beq_iff_eq] at hmatch
    exact ⟨d, hd, rfl, hmatch.1.2⟩

end Reads

/-! ## Fanouts spend what they have -/

/-- The delivery that a replay names, empty for a routed event. -/
def fanoutDelivery : Option ReplayJobWork → String
  | none => ""
  | some work => work.request.deliveryID

section Fanout

variable {db : DB} {item : OutboxItem} {job : Option ReplayJobWork} {todo todo' : Todo} {slot : Slot}

/-- A read does not add to what is left. A replay that names an event and a delivery names them apart,
and slots of subscriptions and routes are for replays in current mode. -/
theorem left_of_learns (hslot : slot.id ≠ "") (h : Learns item job db todo todo')
    (hmode : ∀ work, job = some work → slot.ofEvent = true → work.configMode = .current)
    (hapart : ∀ work, job = some work → ∀ d ∈ db.deliveries, d.id = work.request.deliveryID →
      d.eventID ≠ work.request.eventID) :
    slot.left (fanoutEvent item job) (fanoutDelivery job) todo' ≤
      slot.left (fanoutEvent item job) (fanoutDelivery job) todo := by
  cases h with
  | allowed => exact le_rfl
  | subscriptions eventType =>
    have hcount : (listSubscriptionTargets item.tenantID eventType db).countP (fun t ↦ slot.ofTarget t) +
        slot.ofRoutes ≤ 1 := countP_subscriptionTargets hslot
    cases slot with
    | original id =>
      have hnamed := (Slot.original id).ofNamed_le_one (fanoutDelivery job)
      simpa [Slot.left, Slot.ofTarget, Slot.ofRoutes] using hnamed
    | subscription | route => simpa [Slot.left, Slot.ofNamed] using hcount
  | routes _ sourceID eventType =>
    have hcount : (listRouteTargets item.tenantID sourceID eventType db).countP
        (fun t ↦ slot.ofTarget t) ≤ slot.ofRoutes := countP_routeTargets hslot
    simp only [Slot.left, List.countP_append]
    omega
  | originals work replay original =>
    subst replay
    cases slot with
    | subscription | route => exact absurd ((hmode work rfl rfl).symm.trans original) nofun
    | original id =>
      obtain ⟨hcount, hevents⟩ := countP_originals db item.tenantID work.request.eventID id
      have hleft : Slot.left work.request.eventID work.request.deliveryID (.original id)
          (.originals (listOriginalDeliveryReplaySources item.tenantID work.request.eventID db)) =
          (listOriginalDeliveryReplaySources item.tenantID work.request.eventID db).countP
            (fun s ↦ s.id == id) + if work.request.deliveryID = id then 1 else 0 := rfl
      change Slot.left work.request.eventID work.request.deliveryID _ _ ≤ 1
      rw [hleft]
      split
      case isFalse => simpa using hcount
      case isTrue hnamed =>
        -- the named delivery is not one of the event
        have hzero : (listOriginalDeliveryReplaySources item.tenantID work.request.eventID db).countP
            (fun s ↦ s.id == id) = 0 := by
          rw [List.countP_eq_zero]
          intro s hs hid
          obtain ⟨d, hd, hds, hevent⟩ := hevents s hs
          exact hapart work rfl d hd (hds.trans ((beq_iff_eq.mp hid).trans hnamed.symm)) hevent
        rw [hzero]
  | existing work replay _ read =>
    subst replay
    obtain ⟨d, hselect, rfl⟩ := map_eq_ok.mp read
    obtain ⟨hd, -, hid⟩ := selectRow_columns hselect
    have hevent := hapart work rfl d hd hid
    cases slot with
    | original => exact le_rfl
    | subscription | route => simp [Slot.left, Slot.ofExisting, fanoutEvent, Delivery.replaySource, hevent]

/-- A snapshot is paid for by what is left. -/
theorem left_of_takes (hslot : slot.id ≠ "") (h : Takes item job todo req todo') :
    slot.left (fanoutEvent item job) (fanoutDelivery job) todo' +
        (if slot.hit (fanoutEvent item job) req then 1 else 0) ≤
      slot.left (fanoutEvent item job) (fanoutDelivery job) todo := by
  cases h with
  | target target _ opts at' =>
    have hhit : slot.hit (fanoutEvent item job)
        (targetRequest item.tenantID (fanoutEvent item job) target opts at') = slot.ofTarget target := by
      cases slot with
      | original => exact beq_eq_false_iff_ne.mpr hslot.symm
      | subscription | route => simp [Slot.hit, Slot.ofTarget, targetRequest]
    simp only [Slot.left, hhit, List.countP_cons]
    omega
  | original _ source _ opts at' =>
    have hhit : slot.hit (fanoutEvent item job)
        { sourceRequest item.tenantID source opts at' with deliveryPayloadMode := .clone } =
        slot.ofSource (fanoutEvent item job) source := by
      cases slot <;> rfl
    simp only [Slot.left, hhit, List.countP_cons]
    omega
  | existing work _ _ isReplay _ event _ original =>
    subst isReplay
    cases slot with
    | original id =>
      by_cases hnamed : work.request.deliveryID = id <;>
        simp [Slot.left, Slot.ofExisting, Slot.hit, original, fanoutDelivery, hnamed]
    | subscription | route =>
      simp only [Slot.left, Slot.ofExisting, Slot.hit, event, Bool.and_eq_true, beq_iff_eq]
      split
      case isTrue h => simp [h.1]
      case isFalse => simp

end Fanout

/-! ## What a move takes -/

section Taken

variable {l : Op} {q q' : Phase} {env : Env} {db db' : DB} {jobID eventID : String} {slot : Slot}

/-- How a worker comes to a fanout. -/
inductive FanoutStep (db db' : DB) (item : OutboxItem) (rest : List OutboxItem) :
    Option ReplayJobWork → Todo → Phase → Prop
  | keep (job : Option ReplayJobWork) (todo : Todo) :
      FanoutStep db db' item rest job todo (.working item (.fanout job todo) rest)
  | start (work : ReplayJobWork)
      (commits : startReplayJob item.tenantID item.resourceID db = .ok (true, db')) :
      FanoutStep db db' item rest (some work) .event (.working item (.loaded work) rest)
  | learn (job : Option ReplayJobWork) (todo todo' : Todo) (learns : Learns item job db todo todo') :
      FanoutStep db db' item rest job todo' (.working item (.fanout job todo) rest)
  | take (job : Option ReplayJobWork) (todo todo' : Todo) (req : DeliverySnapshotRequest)
      (takes : Takes item job todo req todo') :
      FanoutStep db db' item rest job todo' (.working item (.fanout job todo) rest)

theorem fanoutStep_of_act (h : Act l q env db (.working item (.fanout job todo) rest) db') :
    FanoutStep db db' item rest job todo q := by
  cases h with
  | outside => exact .keep job todo
  | dispatch dispatch => cases dispatch
  | create _ _ _ _ _ next => cases next
  | start _ _ work commits => exact .start work commits
  | learn _ job todo _ _ learns => exact .learn job todo _ learns
  | snapshot _ job todo _ _ _ req _ takes =>
    exact .take job todo _ req takes
  | noop _ work todo => exact .keep (some work) todo

/-- Only a snapshot raises a count, by one at most and only for the requests of the job that hit. -/
def RaisedBySnapshot (q q' : Phase) (jobID : String) (hits : DeliverySnapshotRequest → Bool) (n n' : Nat) : Prop :=
  n' ≤ n ∨ ∃ item job todo todo' rest req, q = .working item (.fanout job todo) rest ∧
    q' = .working item (.fanout job todo') rest ∧ Takes item job todo req todo' ∧
    n' ≤ n + if req.replayJobID = jobID ∧ hits req then 1 else 0

/-- The deliveries that match a predicate of the fields that never change. -/
theorem countP_of_act {p : Delivery → Bool} (hp : ∀ d d', SameDelivery d d' → p d' = p d)
    (hhits : ∀ codec req ref, p ((deliveryRow codec env req).withPayload ref) = (req.replayJobID == jobID && hits req))
    (h : Act l q env db q' db') :
    RaisedBySnapshot q q' jobID hits (db.deliveries.rows.countP p) (db'.deliveries.rows.countP p) := by
  cases deliveriesStep_of_act h with
  | created taken before after takes =>
    refine .inr ⟨_, _, _, _, _, _, before, after, takes, ?_⟩
    rw [taken.deliveries, List.countP_append, List.countP_singleton, hhits]
    simp
  | updated f rows same =>
    refine .inl (le_of_eq ?_)
    rw [rows, List.countP_map]
    exact List.countP_congr fun d _ ↦ by simp [hp d (f d) (same d)]

/-- Only a snapshot takes a slot. -/
theorem taken_of_act (jobID eventID : String) (hslot : slot.id ≠ "") (h : Act l q env db q' db') :
    RaisedBySnapshot q q' jobID (slot.hit eventID ·) (slot.taken jobID eventID db) (slot.taken jobID eventID db') := by
  cases slot with
  | original =>
    cases deliveryMove_of_act h with
    | dispatch dispatch =>
      rw [Slot.taken, Slot.taken, (frame_of_dispatch dispatch).2.1]
      exact .inl le_rfl
    | snapshot taken _ before after takes =>
      refine .inr ⟨_, _, _, _, _, _, before, after, takes, ?_⟩
      obtain ⟨_, hrows, -, hlength, hitems⟩ := taken.replayItems
      rw [Slot.taken, Slot.taken, hrows, List.countP_append, Nat.add_le_add_iff_left]
      split
      case isTrue => exact Nat.le_trans List.countP_le_length hlength
      case isFalse hmiss =>
        rw [Nat.le_zero, List.countP_eq_zero]
        intro i hi hmatch
        obtain ⟨hjob, horiginal, -⟩ := hitems i hi
        rw [hjob, horiginal, Bool.and_eq_true, beq_iff_eq] at hmatch
        exact hmiss hmatch
    | other _ _ noted =>
      obtain ⟨_, rows, nothing⟩ := noted.items
      refine .inl (le_of_eq ?_)
      simp only [Slot.taken, rows, List.countP_append, Nat.add_eq_left]
      rw [List.countP_eq_zero]
      intro i hi hmatch
      rw [(nothing i hi).1, Bool.and_eq_true, beq_iff_eq, beq_iff_eq] at hmatch
      exact hslot hmatch.2.symm
  | subscription =>
    refine countP_of_act (fun d d' hsame ↦ ?_) (fun _ _ _ ↦ rfl) h
    rw [hsame.replayJobID, hsame.eventID, hsame.subscriptionID]
  | route =>
    refine countP_of_act (fun d d' hsame ↦ ?_) (fun _ _ _ ↦ rfl) h
    rw [hsame.replayJobID, hsame.eventID, hsame.routeID]

end Taken

end Webhookery.Machine
