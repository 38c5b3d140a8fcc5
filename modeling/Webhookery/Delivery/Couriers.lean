import Webhookery.Delivery.Attempts
import Webhookery.Delivery.Fairness

/-!
# Delivery workers and what they hold

A delivery worker claims deliveries, and holds each of them until it has recorded its attempt, crashes or
gives up. Here the threads of delivery workers are described by what they hold and until when their leases
run, and all other threads by their programs. Every run of the operations is a run of these couriers.
-/

namespace Webhookery.Delivery

open Go Store App Relational Concurrency Provider Machine

/-- A claimed delivery, with the time of the claim and the end of its lease. -/
structure Hold where
  item : DeliveryItem
  (claimedAt expiresAt : Time)

def Hold.taken (now : Time) (item : DeliveryItem) : Hold := ⟨item, now, timestamptz now + deliveryLeaseTime⟩

/-- What is left to do for a thread: a delivery worker claims, sends the first of the deliveries it holds,
records what became of it, or has given up. -/
inductive Courier : Type 1 where
  | other (p : Work Unit)
  | claiming
  | sending (holds : List Hold)
  | recording (hold : Hold) (result : DeliveryResult) (rest : List Hold)
  | stopped (e : StoreError)

/-- The deliveries that a thread has not recorded yet. -/
def Courier.holds : Courier → List Hold
  | .sending holds => holds
  | .recording hold _ rest => hold :: rest
  | _ => []

/-- The deliveries that a thread has not sent yet. -/
def Courier.unsent : Courier → List Hold
  | .sending holds => holds
  | .recording _ _ rest => rest
  | _ => []

/-- One transaction, which fails without effect when the connection does. -/
def commitOn {α : Type} (t : Env → DB → Except StoreError (α × DB)) (env : Env) (db : DB) : Except StoreError α × DB :=
  Program.commit (fun env db ↦ if env.connectionFails then .error .failed else t env db) env db

/-- The next step of a thread. -/
def Courier.next (l : Op) (k : Courier) (env : Env) (db : DB) : Option (Courier × DB) :=
  match l, k with
  | _, .other (.step action rest) => some (.other (rest (action env db).1), (action env db).2)
  | .runDeliveries _ _ workerID limit, .claiming =>
    match commitOn (claimDueDeliveries workerID (if limit ≤ 0 then 10 else limit.toNat)) env db with
    | (.ok items, db') => some (.sending (items.map (.taken env.now)), db')
    | (.error e, db') => some (.stopped e, db')
  | .runDeliveries _ client _ _, .sending (hold :: rest) =>
    some (.recording hold (client hold.item).result rest,
      if (client hold.item).sent then
        { db with
          sent := db.sent ++
            [⟨hold.item.tenantID, hold.item.id, hold.item.endpointURL, hold.item.body⟩] }
      else db)
  | .runDeliveries crypto _ _ _, .recording hold result rest =>
    match commitOn (recordDeliveryAttempt crypto hold.item result) env db with
    | (.ok _, db') => some (.sending rest, db')
    | (.error e, db') => some (.stopped e, db')
  | _, _ => none

def couriers : Automaton Op Env DB Courier where
  start l := if l.delivers then .claiming else .other l.program
  next := Courier.next

/-! ## The programs of couriers -/

/-- The program that a thread still has to run. -/
def Courier.program : Op → Courier → Work Unit
  | _, .other p => p
  | .runDeliveries crypto client workerID limit, .claiming =>
    App.runDeliveries crypto client workerID limit
  | .runDeliveries crypto client _ _, .sending holds =>
    .forEach (attemptDelivery crypto client) (holds.map Hold.item)
  | .runDeliveries crypto client _ _, .recording hold result rest =>
    (transaction (recordDeliveryAttempt crypto hold.item result)).bind fun _ ↦
      .forEach (attemptDelivery crypto client) (rest.map Hold.item)
  | _, .stopped e => .done (.error e)
  | _, _ => .done (.ok ())

section Programs

variable {l : Op} {k : Courier} {env : Env} {db db' : DB} {p' : Work Unit}

theorem exists_runDeliveries (hl : l.delivers = true) :
    ∃ crypto client workerID limit, l = .runDeliveries crypto client workerID limit := by
  cases l <;> first | exact ⟨_, _, _, _, rfl⟩ | cases hl

theorem program_other (p : Work Unit) : Courier.program l (.other p) = p := by
  cases l <;> rfl

theorem program_of_not_delivers (hl : l.delivers = false) (hk : ∀ p, k ≠ .other p) : ∃ r, k.program l = .done r := by
  cases k with
  | other p => exact absurd rfl (hk p)
  | claiming | sending | recording | stopped => cases l <;> first | exact ⟨_, rfl⟩ | cases hl

/-- Every move of the program of a thread is its next step. -/
theorem next_of_moves (h : Program.Moves (k.program l) env db p' db') :
    ∃ k', k.next l env db = some (k', db') ∧ p' = k'.program l := by
  generalize hp : k.program l = p at h
  obtain ⟨action, rest⟩ := h
  by_cases hk : ∃ p, k = .other p
  · obtain ⟨_, rfl⟩ := hk
    rw [program_other] at hp
    subst hp
    refine ⟨.other (rest (action env db).1), ?_, (program_other _).symm⟩
    cases l <;> rfl
  cases hl : l.delivers with
  | false =>
    obtain ⟨_, hr⟩ := program_of_not_delivers hl (fun p hp ↦ hk ⟨p, hp⟩)
    cases hr.symm.trans hp
  | true =>
    obtain ⟨crypto, _, workerID, limit, rfl⟩ := exists_runDeliveries hl
    cases k with
    | other p => exact absurd ⟨p, rfl⟩ hk
    | claiming =>
      cases hp
      change ∃ k', Courier.next _ .claiming env db = some (k', (commitOn _ env db).2) ∧
        Program.bind _ (.done (commitOn _ env db).1) = _
      dsimp only [Courier.next]
      match commitOn (claimDueDeliveries workerID (if limit ≤ 0 then 10 else limit.toNat)) env db with
      | (.ok items, db') =>
        refine ⟨_, rfl, ?_⟩
        have hitems : (items.map (Hold.taken env.now)).map Hold.item = items := by
          rw [List.map_map]
          exact List.map_id items
        rw [Courier.program, hitems]
        rfl
      | (.error e, db') => exact ⟨_, rfl, rfl⟩
    | sending holds =>
      cases holds with
      | nil => cases hp
      | cons =>
        cases hp
        exact ⟨_, rfl, rfl⟩
    | recording hold result held =>
      cases hp
      change ∃ k', Courier.next _ (.recording hold result held) env db =
        some (k', (commitOn _ env db).2) ∧ Program.bind _ (.done (commitOn _ env db).1) = _
      dsimp only [Courier.next]
      match commitOn (recordDeliveryAttempt crypto hold.item result) env db with
      | (.ok _, db') => exact ⟨_, rfl, rfl⟩
      | (.error e, db') => exact ⟨_, rfl, rfl⟩
    | stopped => cases hp

end Programs

theorem simulation_couriers : System.Simulation App.system couriers.system (fun l p k ↦ p = k.program l) where
  enter := by
    rintro l _ rfl
    refine ⟨_, rfl, ?_⟩
    cases l <;> rfl
  move := by
    rintro l _ _ _ _ _ k rfl hmoves
    exact next_of_moves hmoves

/-! ## What the steps of couriers do -/

section Steps

variable {l : Op} {k k' : Courier} {env : Env} {db db' : DB} {q q' : Phase} {item : DeliveryItem} {α : Type}

/-- The thread of a delivery worker is described by what it holds, any other by a program of the
machine. -/
def Courier.Fits (l : Op) : Courier → Prop
  | .other p => l.delivers = false ∧
      ∃ q, Program.Follows (machine.move l) (fun _ _ ↦ True) (fun _ ↦ True) p q
  | _ => l.delivers = true

theorem fits_start (l : Op) : (couriers.start l).Fits l := by
  change Courier.Fits l (if l.delivers then .claiming else .other l.program)
  cases hl : l.delivers with
  | true => exact hl
  | false => exact ⟨hl, .idle, follows_program l⟩

/-- What one step of a thread does. -/
inductive CourierStep (l : Op) (k : Courier) (env : Env) (db : DB) (k' : Courier) (db' : DB) : Prop
  | elsewhere (p p' : Work Unit) (before : k = .other p) (after : k' = .other p')
      (label : l.delivers = false) (rows : RowsStep l env db db') : CourierStep l k env db k' db'
  | claimed (workerID : String) (limit : Nat) (items : List DeliveryItem) (before : k = .claiming)
      (after : k' = .sending (items.map (.taken env.now)))
      (commits : claimDueDeliveries workerID limit env db = .ok (items, db')) :
      CourierStep l k env db k' db'
  | unclaimed (e : StoreError) (before : k = .claiming) (after : k' = .stopped e) (state : db' = db) :
      CourierStep l k env db k' db'
  | sent (hold : Hold) (rest : List Hold) (reply : ClientReply) (before : k = .sending (hold :: rest))
      (after : k' = .recording hold reply.result rest)
      (state : db' = if reply.sent then
        { db with
          sent := db.sent ++
            [⟨hold.item.tenantID, hold.item.id, hold.item.endpointURL, hold.item.body⟩] }
        else db) : CourierStep l k env db k' db'
  | recorded (crypto : Crypto) (hold : Hold) (result : DeliveryResult) (rest : List Hold)
      (label : l.crypto = some crypto) (before : k = .recording hold result rest)
      (after : k' = .sending rest)
      (commits : recordDeliveryAttempt crypto hold.item result env db = .ok ((), db')) :
      CourierStep l k env db k' db'
  | unrecorded (crypto : Crypto) (hold : Hold) (result : DeliveryResult) (rest : List Hold)
      (e : StoreError) (label : l.crypto = some crypto) (before : k = .recording hold result rest)
      (after : k' = .stopped e) (state : db' = db)
      (refused : env.connectionFails = true ∨
        ∃ e, recordDeliveryAttempt crypto hold.item result env db = .error e) :
      CourierStep l k env db k' db'

section Commits

variable {t : Env → DB → Except StoreError (α × DB)} {a : α} {e : StoreError}

theorem commitOn_eq_ok : commitOn t env db = (.ok a, db') ↔ env.connectionFails = false ∧ t env db = .ok (a, db') := by
  unfold commitOn Program.commit
  cases hfails : env.connectionFails <;> cases ht : t env db <;> simp [hfails, ht, Prod.ext_iff]

theorem commitOn_eq_error :
    commitOn t env db = (.error e, db') ↔ db = db' ∧
      (env.connectionFails = true ∧ .failed = e ∨ env.connectionFails = false ∧ t env db = .error e) := by
  unfold commitOn Program.commit
  cases hfails : env.connectionFails <;> cases ht : t env db <;> simp [hfails, ht, and_comm]

end Commits

theorem courierStep_of_next (hfits : k.Fits l) (h : k.next l env db = some (k', db')) :
    CourierStep l k env db k' db' ∧ k'.Fits l := by
  cases k with
  | other p =>
    obtain ⟨hl, _, hfollows⟩ := hfits
    cases p with
    | done => cases l <;> cases h
    | step action rest =>
      have hnext : Courier.next l (.other (.step action rest)) env db =
          some (.other (rest (action env db).1), (action env db).2) := by
        cases l <;> rfl
      cases hnext.symm.trans h
      obtain ⟨q', ⟨_, -, hact⟩, hrest⟩ := hfollows env db
      refine ⟨.elsewhere _ _ rfl rfl hl ?_, hl, q', hrest⟩
      rcases rowsStep_of_act hact with hrows | ⟨_, _, _, _, -, hdelivers, -⟩
      · exact hrows
      · exact absurd (hdelivers.symm.trans hl) (by decide)
  | claiming =>
    obtain ⟨_, _, workerID, _, rfl⟩ := exists_runDeliveries hfits
    dsimp only [Courier.next] at h
    split at h
    case h_1 items _ hcommits =>
      cases h
      exact ⟨.claimed workerID _ items rfl rfl (commitOn_eq_ok.mp hcommits).2, rfl⟩
    case h_2 e _ hrefused =>
      cases h
      exact ⟨.unclaimed e rfl rfl (commitOn_eq_error.mp hrefused).1.symm, rfl⟩
  | sending holds =>
    obtain ⟨_, client, _, _, rfl⟩ := exists_runDeliveries hfits
    cases holds with
    | nil => cases h
    | cons hold rest =>
      cases h
      exact ⟨.sent hold rest (client hold.item) rfl rfl rfl, rfl⟩
  | recording hold result rest =>
    obtain ⟨crypto, _, _, _, rfl⟩ := exists_runDeliveries hfits
    dsimp only [Courier.next] at h
    split at h
    case h_1 hcommits =>
      cases h
      exact ⟨.recorded crypto hold result rest rfl rfl rfl (commitOn_eq_ok.mp hcommits).2, rfl⟩
    case h_2 e _ hrefused =>
      cases h
      obtain ⟨hstate, hreason⟩ := commitOn_eq_error.mp hrefused
      exact ⟨.unrecorded crypto hold result rest e rfl rfl rfl hstate.symm
        (hreason.imp And.left fun h ↦ ⟨e, h.2⟩), rfl⟩
  | stopped =>
    obtain ⟨_, _, _, _, rfl⟩ := exists_runDeliveries hfits
    cases h

/-! ## Claims -/

/-- The item is the delivery as the claim read it. -/
structure Snapshot (d : Delivery) (item : DeliveryItem) : Prop where
  id : item.id = d.id
  tenantID : item.tenantID = d.tenantID
  endpointID : item.endpointID = d.endpointID
  attemptCount : item.attemptCount = d.attemptCount
  retryPolicyID : item.retryPolicyID = d.retryPolicyID

theorem snapshot_of_populate (h : populateDeliveryItem env db d = .ok item) : Snapshot d item := by
  obtain ⟨_, -, h⟩ := bind_eq_ok.mp h
  dsimp only at h
  split at h
  case h_1 =>
    obtain ⟨_, -, h⟩ := bind_eq_ok.mp h
    obtain ⟨_, -, h⟩ := bind_eq_ok.mp h
    obtain ⟨⟨_, _⟩, -, h⟩ := bind_eq_ok.mp h
    cases h
    exact ⟨rfl, rfl, rfl, rfl, rfl⟩
  case h_2 => cases h

theorem Snapshot.of_released (h : Snapshot (d.released now) item) : Snapshot d item := by
  unfold Delivery.released at h
  split at h
  · exact ⟨h.id, h.tenantID, h.endpointID, h.attemptCount, h.retryPolicyID⟩
  · exact h

/-- An endpoint that takes deliveries at the time. -/
def TakesDeliveries (db : DB) (now : Time) (tenantID endpointID : String) : Prop :=
  ∃ e ∈ db.endpoints, e.tenantID = tenantID ∧ e.id = endpointID ∧ e.state = .active ∧
    ∀ t ∈ e.disabledUntil, t ≤ now

/-- What a committed claim does: its items are distinct deliveries that were due once expired leases were
released, and these are in progress for a lease. -/
structure ClaimTakes (workerID : String) (now : Time) (items : List DeliveryItem) (db db' : DB) : Prop where
  nodup : (items.map DeliveryItem.id).Nodup
  due : ∀ item ∈ items, ∃ d ∈ db.deliveries, Snapshot d item ∧ (d.released now).state = .scheduled ∧
    TakesDeliveries db now item.tenantID item.endpointID
  rows : db'.deliveries.rows = db.deliveries.rows.map fun d ↦
    if d.id ∈ items.map DeliveryItem.id then (d.released now).claimedBy workerID now else d.released now
  frame : db' = { db with deliveries := db'.deliveries }

theorem claimTakes_of_commit (h : claimDueDeliveries workerID limit env db = .ok (items, db')) :
    ClaimTakes workerID env.now items db db' := by
  obtain ⟨_, hpopulate, h⟩ := bind_eq_ok.mp h
  cases h
  have hids := ids_of_populate hpopulate
  constructor
  case nodup =>
    have hsorted := ((List.perm_insertionSort (fun d d' ↦
      deliveryClaimOrder (eligibleDeliveries env.now db) d d' = true) _).map Delivery.id).nodup_iff.mpr
        (nodup_eligibleDeliveries env.now db)
    rw [hids]
    exact hsorted.sublist ((List.take_sublist limit _).map Delivery.id)
  case due =>
    intro item hitem
    obtain ⟨_, hclaimed, hitem⟩ := exists_of_mapM_eq_ok hpopulate hitem
    have hcandidate := List.mem_filter.mp ((List.mem_insertionSort _).mp (List.mem_of_mem_take hclaimed))
    obtain ⟨d, hd, rfl⟩ := List.mem_map.mp hcandidate.1
    have hsnapshot := snapshot_of_populate hitem
    have hdue := hcandidate.2
    simp only [Delivery.due, Bool.and_eq_true, beq_iff_eq, List.any_eq_true, Option.all_eq_true,
      decide_eq_true_eq] at hdue
    obtain ⟨⟨hstate, -⟩, e, he, ⟨⟨htenant, hid⟩, hactive⟩, hdisabled⟩ := hdue
    refine ⟨d, hd, hsnapshot.of_released, hstate, e, he, ?_, ?_, hactive, hdisabled⟩
    · rw [htenant, hsnapshot.tenantID]
    · rw [hid, hsnapshot.endpointID]
  case rows =>
    apply List.map_congr_left
    intro d _
    rw [deliveryClaimUpdate, hids]
    simp only [List.contains_iff_mem]
  case frame => rfl

/-! ## Deliveries and policies stay -/

/-- Deliveries stay, with the data that was set when they were created. -/
def DeliveriesKept (db db' : DB) : Prop :=
  ∀ d ∈ db.deliveries, ∃ d' ∈ db'.deliveries, SameSnapshot d d'

theorem DeliveriesKept.of_map
    (hrows : db'.deliveries.rows = db.deliveries.rows.map f) (hf : ∀ d, SameSnapshot d (f d)) :
    DeliveriesKept db db' := by
  intro d hd
  refine ⟨f d, ?_, hf d⟩
  exact (Table.mem_map hrows).mpr ⟨_, hd, rfl⟩

theorem DeliveriesKept.of_eq (h : db'.deliveries = db.deliveries) : DeliveriesKept db db' :=
  .of_map (f := id) (by rw [h, List.map_id]) .refl

theorem DeliveriesKept.exists_id (h : DeliveriesKept db db') :
    (∃ d ∈ db.deliveries, d.id = deliveryID) → ∃ d ∈ db'.deliveries, d.id = deliveryID := by
  rintro ⟨d, hd, rfl⟩
  obtain ⟨d', hd', hsame⟩ := h d hd
  exact ⟨d', hd', by rw [hsame]⟩

theorem DeliveriesKept.of_append (hrows : db'.deliveries.rows = db.deliveries.rows ++ [row]) : DeliveriesKept db db' :=
  fun d hd ↦ ⟨d, (Table.mem_append hrows).mpr (.inl hd), .refl d⟩

theorem RowsStep.kept (h : RowsStep l env db db') : DeliveriesKept db db' ∧ PoliciesKept db db' := by
  cases h with
  | retried _ _ _ commits =>
    obtain ⟨_, -, h⟩ := bind_eq_ok.mp commits
    cases h
    exact ⟨.of_map rfl fun d ↦ by split <;> rfl, .of_eq rfl⟩
  | created _ _ _ rows _ _ policies => exact ⟨.of_append rows, policies⟩
  | carried _ carries => exact ⟨.of_map carries.rows carries.same, carries.policies⟩

theorem kept_of_record {crypto : Crypto} {result : DeliveryResult}
    (h : recordDeliveryAttempt crypto item result env db = .ok ((), db')) :
    DeliveriesKept db db' ∧ PoliciesKept db db' := by
  obtain ⟨outcome, _, _, -, -, rfl⟩ := recordDeliveryAttempt_eq_ok h
  refine ⟨.of_map rfl fun d ↦ ?_, .of_eq rfl⟩
  split
  · exact sameSnapshot_afterAttempt crypto env.now item outcome d
  · exact .refl d

/-- No step of a thread removes a delivery or a policy. -/
theorem CourierStep.kept (h : CourierStep l k env db k' db') : DeliveriesKept db db' ∧ PoliciesKept db db' := by
  cases h with
  | elsewhere _ _ _ _ _ rows => exact rows.kept
  | claimed workerID _ _ _ _ commits =>
    obtain ⟨_, -, h⟩ := bind_eq_ok.mp commits
    cases h
    exact ⟨.of_map rfl (sameSnapshot_claimUpdate workerID env.now _), .of_eq rfl⟩
  | unclaimed _ _ _ state | unrecorded _ _ _ _ _ _ _ _ state =>
    subst state
    exact ⟨.of_eq rfl, .of_eq rfl⟩
  | sent _ _ _ _ _ state =>
    subst state
    constructor
    · apply DeliveriesKept.of_eq
      split <;> rfl
    · apply PoliciesKept.of_eq
      split <;> rfl
  | recorded _ _ _ _ _ _ _ commits => exact kept_of_record commits

/-- The item is about the delivery. -/
structure ItemNames (d : Delivery) (item : DeliveryItem) : Prop where
  id : d.id = item.id
  tenantID : d.tenantID = item.tenantID
  retryPolicyID : d.retryPolicyID = item.retryPolicyID

/-- All that the thread holds are deliveries of the store. -/
def HoldsNamed (db : DB) (k : Courier) : Prop :=
  ∀ hold ∈ k.holds, ∃ d ∈ db.deliveries, ItemNames d hold.item

theorem HoldsNamed.keep (h : HoldsNamed db k) (hkept : DeliveriesKept db db') : HoldsNamed db' k := by
  intro hold hhold
  obtain ⟨d, hd, hnames⟩ := h hold hhold
  obtain ⟨d', hd', hsame⟩ := hkept d hd
  refine ⟨d', hd', ?_⟩
  rw [hsame]
  exact ⟨hnames.id, hnames.tenantID, hnames.retryPolicyID⟩

theorem HoldsNamed.step (h : HoldsNamed db k) (hstep : CourierStep l k env db k' db') : HoldsNamed db' k' := by
  have hdeliveries := hstep.kept.1
  have hkept := h.keep hdeliveries
  cases hstep with
  | elsewhere _ _ _ after | unclaimed _ _ after
  | unrecorded _ _ _ _ _ _ _ after =>
    subst after
    exact nofun
  | claimed _ _ _ _ after commits =>
    subst after
    intro hold hhold
    obtain ⟨item, hitem, rfl⟩ := List.mem_map.mp hhold
    obtain ⟨d, hd, hsnapshot, -⟩ := (claimTakes_of_commit commits).due item hitem
    obtain ⟨d', hd', hsame⟩ := hdeliveries d hd
    refine ⟨d', hd', ?_⟩
    rw [hsame]
    exact ⟨hsnapshot.id.symm, hsnapshot.tenantID.symm, hsnapshot.retryPolicyID.symm⟩
  | sent _ _ _ before after =>
    subst before after
    exact hkept
  | recorded _ _ _ _ _ before after =>
    subst before after
    exact fun h hh ↦ hkept h (List.mem_cons_of_mem _ hh)

theorem holds_start (l : Op) : (couriers.start l).holds = [] := by
  change (if l.delivers then Courier.claiming else .other l.program).holds = []
  split <;> rfl

/-- A condition on the store that allowed steps keep, of threads that hold deliveries of the store. -/
theorem preserved_couriers (hstep : ∀ (deed : Deed Op Env DB Courier) env k', Allowed deed → deed.kind = .act env →
      HoldsNamed deed.before deed.control →
      CourierStep deed.label deed.control env deed.before k' deed.after → I deed.before → I deed.after) :
    System.Preserved couriers.system Allowed I fun db l k ↦ k.Fits l ∧ HoldsNamed db k where
  enter db l k _ henter := by
    subst henter
    exact ⟨fits_start l, fun hold hhold ↦ absurd (holds_start l ▸ hhold) List.not_mem_nil⟩
  move deed env k' hallowed hkind hI hP hmove := by
    obtain ⟨hcourier, hfits⟩ := courierStep_of_next hP.1 hmove
    exact ⟨hstep deed env k' hallowed hkind hP.2 hcourier hI, ⟨hfits, hP.2.step hcourier⟩,
      fun _ _ h ↦ ⟨h.1, h.2.keep hcourier.kept.1⟩⟩

theorem preserved_holds : System.Preserved couriers.system (fun _ ↦ True) (fun _ ↦ True)
    fun db l k ↦ k.Fits l ∧ HoldsNamed db k :=
  preserved_couriers fun _ _ _ _ _ _ _ _ ↦ trivial

/-- All threads are described as they should be and hold deliveries of the store. -/
theorem holds_of_history (h : couriers.system.History Init deeds c) :
    ∀ t ∈ c.threads, t.2.Fits t.1 ∧ HoldsNamed c.state t.2 :=
  (preserved_holds.history (fun _ _ ↦ trivial) h fun _ _ ↦ trivial).threads

end Steps

/-! ## Scripts -/

abbrev CourierRun := List (Deed Op Env DB Courier) × Threads Op DB Courier

/-- The couriers run a script from given tables. -/
def runCouriers (script : List (Command Op Env)) (db : DB) : CourierRun := couriers.execute script ⟨db, []⟩

theorem history_runCouriers {Init : DB → Prop} {script : List (Command Op Env)} {db : DB} (hinit : Init db) :
    couriers.system.History Init (runCouriers script db).1 (runCouriers script db).2 :=
  Automaton.history_execute hinit script

end Webhookery.Delivery
