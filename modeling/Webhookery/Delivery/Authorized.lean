import Webhookery.App.Verdict
import Webhookery.Concurrency.Execution
import Webhookery.Machine.Slots

/-!
# Authorized deliveries

Every delivery belongs to a verified event, or to a recovered event whose routing was requested before. Only the
fanout of an event reads the verdict; replays inherit it from deliveries that exist. Events are never changed or
removed and outbox rows keep their item, so that what a worker learned is still so when it creates a delivery,
whatever others do in between.
-/

namespace Webhookery.Delivery

open Go Store App Relational Concurrency Provider Machine

/-- The outbox has a row of an item. -/
def Queued (db : DB) (kind : OutboxKind) (tenantID resourceID : String) : Prop :=
  ∃ o ∈ db.outbox, o.kind = kind ∧ o.tenantID = tenantID ∧ o.resourceID = resourceID

/-- An event whose deliveries may exist: it is verified, or it was recovered from the provider's API
and its routing was requested. -/
def Routable (db : DB) (tenantID eventID : String) : Prop :=
  ∃ e ∈ db.events, e.tenantID = tenantID ∧ e.id = eventID ∧
    (e.verified = true ∨ e.verifyReason = verificationReasonProviderAPIReconcile ∧
      Queued db .routeRecoveredEvent tenantID eventID)

/-- Every delivery is for a routable event. -/
def DeliveriesRoutable (db : DB) : Prop := ∀ d ∈ db.deliveries, Routable db d.tenantID d.eventID

/-- What every move keeps, and where its deliveries come from. -/
structure Extends (db db' : DB) : Prop where
  events : ∀ e ∈ db.events, e ∈ db'.events
  outbox : ∀ o ∈ db.outbox, ∃ o' ∈ db'.outbox, o'.item = o.item
  deliveries : ∀ d' ∈ db'.deliveries,
    (∃ d ∈ db.deliveries, SameDelivery d d') ∨ Routable db d'.tenantID d'.eventID

variable {db db' : DB} {l : Op} {q q' : Phase} {env : Env} {item : OutboxItem} {job : Option ReplayJobWork}
  {todo todo' : Todo}

theorem Extends.refl (db : DB) : Extends db db where
  events := fun _ he ↦ he
  outbox := fun o ho ↦ ⟨o, ho, rfl⟩
  deliveries := fun d hd ↦ .inl ⟨d, hd, .refl d⟩

/-- What was routable stays routable. -/
theorem Extends.routable (h : Extends db db') (hroutable : Routable db tenantID eventID) :
    Routable db' tenantID eventID := by
  obtain ⟨e, he, htenant, hid, hreason⟩ := hroutable
  refine ⟨e, h.events e he, htenant, hid, hreason.imp_right ?_⟩
  rintro ⟨hrecovered, o, ho, hkind, howner, hresource⟩
  obtain ⟨o', ho', hitem⟩ := h.outbox o ho
  exact ⟨hrecovered, o', ho', (congrArg OutboxItem.kind hitem).trans hkind,
    (congrArg OutboxItem.tenantID hitem).trans howner, (congrArg OutboxItem.resourceID hitem).trans hresource⟩

/-- In every step, deliveries are for events that were routable before it. -/
theorem Extends.routable_before (h : Extends db db') (hI : DeliveriesRoutable db) (hd' : d' ∈ db'.deliveries) :
    Routable db d'.tenantID d'.eventID := by
  rcases h.deliveries d' hd' with ⟨d, hd, hsame⟩ | hroutable
  · rw [hsame.tenantID, hsame.eventID]
    exact hI d hd
  · exact hroutable

/-! ## What a worker knows -/

/-- Whatever is left to create is for a routable event. -/
def TodoRoutable (db : DB) (item : OutboxItem) (job : Option ReplayJobWork) : Todo → Prop
  | .allowed | .subscriptions _ | .targets _ => Routable db item.tenantID (fanoutEvent item job)
  | .originals sources => ∀ source ∈ sources, Routable db item.tenantID source.eventID
  | .existing source => Routable db item.tenantID source.eventID
  | .event | .delivery | .done => True

/-- A worker holds items of the outbox, and its fanout is for a routable event. -/
structure HoldsRoutable (db : DB) (q : Phase) : Prop where
  rows : ∀ item ∈ q.outboxItems, ∃ o ∈ db.outbox, o.item = item
  todo : ∀ item job todo rest, q = .working item (.fanout job todo) rest → TodoRoutable db item job todo

theorem TodoRoutable.mono (h : TodoRoutable db item job todo) (hextends : Extends db db') :
    TodoRoutable db' item job todo := by
  cases todo with
  | allowed | subscriptions | targets | existing => exact hextends.routable h
  | originals => exact fun source hsource ↦ hextends.routable (h source hsource)
  | event | delivery | done => trivial

theorem HoldsRoutable.mono (h : HoldsRoutable db q) (hextends : Extends db db') : HoldsRoutable db' q where
  rows item hitem := by
    obtain ⟨o, ho, rfl⟩ := h.rows item hitem
    exact hextends.outbox o ho
  todo item job todo rest hq := (h.todo item job todo rest hq).mono hextends

theorem HoldsRoutable.silent (h : HoldsRoutable db q) (hsilent : Silent q q₀) : HoldsRoutable db q₀ := by
  cases hsilent with
  | skip | drop => exact ⟨fun i hi ↦ h.rows i (List.mem_cons_of_mem _ hi), by rintro _ _ _ _ ⟨⟩⟩
  | route | delivery | done =>
    refine ⟨h.rows, ?_⟩
    rintro _ _ _ _ ⟨⟩
    trivial

/-- The verdict on an event is read with the event; a replay reads it off deliveries that exist. -/
theorem TodoRoutable.learn (h : TodoRoutable db item job todo) (hI : DeliveriesRoutable db)
    (hrow : ∃ o ∈ db.outbox, o.item = item) (hlearns : Learns item job db todo todo') :
    TodoRoutable db item job todo' := by
  cases hlearns with
  | allowed event read _ verdict =>
    obtain ⟨hmem, htenant, hid⟩ := selectRow_columns read
    refine ⟨event, hmem, htenant, hid, verdict.imp_right ?_⟩
    rintro ⟨hreason, rfl, hkind⟩
    obtain ⟨o, ho, rfl⟩ := hrow
    exact ⟨hreason, o, ho, hkind, rfl, rfl⟩
  | subscriptions | routes => exact h
  | originals =>
    intro source hsource
    obtain ⟨d, hd, rfl⟩ := List.mem_map.mp hsource
    obtain ⟨hmem, hmatch⟩ := List.mem_filter.mp ((List.mem_insertionSort _).mp hd)
    simp only [Bool.and_eq_true, beq_iff_eq] at hmatch
    rw [← hmatch.1.1]
    exact hI d hmem
  | existing _ _ _ read =>
    obtain ⟨d, hd, rfl⟩ := map_eq_ok.mp read
    obtain ⟨hmem, htenant, -⟩ := selectRow_columns hd
    have hroutable := hI d hmem
    rwa [htenant] at hroutable

/-- A snapshot is for a routable event, and so are those that are left. -/
theorem TodoRoutable.take (h : TodoRoutable db item job todo) (htakes : Takes item job todo req todo') :
    Routable db req.tenantID req.eventID ∧ TodoRoutable db item job todo' := by
  cases htakes with
  | target => exact ⟨h, h⟩
  | original _ source => exact ⟨h source List.mem_cons_self, fun s hs ↦ h s (List.mem_cons_of_mem source hs)⟩
  | existing _ _ _ _ tenant event =>
    rw [tenant, event]
    exact ⟨h, trivial⟩

/-! ## Moves -/

theorem events_of_act (h : Act l q env db q' db') : ∀ e ∈ db.events, e ∈ db'.events := by
  cases deliveryMove_of_act h with
  | dispatch dispatch =>
    rw [(frame_of_dispatch dispatch).2.2.2.2]
    exact fun _ he ↦ he
  | snapshot taken =>
    rw [taken.frame]
    exact fun _ he ↦ he
  | other same => exact same.events

theorem extends_of_act (hP : HoldsRoutable db q) (h : Act l q env db q' db') : Extends db db' where
  events := events_of_act h
  outbox _ ho := (outboxStep_of_act h).exists_item ho
  deliveries d' hd' := by
    cases deliveriesStep_of_act h with
    | created taken before _ takes =>
      rcases (Table.mem_of_rows_append taken.deliveries).mp hd' with hold | rfl
      · exact .inl ⟨d', hold, .refl d'⟩
      · exact .inr ((hP.todo _ _ _ _ before).take takes).1
    | updated f rows same =>
      obtain ⟨d, hd, rfl⟩ := (Table.mem_map rows).mp hd'
      exact .inl ⟨d, hd, same d⟩

theorem holdsRoutable_of_act (hI : DeliveriesRoutable db) (hP : HoldsRoutable db q) (h : Act l q env db q' db') :
    HoldsRoutable db' q' := by
  have hextends := extends_of_act hP h
  refine ⟨fun item hitem ↦ ?_, ?_⟩
  · rcases outboxItems_of_act h hitem with hold | ⟨o, ho, rfl⟩
    · exact (hP.mono hextends).rows item hold
    · exact hextends.outbox o ho
  · rintro item job todo rest rfl
    apply TodoRoutable.mono _ hextends
    cases fanoutStep_of_act h with
    | keep => exact hP.todo item job todo rest rfl
    | start => trivial
    | learn _ todo₀ _ learns =>
      exact (hP.todo item job todo₀ rest rfl).learn hI (hP.rows item List.mem_cons_self) learns
    | take _ todo₀ _ _ takes => exact ((hP.todo item job todo₀ rest rfl).take takes).2

theorem modular_routable :
    System.Modular machine (fun _ ↦ True) DeliveriesRoutable fun db _ q ↦ HoldsRoutable db q := by
  refine modular_machine (fun _ _ _ ↦ ⟨nofun, by rintro _ _ _ _ ⟨⟩⟩) (fun _ _ _ _ hsilent hP ↦ hP.silent hsilent)
    (fun _ _ _ _ _ _ hI hP _ h ↦ ⟨fun d' hd' ↦ ?_, holdsRoutable_of_act hI hP h⟩)
    fun _ _ _ _ _ _ _ hP _ h _ _ hP₁ ↦ hP₁.mono (extends_of_act hP h)
  have hextends := extends_of_act hP h
  exact hextends.routable (hextends.routable_before hI hd')

/-! ## Every run -/

/-- The delivery belongs to a verified event, or to a recovered event for which the outbox given
has a `route_recovered_event` row. -/
def Authorized (db : DB) (outbox : List OutboxRow) (d : Delivery) : Prop :=
  ∃ e ∈ db.events, e.id = d.eventID ∧ e.tenantID = d.tenantID ∧
    (e.verified = true ∨ e.verifyReason = verificationReasonProviderAPIReconcile ∧
      ∃ o ∈ outbox, o.kind = .routeRecoveredEvent ∧ o.tenantID = e.tenantID ∧ o.resourceID = e.id)

theorem Routable.authorized (h : Routable db d.tenantID d.eventID)
    (hevents : ∀ e ∈ db.events, e ∈ db'.events) : Authorized db' db.outbox.rows d := by
  obtain ⟨e, he, htenant, hid, hreason⟩ := h
  refine ⟨e, hevents e he, hid, htenant, hreason.imp id ?_⟩
  rintro ⟨hrecovered, o, ho, hkind, howner, hresource⟩
  exact ⟨hrecovered, o, ho, hkind, howner.trans htenant.symm, hresource.trans hid.symm⟩

/-- A store without deliveries. -/
def Undelivered (db : DB) : Prop := db.deliveries.rows = []

/-- In every run that starts without deliveries, in every state every delivery is authorized; and
in every step, by an outbox row that was there before the step. -/
theorem deliveries_authorized (hrun : App.system.Run Undelivered events c) :
    (∀ d ∈ c.state.deliveries, Authorized c.state c.state.outbox.rows d) ∧
      ∀ e c', App.system.Step c e c' →
        ∀ d ∈ c'.state.deliveries, Authorized c'.state c.state.outbox.rows d := by
  obtain ⟨_, hts, hrelated⟩ := simulation.run hrun
  have hmeets := modular_routable.run
    (fun db hnone d hd ↦ absurd hd (Table.not_mem_of_rows_eq_nil hnone)) hts fun _ _ ↦ trivial
  refine ⟨fun d hd ↦ (hmeets.state d hd).authorized fun e he ↦ he, fun e c' hstep d' hd' ↦ ?_⟩
  obtain ⟨_, hmstep, -⟩ := simulation.step hrelated hstep
  have hextends : Extends c.state c'.state := by
    rcases act_of_step (fun _ _ _ _ hsilent hP ↦ hP.silent hsilent) hmeets hmstep with hsame | ⟨_, _, _, _, hP, -, hact⟩
    · exact hsame ▸ .refl c.state
    · exact extends_of_act hP hact
  exact (hextends.routable_before hmeets.state hd').authorized hextends.events

/-! ## A recovered event of a shop -/

def shopEndpoint : Endpoint :=
  ⟨"ep_1", "t", "shop", "https://shop.example/hooks", .active, "", false, [], [], 0, .closed, none⟩

/-- A shop with a source and an endpoint. -/
def shopDB : DB :=
  { DB.empty with
    sources := ((Table.empty.insert? ⟨"src_1", "t", "shop", "stripe", "stripe", .active, []⟩).getD .empty)
    endpoints := ((Table.empty.insert? shopEndpoint).getD .empty) }

/-- The environment of the `n`-th step. -/
def shopEnv (n : Nat) : Env := ⟨0, fun _ _ ↦ toString n, false, fun _ _ secret ↦ some secret⟩

/-- The environments of a part of a run. -/
def shopFrom (first n : Nat) : Env := shopEnv (first + n)

def shopCodec : PayloadCodec := ⟨checksum, ⟨id⟩, fun _ body ↦ some body⟩

def shopWorker (workerID : String) : Op := .runOutbox shopCodec (fun _ _ ↦ none) workerID 10

/-- A worker routes what is queued, and its lease does not expire. -/
def routedScript : List (Command Op Env) := [.start (shopWorker "worker"), .go 0 20 (shopFrom 10)]

abbrev AppRun := List (Transition Op Env DB) × Threads Op DB (Work Unit)

/-- The application runs a script from given tables. -/
def runScript (script : List (Command Op Env)) (db : DB) : AppRun := Program.execute Op.program script ⟨db, []⟩

theorem run_runScript {Init : DB → Prop} {script : List (Command Op Env)} (hinit : Init db) :
    App.system.Run Init (runScript script db).1 (runScript script db).2 :=
  Program.run_execute hinit script

def shopSubscription : NewSubscription :=
  ⟨"", "t", "ep_1", ["charge.failed"], "", "", "", none, 0⟩

def shopRecovered : RecoveredCapture :=
  ⟨⟨"pc_1", "t", "stripe", .active, [("source_id", "src_1")]⟩, "evt_lost", "charge.failed",
    bytesOf "\x7b\"id\":\"evt_lost\"\x7d", [], true⟩

/-- A subscription, a recovered event that is to be routed, and a worker. -/
def recoveredRun : AppRun := runScript
  [.start (.createSubscription shopSubscription), .go 0 20 shopEnv,
    .start (.captureRecovered checksum shopRecovered), .go 1 20 shopEnv,
    .start (shopWorker "worker"), .go 2 40 shopEnv] shopDB

/-- The shop's only event did not verify; its one delivery is authorized by the row of the outbox. -/
theorem shop_delivery_authorized :
    App.system.Run Undelivered recoveredRun.1 recoveredRun.2 ∧
      recoveredRun.2.state.events.rows.map (·.verified) = [false] ∧
      recoveredRun.2.state.deliveries.rows.map (·.eventID) = ["evt_2"] ∧
      ∀ d ∈ recoveredRun.2.state.deliveries, Authorized recoveredRun.2.state recoveredRun.2.state.outbox.rows d := by
  have hinit : Undelivered shopDB := rfl
  have hrun : App.system.Run Undelivered recoveredRun.1 recoveredRun.2 := run_runScript hinit
  exact ⟨hrun, by decide +kernel, by decide +kernel, (deliveries_authorized hrun).1⟩

end Webhookery.Delivery
