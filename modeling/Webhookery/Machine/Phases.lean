import Webhookery.Machine.Outside

/-!
# The phases of the operations

A machine that says what each operation may still do to replay jobs, the outbox and deliveries. A
phase is what an operation has learned from the store so far: the items a worker claimed, the job it
started, the deliveries it is about to create or to send. A phase may pass silently to one with less
left to do, so that an operation that stops early needs no move of its own.
-/

namespace Webhookery.Machine

open Go Store App Concurrency Provider

/-! ## Phases -/

/-- What is left of a fanout: the event and then the named delivery, each read before it is used. -/
inductive Todo where
  | event
  | allowed
  | subscriptions (targets : List DeliveryFanoutTarget)
  | targets (targets : List DeliveryFanoutTarget)
  | originals (sources : List DeliveryReplaySource)
  | delivery
  | existing (source : DeliveryReplaySource)
  | done

/-- What is left concerns the event. -/
def Todo.ofEvent : Todo → Bool
  | .event | .allowed | .subscriptions _ | .targets _ | .originals _ => true
  | .delivery | .existing _ | .done => false

/-- What a worker knows about its item: the replay job is scheduled, deliveries are being created
(for a replay job, or for a routed event), or the job is settled. -/
inductive Task where
  | loaded (work : ReplayJobWork)
  | fanout (job : Option ReplayJobWork) (todo : Todo)
  | settled

inductive Phase where
  | idle
  | items (items : List OutboxItem)
  | working (item : OutboxItem) (task : Task) (rest : List OutboxItem)
  | sending (items : List DeliveryItem)
  | recording (item : DeliveryItem) (rest : List DeliveryItem)
  | marking (tenantID entryID : String)

/-- The kinds of items that route an event. -/
def OutboxKind.routes (kind : OutboxKind) : Bool := kind == .routeEvent || kind == .routeRecoveredEvent

/-- The event of a fanout: that of the item, or the one the replay names. -/
def fanoutEvent (item : OutboxItem) : Option ReplayJobWork → String
  | none => item.resourceID
  | some work => work.request.eventID

/-- The replay job of a fanout, empty for a routed event. -/
def fanoutJob (item : OutboxItem) : Option ReplayJobWork → String
  | none => ""
  | some _ => item.resourceID

/-- Changes of the phase alone. -/
inductive Silent : Phase → Phase → Prop
  | skip (item : OutboxItem) (rest : List OutboxItem) : Silent (.items (item :: rest)) (.items rest)
  | drop (item : OutboxItem) (task : Task) (rest : List OutboxItem) :
      Silent (.working item task rest) (.items rest)
  | route (item : OutboxItem) (rest : List OutboxItem) (routes : OutboxKind.routes item.kind = true) :
      Silent (.items (item :: rest)) (.working item (.fanout none .event) rest)
  | delivery (item : OutboxItem) (job : Option ReplayJobWork) (todo : Todo) (rest : List OutboxItem)
      (ofEvent : todo.ofEvent = true) :
      Silent (.working item (.fanout job todo) rest) (.working item (.fanout job .delivery) rest)
  | done (item : OutboxItem) (job : Option ReplayJobWork) (todo : Todo) (rest : List OutboxItem) :
      Silent (.working item (.fanout job todo) rest) (.working item (.fanout job .done) rest)

abbrev Leads : Phase → Phase → Prop := Relation.ReflTransGen Silent

/-! ## Moves -/

/-- What a fanout reads; the mode of a replay decides between its targets and its originals, and only a
`route_recovered_event` item allows an event that did not verify. -/
inductive Learns (item : OutboxItem) (job : Option ReplayJobWork) (db : DB) : Todo → Todo → Prop
  | allowed (event : Event) (read : getEvent item.tenantID (fanoutEvent item job) db = .ok event)
      (current : ∀ work, job = some work → work.configMode = .current)
      (verdict : event.verified = true ∨ event.verifyReason = verificationReasonProviderAPIReconcile ∧
        job = none ∧ item.kind = .routeRecoveredEvent) :
      Learns item job db .event .allowed
  | subscriptions (eventType : String) :
      Learns item job db .allowed (.subscriptions (listSubscriptionTargets item.tenantID eventType db))
  | routes (subscriptions : List DeliveryFanoutTarget) (sourceID eventType : String) :
      Learns item job db (.subscriptions subscriptions)
        (.targets (subscriptions ++ listRouteTargets item.tenantID sourceID eventType db))
  | originals (work : ReplayJobWork) (replay : job = some work) (original : work.configMode = .original) :
      Learns item job db .event
        (.originals (listOriginalDeliveryReplaySources item.tenantID work.request.eventID db))
  | existing (work : ReplayJobWork) (replay : job = some work) (source : DeliveryReplaySource)
      (read : getDeliveryReplaySource item.tenantID work.request.deliveryID db = .ok source) :
      Learns item job db .delivery (.existing source)

/-- The snapshots that a fanout creates. -/
inductive Takes (item : OutboxItem) (job : Option ReplayJobWork) :
    Todo → DeliverySnapshotRequest → Todo → Prop
  | target (target : DeliveryFanoutTarget) (rest : List DeliveryFanoutTarget)
      (opts : DeliveryFanoutOptions) (at' : Time) (replay : opts.replayJobID = fanoutJob item job) :
      Takes item job (.targets (target :: rest))
        (targetRequest item.tenantID (fanoutEvent item job) target opts at') (.targets rest)
  | original (work : ReplayJobWork) (source : DeliveryReplaySource) (rest : List DeliveryReplaySource)
      (opts : DeliveryFanoutOptions) (at' : Time) (isReplay : job = some work)
      (replay : opts.replayJobID = fanoutJob item job) :
      Takes item job (.originals (source :: rest))
        { sourceRequest item.tenantID source opts at' with deliveryPayloadMode := .clone }
        (.originals rest)
  | existing (work : ReplayJobWork) (source : DeliveryReplaySource) (req : DeliverySnapshotRequest)
      (isReplay : job = some work) (tenant : req.tenantID = item.tenantID)
      (event : req.eventID = source.eventID) (replay : req.replayJobID = fanoutJob item job)
      (original : req.originalDeliveryID = work.request.deliveryID) :
      Takes item job (.existing source) req .done

/-- An item whose row may be completed: a settled replay job, or an item of another kind. -/
inductive Finished (item : OutboxItem) (rest : List OutboxItem) : Phase → Prop
  | settled : Finished item rest (.working item .settled rest)
  | routed (todo : Todo) : Finished item rest (.working item (.fanout none todo) rest)
  | other (kind : item.kind ≠ .replayJob) : Finished item rest (.items (item :: rest))

/-- The steps of delivery workers, of retention, and of operators on deliveries and dead letters. -/
inductive Dispatch : Op → Phase → Env → DB → Phase → DB → Prop
  | claim {l : Op} (workerID : String) (limit : Nat) (items : List DeliveryItem)
      (delivers : l.delivers = true)
      (commits : claimDueDeliveries workerID limit env db = .ok (items, db')) :
      Dispatch l .idle env db (.sending items) db'
  | send {l : Op} (item : DeliveryItem) (rest : List DeliveryItem) (delivers : l.delivers = true) :
      Dispatch l (.sending (item :: rest)) env db (.recording item rest)
        { db with sent := db.sent ++ [⟨item.tenantID, item.id, item.endpointURL, item.body⟩] }
  | unsent {l : Op} (item : DeliveryItem) (rest : List DeliveryItem) (delivers : l.delivers = true) :
      Dispatch l (.sending (item :: rest)) env db (.recording item rest) db
  | record {l : Op} (crypto : Crypto) (item : DeliveryItem) (rest : List DeliveryItem)
      (result : DeliveryResult) (hashes : l.crypto = some crypto) (delivers : l.delivers = true)
      (commits : recordDeliveryAttempt crypto item result env db = .ok ((), db')) :
      Dispatch l (.recording item rest) env db (.sending rest) db'
  | retain (policy : PayloadRetention)
      (commits : applyDeliveryPayloadRetention policy db = .ok ((), db')) :
      Dispatch l .idle env db .idle db'
  | retry (tenantID deliveryID : String)
      (commits : retryDelivery tenantID deliveryID env db = .ok ((), db')) :
      Dispatch (.retryDelivery tenantID deliveryID) .idle env db .idle db'
  | cancel (tenantID deliveryID : String)
      (commits : cancelDelivery tenantID deliveryID db = .ok ((), db')) :
      Dispatch (.cancelDelivery tenantID deliveryID) .idle env db .idle db'
  | release (tenantID entryID actorID reasonCode reason : String)
      (commits : markDeadLetterReleased tenantID entryID db = .ok ((), db')) :
      Dispatch (.releaseDeadLetter tenantID entryID actorID reasonCode reason) (.marking tenantID entryID)
        env db .idle db'

/-- Where the creation of a job leads: the entry of a release is marked next. -/
inductive Creates : Op → Phase → Prop
  | job (tenantID actorID : String) (req : ReplayRequest) :
      Creates (.createReplay tenantID actorID req) .idle
  | entry (tenantID entryID actorID reasonCode reason : String) :
      Creates (.releaseDeadLetter tenantID entryID actorID reasonCode reason) (.marking tenantID entryID)

inductive Act : Op → Phase → Env → DB → Phase → DB → Prop
  | outside (outside : Outside db db') : Act l q env db q db'
  | dispatch (dispatch : Dispatch l q env db q' db') : Act l q env db q' db'
  | create (tenantID actorID : String) (req : ReplayRequest) (total : Nat) (job : ReplayJob)
      (next : Creates l q')
      (commits : insertReplayJob tenantID actorID req total env db = .ok (job, db')) :
      Act l .idle env db q' db'
  | approve (tenantID jobID actorID : String)
      (commits : approveReplayJob tenantID jobID actorID env db = .ok ((), db')) :
      Act (.approveReplayJob tenantID jobID actorID) .idle env db .idle db'
  | pause (tenantID jobID : String)
      (commits : pauseReplayJob tenantID jobID db = .ok ((), db')) :
      Act (.pauseReplayJob tenantID jobID) .idle env db .idle db'
  | resume (tenantID jobID : String)
      (commits : resumeReplayJob tenantID jobID db = .ok ((), db')) :
      Act (.resumeReplayJob tenantID jobID) .idle env db .idle db'
  | cancel (tenantID jobID : String)
      (commits : cancelReplayJob tenantID jobID db = .ok ((), db')) :
      Act (.cancelReplayJob tenantID jobID) .idle env db .idle db'
  | claim (codec : PayloadCodec) (registry : ReconcileRegistry) (workerID : String) (limit : Int)
      (items : List OutboxItem)
      (commits : claimOutbox workerID (if limit ≤ 0 then 10 else limit.toNat) env db = .ok (items, db')) :
      Act (.runOutbox codec registry workerID limit) .idle env db (.items items) db'
  | load (item : OutboxItem) (rest : List OutboxItem) (work : ReplayJobWork)
      (kind : item.kind = .replayJob)
      (read : getReplayJobWork item.tenantID item.resourceID db = .ok work)
      (scheduled : work.state = .scheduled) :
      Act l (.items (item :: rest)) env db (.working item (.loaded work) rest) db
  | settle (item : OutboxItem) (rest : List OutboxItem) (work : ReplayJobWork)
      (kind : item.kind = .replayJob)
      (read : getReplayJobWork item.tenantID item.resourceID db = .ok work)
      (settled : work.state = .running ∨ work.state = .completed ∨ work.state = .canceled) :
      Act l (.items (item :: rest)) env db (.working item .settled rest) db
  | start (item : OutboxItem) (rest : List OutboxItem) (work : ReplayJobWork)
      (commits : startReplayJob item.tenantID item.resourceID db = .ok (true, db')) :
      Act l (.working item (.loaded work) rest) env db (.working item (.fanout (some work) .event) rest) db'
  | learn (item : OutboxItem) (job : Option ReplayJobWork) (todo todo' : Todo) (rest : List OutboxItem)
      (learns : Learns item job db todo todo') :
      Act l (.working item (.fanout job todo) rest) env db (.working item (.fanout job todo') rest) db
  | snapshot {l : Op} (item : OutboxItem) (job : Option ReplayJobWork) (todo todo' : Todo)
      (rest : List OutboxItem) (codec : PayloadCodec) (req : DeliverySnapshotRequest)
      (result : DeliverySnapshotResult)
      (takes : Takes item job todo req todo') (hashes : l.crypto = some codec.crypto)
      (commits : createDeliverySnapshot codec req env db = .ok (result, db')) :
      Act l (.working item (.fanout job todo) rest) env db (.working item (.fanout job todo') rest) db'
  | noop (item : OutboxItem) (work : ReplayJobWork) (todo : Todo) (rest : List OutboxItem)
      (eventID errorText : String) (mode : ConfigMode)
      (commits : insertReplayNoopItem item.tenantID item.resourceID eventID mode errorText env db =
        .ok ((), db')) :
      Act l (.working item (.fanout (some work) todo) rest) env db
        (.working item (.fanout (some work) todo) rest) db'
  | complete (item : OutboxItem) (work : ReplayJobWork) (todo : Todo) (rest : List OutboxItem)
      (processedItems : Nat)
      (commits : completeReplayJob item.tenantID item.resourceID processedItems db = .ok ((), db')) :
      Act l (.working item (.fanout (some work) todo) rest) env db (.working item .settled rest) db'
  | finish (item : OutboxItem) (rest : List OutboxItem) (finished : Finished item rest q)
      (commits : completeOutbox item.id db = .ok ((), db')) :
      Act l q env db (.items rest) db'

/-- Operations begin without knowing anything; a move may pass to a smaller phase first. -/
def machine : System Op Env DB Phase where
  enter _ q := q = .idle
  move l q env db q' db' := ∃ q₀, Leads q q₀ ∧ Act l q₀ env db q' db'

/-! ## Programs and phases -/

section Rules

variable {α : Type} {l : Op} {q q₀ q' : Phase} {Q : α → Phase → Prop} {E : Phase → Prop}

/-- A property of phases that passes to the phases that lead to it. -/
def Closed (P : Phase → Prop) : Prop := ∀ q q₀, Leads q q₀ → P q₀ → P q

theorem closed_leads (q' : Phase) : Closed fun q ↦ Leads q q' :=
  fun _ _ h h' ↦ h.trans h'

theorem closed_true : Closed fun _ ↦ True := fun _ _ _ _ ↦ trivial

/-- A program that follows the machine from a phase does so from those that lead to it. -/
theorem follows_of_leads (h : Leads q q₀) (hQ : ∀ a, Closed (Q a)) (hE : Closed E)
    (hp : Program.Follows (machine.move l) Q E p q₀) : Program.Follows (machine.move l) Q E p q := by
  cases p with
  | done r =>
    cases r with
    | ok a => exact hQ a q q₀ h hp
    | error => exact hE q q₀ h hp
  | step =>
    intro env db
    obtain ⟨q', ⟨q₁, hleads, hact⟩, hnext⟩ := hp env db
    exact ⟨q', ⟨q₁, h.trans hleads, hact⟩, hnext⟩

theorem move_of_act (h : Act l q env db q' db') : machine.move l q env db q' db' :=
  ⟨q, .refl, h⟩

theorem follows_transaction
    (hok : ∀ env db a db', t env db = .ok (a, db') → ∃ q', Act l q env db q' db' ∧ Q a q') (hE : E q) :
    Program.Follows (machine.move l) Q E (transaction t) q := by
  apply Program.Follows.atomic _ (fun env db ↦ move_of_act (.outside (.refl db))) hE
  intro env db a db' hcommit
  split at hcommit
  · cases hcommit
  · obtain ⟨q', hact, hQ⟩ := hok env db a db' hcommit
    exact ⟨q', move_of_act hact, hQ⟩

theorem follows_query (hok : ∀ env db a, f db = .ok a → ∃ q', Act l q env db q' db ∧ Q a q') (hE : E q) :
    Program.Follows (machine.move l) Q E (query f) q := by
  apply follows_transaction _ hE
  intro env db a db' hcommit
  obtain ⟨_, hread, hpair⟩ := map_eq_ok.mp hcommit
  cases hpair
  exact hok env db a hread

/-- A read that the machine does not see. -/
theorem follows_read (hQ : ∀ a, Q a q) (hE : E q) : Program.Follows (machine.move l) Q E (query f) q :=
  follows_query (fun _ db a _ ↦ ⟨q, .outside (.refl db), hQ a⟩) hE

theorem follows_clockNow {Q : Time → Phase → Prop} (hQ : ∀ now, Q now q) (hE : E q) :
    Program.Follows (machine.move l) Q E clockNow q := by
  apply Program.Follows.atomic _ (fun env db ↦ move_of_act (.outside (.refl db))) hE
  intro env db now db' hread
  cases hread
  exact ⟨q, move_of_act (.outside (.refl db)), hQ _⟩

/-- A program of outside steps keeps the phase. -/
theorem follows_of_outside (hp : Program.Changes Outside p) (hQ : ∀ a, Q a q) (hE : E q) :
    Program.Follows (machine.move l) Q E p q := by
  have hfollows : Program.Follows (machine.move l) (fun _ q' ↦ q' = q) (fun q' ↦ q' = q) p q :=
    hp.follows fun env db db' h ↦ move_of_act (.outside h)
  refine hfollows.mono ?_ ?_
  · rintro a _ rfl
    exact hQ a
  · rintro _ rfl
    exact hE

end Rules

end Webhookery.Machine
