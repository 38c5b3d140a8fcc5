import Webhookery.Machine.Phases

/-!
# The operations follow the machine

Every operation takes moves of the machine only, whatever the state is before each of its steps. The
worker is the long case: a claimed item leads through the fanout of an event or the processing of a
replay job to the completion of its row.
-/

namespace Webhookery.Machine

open Go Store App Concurrency Provider
open Program (Follows Changes)

variable {l : Op} {codec : PayloadCodec} {item : OutboxItem} {rest : List OutboxItem}
  {job : Option ReplayJobWork} {work : ReplayJobWork} {opts : DeliveryFanoutOptions} {registry : ReconcileRegistry}

/-! ## Fanout -/

/-- The worker is between the event and the named delivery. -/
def EventDone (item : OutboxItem) (job : Option ReplayJobWork) (rest : List OutboxItem) (q : Phase) : Prop :=
  Leads q (.working item (.fanout job .delivery) rest)

/-- The worker has nothing left to create. -/
def FanoutDone (item : OutboxItem) (job : Option ReplayJobWork) (rest : List OutboxItem) (q : Phase) : Prop :=
  Leads q (.working item (.fanout job .done) rest)

/-- The worker may go on with the next item. -/
def Released (rest : List OutboxItem) (q : Phase) : Prop := Leads q (.items rest)

/-- The row of the item may be completed. -/
def Completable (item : OutboxItem) (rest : List OutboxItem) (q : Phase) : Prop :=
  ∃ q₀, Leads q q₀ ∧ Finished item rest q₀

/-- A part of the work on an item; where it fails, the worker may go on with the next one. -/
abbrev Handles {α : Type} (l : Op) (rest : List OutboxItem) (Q : α → Phase → Prop) (p : Work α) (q : Phase) : Prop :=
  Follows (machine.move l) Q (Released rest) p q

theorem eventDone_fanout (h : todo.ofEvent = true) : EventDone item job rest (.working item (.fanout job todo) rest) :=
  .single (.delivery item job todo rest h)

theorem fanoutDone_fanout (todo : Todo) : FanoutDone item job rest (.working item (.fanout job todo) rest) :=
  .single (.done item job todo rest)

theorem released_working (task : Task) : Released rest (.working item task rest) :=
  .single (.drop item task rest)

theorem follows_scheduledDeliveryAt :
    Handles l rest (fun _ q ↦ q = .working item task rest)
      (scheduledDeliveryAt index rate) (.working item task rest) := by
  have hclock : Handles l rest (fun _ q ↦ q = .working item task rest)
      clockNow (.working item task rest) := follows_clockNow (fun _ ↦ rfl) (released_working task)
  exact hclock.bind fun now q hq ↦ hq

section Moves

variable {todo : Todo}

/-- A read that decides what the fanout has to do. -/
theorem follows_learn {α : Type} {f : DB → Except StoreError α} (next : α → Todo)
    (h : ∀ db a, f db = .ok a → Learns item job db todo (next a)) :
    Handles l rest (fun a q ↦ q = .working item (.fanout job (next a)) rest)
      (query f) (.working item (.fanout job todo) rest) :=
  follows_query (fun _ db a hread ↦ ⟨_, .learn item job _ _ rest (h db a hread), rfl⟩) (released_working _)

theorem follows_recordNoop :
    Handles l rest (fun _ ↦ EventDone item (some work) rest)
      (recordNoop item.tenantID item.resourceID eventID mode errorText count)
      (.working item (.fanout (some work) .delivery) rest) := by
  refine .ite (follows_transaction ?_ (released_working _)) ?_
  · intro env db _ db' hcommit
    exact ⟨_, .noop item work _ rest eventID errorText mode hcommit, .refl⟩
  · exact Relation.ReflTransGen.refl

/-- What follows the event part of a fanout may start from the phase between the parts. -/
theorem follows_of_eventDone {α : Type} {p : Work α} {q q' : Phase} (h : EventDone item job rest q)
    (hp : Handles l rest (fun _ q ↦ Leads q q') p
      (.working item (.fanout job .delivery) rest)) :
    Handles l rest (fun _ q ↦ Leads q q') p q :=
  follows_of_leads h (fun _ ↦ closed_leads _) (closed_leads _) hp

/-- Whatever configuration a delivery is replayed under, the request keeps what identifies it. -/
theorem follows_existingRequest (hE : Released rest q) :
    Handles l rest
      (fun found q' ↦ q' = q ∧ ∀ req', found = some req' → req'.tenantID = req.tenantID ∧
        req'.eventID = req.eventID ∧ req'.replayJobID = req.replayJobID ∧
        req'.originalDeliveryID = req.originalDeliveryID)
      (existingRequest tenantID source opts req) q := by
  unfold existingRequest
  split
  · refine (follows_read (Q := fun _ q' ↦ q' = q) (fun _ ↦ rfl) hE).bind ?_
    rintro _ _ rfl
    refine ⟨rfl, fun req' hreq' ↦ ?_⟩
    obtain ⟨_, -, rfl⟩ := Option.map_eq_some_iff.mp hreq'
    exact ⟨rfl, rfl, rfl, rfl⟩
  · refine ⟨rfl, fun req' hreq' ↦ ?_⟩
    cases hreq'
    exact ⟨rfl, rfl, rfl, rfl⟩

variable (hcrypto : l.crypto = some codec.crypto)
include hcrypto

theorem follows_snapshot (h : Takes item job todo req todo') :
    Handles l rest (fun _ q ↦ q = .working item (.fanout job todo') rest)
      (transaction (createDeliverySnapshot codec req)) (.working item (.fanout job todo) rest) :=
  follows_transaction (fun _ _ result _ hcommit ↦
    ⟨_, .snapshot item job _ _ rest codec _ result h hcrypto hcommit, rfl⟩) (released_working _)

theorem follows_createFromTargets (hjob : opts.replayJobID = fanoutJob item job)
    (targets : List DeliveryFanoutTarget) (created : Nat) :
    Handles l rest (fun _ ↦ EventDone item job rest)
      (createFromTargets codec item.tenantID (fanoutEvent item job) opts created targets)
      (.working item (.fanout job (.targets targets)) rest) := by
  induction targets generalizing created with
  | nil => exact eventDone_fanout rfl
  | cons target targets ih =>
    have hone : Handles l rest
        (fun _ q ↦ q = .working item (.fanout job (.targets targets)) rest)
        (createDeliveryFromTarget codec item.tenantID (fanoutEvent item job) target created opts)
        (.working item (.fanout job (.targets (target :: targets))) rest) := by
      refine follows_scheduledDeliveryAt.bind ?_
      rintro at' _ rfl
      exact follows_snapshot hcrypto (.target target targets opts at' hjob)
    refine hone.bind ?_
    rintro _ _ rfl
    exact ih (created + 1)

theorem follows_createDeliveriesForEvent (hjob : opts.replayJobID = fanoutJob item job)
    (hcurrent : ∀ work, job = some work → work.configMode = .current)
    (hrecovered : opts.allowRecovered = true → job = none ∧ item.kind = .routeRecoveredEvent) :
    Handles l rest (fun _ ↦ EventDone item job rest)
      (createDeliveriesForEvent codec item.tenantID (fanoutEvent item job) opts)
      (.working item (.fanout job .event) rest) := by
  have hevent : Handles l rest (fun event q ↦
      q = .working item (.fanout job (if fanoutAllowed event opts then .allowed else .event)) rest)
      (query (getEvent item.tenantID (fanoutEvent item job))) (.working item (.fanout job .event) rest) := by
    refine follows_query (fun env db event hread ↦ ?_) (released_working _)
    split
    case isTrue hallowed =>
      refine ⟨_, .learn item job _ _ rest (.allowed event hread hcurrent ?_), rfl⟩
      simp only [fanoutAllowed, Bool.or_eq_true, Bool.and_eq_true, beq_iff_eq] at hallowed
      exact hallowed.imp_right fun h ↦ ⟨h.2, hrecovered h.1⟩
    case isFalse => exact ⟨_, .outside (.refl db), rfl⟩
  refine hevent.bind ?_
  rintro event _ rfl
  split
  case isTrue =>
    have hlist : Handles l rest
        (fun targets q ↦ q = .working item (.fanout job (.targets targets)) rest)
        (listDeliveryFanoutTargets item.tenantID event.sourceID event.type)
        (.working item (.fanout job .allowed) rest) := by
      refine (follows_learn .subscriptions ?_).bind ?_
      · rintro _ _ ⟨⟩
        exact .subscriptions event.type
      rintro subscriptions _ rfl
      refine (follows_learn (fun targets ↦ .targets (subscriptions ++ targets)) ?_).bind fun targets q hq ↦ hq
      rintro _ _ ⟨⟩
      exact .routes subscriptions event.sourceID event.type
    refine hlist.bind ?_
    rintro targets _ rfl
    exact follows_createFromTargets hcrypto hjob targets 0
  case isFalse => exact eventDone_fanout rfl

/-! ## Replays -/

theorem follows_cloneOriginals (hjob : opts.replayJobID = item.resourceID)
    (originals : List DeliveryReplaySource) (created : Nat) :
    Handles l rest (fun _ ↦ EventDone item (some work) rest)
      (cloneOriginals codec item.tenantID opts created originals)
      (.working item (.fanout (some work) (.originals originals)) rest) := by
  induction originals generalizing created with
  | nil => exact eventDone_fanout rfl
  | cons original originals ih =>
    refine follows_scheduledDeliveryAt.bind ?_
    rintro at' _ rfl
    refine (follows_snapshot hcrypto (.original work original originals opts at' rfl hjob)).bind ?_
    rintro _ _ rfl
    exact ih (created + 1)

theorem follows_createDeliveriesFromOriginalEvent (hjob : opts.replayJobID = item.resourceID)
    (horiginal : work.configMode = .original) :
    Handles l rest (fun _ ↦ EventDone item (some work) rest)
      (createDeliveriesFromOriginalEvent codec item.tenantID work.request.eventID opts)
      (.working item (.fanout (some work) .event) rest) := by
  refine (follows_learn .originals ?_).bind ?_
  · rintro _ _ ⟨⟩
    exact .originals work rfl horiginal
  rintro originals _ rfl
  exact follows_cloneOriginals hcrypto hjob originals 0

theorem follows_replayEvent (hjob : opts.replayJobID = item.resourceID) (hlive : opts.allowRecovered = false) :
    Handles l rest (fun _ ↦ EventDone item (some work) rest)
      (replayEvent codec item.tenantID item.resourceID work.request.eventID work.configMode opts)
      (.working item (.fanout (some work) .event) rest) := by
  have hnoop (errorText : String) (mode : ConfigMode) (count : Nat) {q : Phase}
      (hq : EventDone item (some work) rest q) : Handles l rest
      (fun _ ↦ EventDone item (some work) rest)
      (do recordNoop item.tenantID item.resourceID work.request.eventID mode errorText count
          return count) q := by
    refine (follows_of_eventDone hq follows_recordNoop).bind fun _ q' hq' ↦ ?_
    exact hq'
  refine .ite (eventDone_fanout rfl) ?_
  cases hmode : work.configMode with
  | original =>
    exact (follows_createDeliveriesFromOriginalEvent hcrypto hjob hmode).bind fun count q hq ↦
      hnoop _ _ count hq
  | current =>
    have hcreate : Handles l rest (fun _ ↦ EventDone item (some work) rest)
        (createDeliveriesForEvent codec item.tenantID work.request.eventID opts)
        (.working item (.fanout (some work) .event) rest) :=
      follows_createDeliveriesForEvent hcrypto hjob (fun _ hwork ↦ Option.some.inj hwork ▸ hmode)
        fun hallow ↦ absurd (hallow.symm.trans hlive) nofun
    exact hcreate.bind fun count q hq ↦ hnoop _ _ count hq

theorem follows_createDeliveryFromExisting (hjob : opts.replayJobID = item.resourceID) :
    Handles l rest (fun _ ↦ FanoutDone item (some work) rest)
      (createDeliveryFromExisting codec item.tenantID work.request.deliveryID opts)
      (.working item (.fanout (some work) .delivery) rest) := by
  refine (follows_learn .existing fun _ source hread ↦ .existing work rfl source hread).bind ?_
  rintro source _ rfl
  refine follows_scheduledDeliveryAt.bind ?_
  rintro _ _ rfl
  refine (follows_existingRequest (released_working _)).bind ?_
  rintro found _ ⟨rfl, hfound⟩
  cases found with
  | none => exact fanoutDone_fanout _
  | some req =>
    obtain ⟨htenant, hevent, hreplay, horiginal⟩ := hfound req rfl
    have htakes : Takes item (some work) (.existing source) (existingPayloadMode source opts req) .done := by
      rw [existingPayloadMode_frame]
      exact .existing work source _ rfl htenant hevent (hreplay.trans hjob) horiginal
    refine (follows_snapshot hcrypto htakes).bind ?_
    rintro _ _ rfl
    exact fanoutDone_fanout _

theorem follows_runReplayJob :
    Handles l rest (fun _ q ↦ Leads q (.working item .settled rest))
      (runReplayJob codec item.tenantID item.resourceID work)
      (.working item (.fanout (some work) .event) rest) := by
  refine (follows_replayEvent hcrypto rfl rfl).bind fun ofEvent q hq ↦ ?_
  have hdelivery : Handles l rest (fun _ ↦ FanoutDone item (some work) rest)
      (replayDelivery codec item.tenantID work.request.deliveryID
        ⟨item.resourceID, some work.configMode,
          if work.rateLimitPerMinute = 0 then work.request.rateLimitPerMinute
          else work.rateLimitPerMinute, false⟩)
      (.working item (.fanout (some work) .delivery) rest) :=
    .ite (fanoutDone_fanout _) (follows_createDeliveryFromExisting hcrypto rfl)
  refine (follows_of_eventDone hq hdelivery).bind fun ofDelivery q' hq' ↦ ?_
  have hcomplete : Handles l rest (fun _ q ↦ Leads q (.working item .settled rest))
      (transaction fun _ ↦ completeReplayJob item.tenantID item.resourceID (ofEvent + ofDelivery))
      (.working item (.fanout (some work) .done) rest) := by
    apply follows_transaction _ (released_working _)
    intro env db _ db' hcommit
    exact ⟨_, .complete item work _ rest _ hcommit, .refl⟩
  exact follows_of_leads hq' (fun _ ↦ closed_leads _) (closed_leads _) hcomplete

/-- The phase after a job is read. -/
def AtJob (item : OutboxItem) (rest : List OutboxItem) (work : ReplayJobWork) (q : Phase) : Prop :=
  match work.state with
  | .paused | .pendingApproval => q = .items (item :: rest)
  | .scheduled => q = .working item (.loaded work) rest
  | .running | .completed | .canceled => q = .working item .settled rest

theorem follows_createReplayDeliveries (hkind : item.kind = .replayJob) :
    Handles l rest (fun _ q ↦ Leads q (.working item .settled rest))
      (createReplayDeliveries codec item.tenantID item.resourceID) (.items (item :: rest)) := by
  have hskip : Released rest (.items (item :: rest)) := .single (.skip item rest)
  have hread : Handles l rest (AtJob item rest) (query (getReplayJobWork item.tenantID item.resourceID))
      (.items (item :: rest)) := by
    apply follows_query _ hskip
    intro env db work hwork
    unfold AtJob
    cases hstate : work.state with
    | paused | pendingApproval => exact ⟨_, .outside (.refl db), rfl⟩
    | scheduled => exact ⟨_, .load item rest work hkind hwork hstate, rfl⟩
    | running => exact ⟨_, .settle item rest work hkind hwork (.inl hstate), rfl⟩
    | completed => exact ⟨_, .settle item rest work hkind hwork (.inr (.inl hstate)), rfl⟩
    | canceled => exact ⟨_, .settle item rest work hkind hwork (.inr (.inr hstate)), rfl⟩
  refine hread.bind fun work q hq ↦ ?_
  cases hstate : work.state with
  | paused | pendingApproval =>
    rw [AtJob, hstate] at hq
    obtain rfl : q = _ := hq
    exact hskip
  | scheduled =>
    rw [AtJob, hstate] at hq
    obtain rfl : q = _ := hq
    have hstart : Handles l rest
        (fun started q ↦ q = if started then .working item (.fanout (some work) .event) rest
          else .working item (.loaded work) rest)
        (transaction fun _ ↦ startReplayJob item.tenantID item.resourceID)
        (.working item (.loaded work) rest) := by
      apply follows_transaction _ (released_working _)
      intro env db started db' hcommit
      cases started with
      | true => exact ⟨_, .start item rest work hcommit, rfl⟩
      | false =>
        -- a job that was not scheduled any more is left as it is
        obtain ⟨hany, rfl⟩ := Prod.mk.inj (Except.ok.inj hcommit)
        rw [updateReplayJobs_eq_self (List.any_eq_false.mp hany)]
        exact ⟨_, .outside (.refl _), rfl⟩
    refine hstart.bind ?_
    rintro started _ rfl
    cases started with
    | true => exact follows_runReplayJob hcrypto
    | false => exact released_working _
  | running | completed | canceled =>
    rw [AtJob, hstate] at hq
    obtain rfl : q = _ := hq
    exact Relation.ReflTransGen.refl

/-! ## The worker -/

theorem follows_processOutbox :
    Handles l rest (fun _ ↦ Completable item rest)
      (processOutbox codec registry item) (.items (item :: rest)) := by
  have hskip : Released rest (.items (item :: rest)) := .single (.skip item rest)
  have hroute (hroutes : OutboxKind.routes item.kind = true) (opts : DeliveryFanoutOptions)
      (hopts : opts.replayJobID = "") (hrecovered : opts.allowRecovered = true → item.kind = .routeRecoveredEvent) :
      Handles l rest
      (fun _ ↦ Completable item rest)
      (do let _ ← createDeliveriesForEvent codec item.tenantID item.resourceID opts
          return ()) (.items (item :: rest)) := by
    have hcreate : Handles l rest (fun _ ↦ EventDone item none rest)
        (createDeliveriesForEvent codec item.tenantID item.resourceID opts) (.items (item :: rest)) :=
      follows_of_leads (.single (.route item rest hroutes)) (fun _ ↦ closed_leads _) (closed_leads _)
        (follows_createDeliveriesForEvent hcrypto hopts (by rintro _ ⟨⟩) fun hallow ↦ ⟨rfl, hrecovered hallow⟩)
    exact hcreate.bind fun _ q hq ↦ ⟨_, hq, .routed .delivery⟩
  unfold processOutbox
  split
  case h_1 hkind =>
    apply follows_of_outside outside_runReconciliationJob _ hskip
    intro _
    refine ⟨_, .refl, .other ?_⟩
    rw [hkind]
    nofun
  case h_2 =>
    unfold processFanout
    split
    case h_1 hkind => exact hroute (by simp [OutboxKind.routes, hkind]) .live rfl nofun
    case h_2 hkind => exact hroute (by simp [OutboxKind.routes, hkind]) _ rfl fun _ ↦ hkind
    case h_3 hkind =>
      exact (follows_createReplayDeliveries hcrypto hkind).mono (fun _ q hq ↦ ⟨_, hq, .settled⟩) fun _ hq ↦ hq
    case h_4 hkind =>
      refine ⟨_, .refl, .other ?_⟩
      rw [hkind]
      nofun

theorem follows_handleItem (item : OutboxItem) (rest : List OutboxItem) :
    Follows (machine.move l) (fun _ ↦ Released rest) (fun _ ↦ True)
      (handleItem codec registry item) (.items (item :: rest)) := by
  have hprocess : Handles l rest (fun _ ↦ Completable item rest) (processOutbox codec registry item)
      (.items (item :: rest)) := follows_processOutbox hcrypto
  refine (hprocess.attempt.mono (fun _ _ h ↦ h) fun _ _ ↦ trivial).bind fun r q hq ↦ ?_
  match r, hq with
  | .ok _, ⟨q₀, hleads, hfinished⟩ =>
    refine follows_of_leads hleads (fun _ ↦ closed_leads _) closed_true ?_
    apply follows_transaction _ trivial
    intro env db _ db' hcommit
    exact ⟨_, .finish item rest hfinished hcommit, .refl⟩
  | .error .deferred, hq => exact hq
  | .error .notFound, _ => trivial
  | .error .gone, _ => trivial
  | .error (.invalidInput _), _ => trivial
  | .error .failed, _ => trivial

end Moves

theorem follows_runOutbox {workerID : String} {limit : Int} :
    Follows (machine.move (.runOutbox codec registry workerID limit)) (fun _ _ ↦ True)
      (fun _ ↦ True) (runOutbox codec registry workerID limit) .idle := by
  have hclaim : Follows (machine.move (.runOutbox codec registry workerID limit))
      (fun items q ↦ q = .items items) (fun _ ↦ True)
      (transaction (claimOutbox workerID (if limit ≤ 0 then 10 else limit.toNat))) .idle := by
    apply follows_transaction _ trivial
    intro env db items db' hcommit
    exact ⟨_, .claim codec registry workerID limit items hcommit, rfl⟩
  refine hclaim.bind ?_
  rintro items _ rfl
  refine (Follows.forEach Released (fun item rest q hq ↦ ?_) items .refl).mono
    (fun _ _ _ ↦ trivial) fun _ h ↦ h
  exact follows_of_leads hq (fun _ ↦ closed_leads _) closed_true (follows_handleItem rfl item rest)

theorem follows_runDeliveries {crypto : Crypto} {client : DeliveryItem → ClientReply}
    {workerID : String} {limit : Int} (hcrypto : l.crypto = some crypto)
    (hdelivers : l.delivers = true) :
    Follows (machine.move l) (fun _ _ ↦ True) (fun _ ↦ True)
      (runDeliveries crypto client workerID limit) .idle := by
  have hclaim : Follows (machine.move l) (fun items q ↦ q = .sending items) (fun _ ↦ True)
      (transaction (claimDueDeliveries workerID (if limit ≤ 0 then 10 else limit.toNat))) .idle := by
    apply follows_transaction _ trivial
    intro env db items db' hcommit
    exact ⟨_, .dispatch (.claim workerID _ items hdelivers hcommit), rfl⟩
  have hattempt (item : DeliveryItem) (rest : List DeliveryItem) : Follows (machine.move l)
      (fun _ q ↦ q = .sending rest) (fun _ ↦ True) (attemptDelivery crypto client item)
      (.sending (item :: rest)) := by
    have hdeliver : Follows (machine.move l) (fun _ q ↦ q = .recording item rest)
        (fun _ ↦ True) (deliver item (client item)) (.sending (item :: rest)) := by
      apply Follows.atomic _ (fun env db ↦ move_of_act (.outside (.refl db))) trivial
      intro env db result db' hsend
      cases hsend
      split
      · exact ⟨_, move_of_act (.dispatch (.send item rest hdelivers)), rfl⟩
      · exact ⟨_, move_of_act (.dispatch (.unsent item rest hdelivers)), rfl⟩
    refine hdeliver.bind ?_
    rintro result _ rfl
    apply follows_transaction _ trivial
    intro env db _ db' hcommit
    exact ⟨_, .dispatch (.record crypto item rest result hcrypto hdelivers hcommit), rfl⟩
  refine hclaim.bind ?_
  rintro items _ rfl
  have hloop : Follows (machine.move l) (fun _ q ↦ q = .sending []) (fun _ ↦ True)
      (Program.forEach (attemptDelivery crypto client) items) (.sending items) := by
    refine Follows.forEach (fun rest q ↦ q = Phase.sending rest) (fun item rest q hq ↦ ?_)
      items rfl
    rw [hq]
    exact hattempt item rest
  exact hloop.mono (fun _ _ _ ↦ trivial) fun _ h ↦ h

/-! ## Operators -/

theorem follows_createReplay {tenantID actorID : String} {req : ReplayRequest} {q' : Phase}
    (hnext : Creates l q') :
    Follows (machine.move l) (fun _ q ↦ q = q') (fun _ ↦ True)
      (createReplay tenantID actorID req) .idle := by
  have houtside {α : Type} {p : Work α} (hp : Changes Outside p) : Follows
      (machine.move l) (fun _ q ↦ q = .idle) (fun _ ↦ True) p .idle :=
    follows_of_outside hp (fun _ ↦ rfl) trivial
  refine (houtside outside_replayApprovalPolicyForReplay).bind ?_
  rintro _ _ rfl
  refine (houtside (changes_clockNow .refl)).bind ?_
  rintro _ _ rfl
  refine (houtside outside_requireFutureExpiry).bind ?_
  rintro _ _ rfl
  refine (houtside outside_dryRunReplay).bind ?_
  rintro total _ rfl
  apply follows_transaction _ trivial
  intro env db job db' hcommit
  exact ⟨_, .create tenantID actorID _ total job hnext hcommit, rfl⟩

theorem follows_releaseDeadLetter {tenantID entryID actorID reasonCode reason : String} :
    Follows (machine.move (.releaseDeadLetter tenantID entryID actorID reasonCode reason))
      (fun _ _ ↦ True) (fun _ ↦ True)
      (releaseDeadLetter tenantID entryID actorID reasonCode reason) .idle := by
  refine (follows_read (Q := fun _ q ↦ q = .idle) (fun _ ↦ rfl) trivial).bind ?_
  rintro _ _ rfl
  refine (follows_createReplay (.entry tenantID entryID actorID reasonCode reason)).bind ?_
  rintro _ _ rfl
  have hmark : Follows
      (machine.move (.releaseDeadLetter tenantID entryID actorID reasonCode reason))
      (fun _ _ ↦ True) (fun _ ↦ True) (transaction fun _ ↦ markDeadLetterReleased tenantID entryID)
      (.marking tenantID entryID) := by
    apply follows_transaction _ trivial
    intro env db _ db' hcommit
    exact ⟨_, .dispatch (.release tenantID entryID actorID reasonCode reason hcommit), trivial⟩
  exact hmark.bind fun _ _ _ ↦ trivial

/-! ## The simulation -/

theorem follows_discard {α : Type} {p : Work α} {q : Phase} {Q : α → Phase → Prop}
    (hp : Follows (machine.move l) Q (fun _ ↦ True) p q) :
    Follows (machine.move l) (fun _ _ ↦ True) (fun _ ↦ True) p.discard q :=
  hp.bind fun _ _ _ ↦ trivial

theorem follows_program (l : Op) : Follows (machine.move l) (fun _ _ ↦ True) (fun _ ↦ True) l.program .idle := by
  have houtside {α : Type} {p : Work α} (hp : Changes Outside p) : Follows
      (machine.move l) (fun _ _ ↦ True) (fun _ ↦ True) p .idle :=
    follows_of_outside hp (fun _ ↦ trivial) trivial
  have hchanges {α : Type} {p : Work α} (hp : Changes Outside p) : Follows
      (machine.move l) (fun _ _ ↦ True) (fun _ ↦ True) p.discard .idle :=
    follows_discard (houtside hp)
  have hact {t : Env → DB → Except StoreError (Unit × DB)}
      (ht : ∀ env db db', t env db = .ok ((), db') → Act l .idle env db .idle db') : Follows
      (machine.move l) (fun _ _ ↦ True) (fun _ ↦ True) (transaction t) .idle :=
    follows_transaction (fun env db _ db' h ↦ ⟨_, ht env db db' h, trivial⟩) trivial
  cases l with
  | captureInbound => exact hchanges (outside_transaction fun _ _ _ _ ↦ outside_captureInbound)
  | captureRecovered =>
    exact hchanges outside_captureRecoveredProviderEvent
  | approveQuarantine => exact houtside outside_approveQuarantine
  | rejectQuarantine => exact houtside outside_rejectQuarantine
  | runOutbox => exact follows_runOutbox
  | runDeliveries => exact follows_runDeliveries rfl rfl
  | payloadRetention policy => exact hact fun _ _ _ h ↦ .dispatch (.retain policy h)
  | createReplay tenantID actorID req => exact follows_discard (follows_createReplay (.job tenantID actorID req))
  | approveReplayJob tenantID jobID actorID => exact hact fun _ _ _ h ↦ .approve tenantID jobID actorID h
  | pauseReplayJob tenantID jobID => exact hact fun _ _ _ h ↦ .pause tenantID jobID h
  | resumeReplayJob tenantID jobID => exact hact fun _ _ _ h ↦ .resume tenantID jobID h
  | cancelReplayJob tenantID jobID => exact hact fun _ _ _ h ↦ .cancel tenantID jobID h
  | releaseDeadLetter =>
    exact follows_discard follows_releaseDeadLetter
  | retryDelivery tenantID deliveryID => exact hact fun _ _ _ h ↦ .dispatch (.retry tenantID deliveryID h)
  | cancelDelivery tenantID deliveryID =>
    exact hact fun _ _ _ h ↦ .dispatch (.cancel tenantID deliveryID h)
  | createSubscription => exact hchanges outside_createSubscription
  | updateSubscription => exact hchanges outside_updateSubscription
  | createRoute => exact hchanges outside_createRoute
  | updateRoute => exact hchanges outside_updateRoute
  | activateRoute => exact hchanges outside_activateRoute
  | createRetryPolicy =>
    exact hchanges outside_controlCreateRetryPolicy
  | updateRetryPolicy =>
    exact hchanges outside_controlUpdateRetryPolicy
  | deleteRetryPolicy =>
    exact hchanges outside_controlDeleteRetryPolicy
  | updateEndpoint => exact hchanges outside_controlUpdateEndpoint
  | deleteEndpoint => exact hchanges outside_controlDeleteEndpoint

/-- The machine simulates the operations. -/
theorem simulation : System.Simulation App.system machine
    (fun l p q ↦ Follows (machine.move l) (fun _ _ ↦ True) (fun _ ↦ True) p q) :=
  Program.simulation_system fun l ↦ ⟨.idle, rfl, follows_program l⟩

end Webhookery.Machine
