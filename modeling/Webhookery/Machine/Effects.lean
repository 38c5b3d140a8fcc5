import Webhookery.Machine.Simulation
import Webhookery.Concurrency.Invariants

/-!
# What a move does

The effect of a move of the machine on the replay jobs, the deliveries and the outbox, each said once.
The invariants of replays and deliveries are derived from these.
-/

namespace Webhookery.Machine

open Go Store App Relational Concurrency Provider

variable {l : Op} {q q' : Phase} {env : Env} {db db' : DB}

/-! ## Replay jobs -/

/-- The operations that set the state of a job by hand. -/
inductive ChangesState : Op → String → String → ReplayState → Prop
  | pause (tenantID jobID : String) : ChangesState (.pauseReplayJob tenantID jobID) tenantID jobID .paused
  | resume (tenantID jobID : String) :
      ChangesState (.resumeReplayJob tenantID jobID) tenantID jobID .scheduled
  | cancel (tenantID jobID : String) :
      ChangesState (.cancelReplayJob tenantID jobID) tenantID jobID .canceled

/-- What a move does to one replay job. -/
inductive JobStep (db db' : DB) : Op → Phase → Env → Phase → ReplayJob → ReplayJob → Prop
  | keep {l : Op} {q : Phase} {env : Env} {q' : Phase} (j : ReplayJob) : JobStep db db' l q env q' j j
  | approve {env : Env} {j : ReplayJob} (actorID : String)
      (approvable : j.approvable j.tenantID j.id actorID env.now = true)
      (commits : approveReplayJob j.tenantID j.id actorID env db = .ok ((), db')) :
      JobStep db db' (.approveReplayJob j.tenantID j.id actorID) .idle env .idle j
        { j with state := .scheduled, approvedBy := actorID, approvedAt := some (timestamptz env.now) }
  | change {l : Op} {env : Env} {j : ReplayJob} (state : ReplayState)
      (changes : ChangesState l j.tenantID j.id state) (may : state.mayBecome j.state = true)
      (commits : updateReplayState j.tenantID j.id state db = .ok ((), db')) :
      JobStep db db' l .idle env .idle j { j with state }
  | start {l : Op} {env : Env} {j : ReplayJob} (item : OutboxItem) (rest : List OutboxItem)
      (work : ReplayJobWork) (tenant : j.tenantID = item.tenantID) (job : j.id = item.resourceID)
      (scheduled : j.state = .scheduled) :
      JobStep db db' l (.working item (.loaded work) rest) env
        (.working item (.fanout (some work) .event) rest) j { j with state := .running }
  | complete {l : Op} {env : Env} {j : ReplayJob} (item : OutboxItem) (work : ReplayJobWork)
      (todo : Todo) (rest : List OutboxItem) (processedItems : Nat) (tenant : j.tenantID = item.tenantID)
      (job : j.id = item.resourceID) (notCanceled : j.state ≠ .canceled) :
      JobStep db db' l (.working item (.fanout (some work) todo) rest) env (.working item .settled rest)
        j { j with state := .completed, processedItems }

/-- What is fixed about a job when it is created. -/
structure SameJob (j j' : ReplayJob) : Prop where
  id : j'.id = j.id
  tenantID : j'.tenantID = j.tenantID
  request : j'.request = j.request
  createdBy : j'.createdBy = j.createdBy
  configMode : j'.configMode = j.configMode
  approvalRequired : j'.approvalRequired = j.approvalRequired
  approvalExpiresAt : j'.approvalExpiresAt = j.approvalExpiresAt

theorem SameJob.refl (j : ReplayJob) : SameJob j j := ⟨rfl, rfl, rfl, rfl, rfl, rfl, rfl⟩

theorem JobStep.same (h : JobStep db db' l q env q' j j') : SameJob j j' := by
  cases h <;> exact ⟨rfl, rfl, rfl, rfl, rfl, rfl, rfl⟩

/-- What a move does to the replay jobs: it creates one, or changes those that exist. -/
inductive JobsStep (l : Op) (q : Phase) (env : Env) (q' : Phase) (db db' : DB) : Prop
  | created (tenantID actorID : String) (req : ReplayRequest) (total : Nat) (next : Creates l q')
      (rows : db'.replayJobs.rows = db.replayJobs.rows ++ [replayJobRow env tenantID actorID req total])
      (queued : req.requireApproval = false →
        ∃ o ∈ db'.outbox, o.item = ⟨o.id, tenantID, .replayJob, env.mustID "rpl" 0⟩ ∧ o.state = .pending) :
      JobsStep l q env q' db db'
  | updated (f : ReplayJob → ReplayJob) (rows : db'.replayJobs.rows = db.replayJobs.rows.map f)
      (steps : ∀ j, JobStep db db' l q env q' j (f j)) : JobsStep l q env q' db db'

/-- Every job goes on. -/
theorem JobsStep.exists_step (h : JobsStep l q env q' db db') (hj : j ∈ db.replayJobs) :
    ∃ j' ∈ db'.replayJobs, JobStep db db' l q env q' j j' := by
  cases h with
  | created _ _ _ _ _ rows =>
    exact ⟨j, by simp only [Table.mem_def, rows, List.mem_append]; exact .inl hj, .keep j⟩
  | updated f rows steps =>
    exact ⟨f j, by rw [Table.mem_def, rows]; exact List.mem_map_of_mem hj, steps j⟩

/-- Every job comes from one before, or is new. -/
theorem JobsStep.of_mem (h : JobsStep l q env q' db db') (hj' : j' ∈ db'.replayJobs) :
    (∃ j ∈ db.replayJobs, JobStep db db' l q env q' j j') ∨
      ∃ tenantID actorID req total, j' = replayJobRow env tenantID actorID req total ∧
        (req.requireApproval = false → ∃ o ∈ db'.outbox,
          o.item = ⟨o.id, tenantID, .replayJob, env.mustID "rpl" 0⟩ ∧ o.state = .pending) := by
  cases h with
  | created tenantID actorID req total _ rows queued =>
    rcases (Table.mem_append rows).mp hj' with hold | hnew
    · exact .inl ⟨j', hold, .keep j'⟩
    · exact .inr ⟨tenantID, actorID, req, total, List.mem_singleton.mp hnew, queued⟩
  | updated f rows steps =>
    obtain ⟨j, hj, rfl⟩ := (Table.mem_map rows).mp hj'
    exact .inl ⟨j, hj, steps j⟩

/-- The job with the same identifier. -/
theorem JobsStep.step_of_id (h : JobsStep l q env q' db db') (hj : j ∈ db.replayJobs)
    (hj' : j' ∈ db'.replayJobs) (hid : j'.id = j.id) : JobStep db db' l q env q' j j' := by
  obtain ⟨j₁, hj₁, hstep⟩ := h.exists_step hj
  obtain rfl : j₁ = j' := Table.eq_of_key_eq hj₁ hj' (hstep.same.id.trans hid.symm)
  exact hstep

theorem JobsStep.of_eq (h : db'.replayJobs = db.replayJobs) : JobsStep l q env q' db db' :=
  .updated id (by rw [h, List.map_id]) .keep

/-- An update of the jobs that meet a condition. -/
theorem JobsStep.of_ite {p : ReplayJob → Bool} {f : ReplayJob → ReplayJob}
    (hrows : db'.replayJobs.rows = db.replayJobs.rows.map fun j ↦ if p j then f j else j)
    (hsteps : ∀ j, p j = true → JobStep db db' l q env q' j (f j)) : JobsStep l q env q' db db' := by
  refine .updated _ hrows fun j ↦ ?_
  split
  case isTrue hp => exact hsteps j hp
  case isFalse => exact .keep j

theorem JobsStep.of_updateReplayState {tenantID jobID : String} {state : ReplayState}
    (hchanges : ChangesState l tenantID jobID state)
    (h : updateReplayState tenantID jobID state db = .ok ((), db')) :
    JobsStep l .idle env .idle db db' := by
  obtain ⟨-, jobs, hrows, hdb⟩ := updateReplayState_eq_ok h
  obtain rfl : db'.replayJobs = jobs := by rw [hdb]
  refine .of_ite hrows fun j hguard ↦ ?_
  simp only [Bool.and_eq_true, beq_iff_eq] at hguard
  obtain ⟨⟨rfl, rfl⟩, hmay⟩ := hguard
  exact .change state hchanges hmay h

/-- Moves of delivery workers and operators on deliveries leave the jobs and the outbox alone. -/
theorem frame_of_dispatch (h : Dispatch l q env db q' db') :
    db'.replayJobs = db.replayJobs ∧ db'.replayItems = db.replayItems ∧
      db'.replayReceipts = db.replayReceipts ∧ db'.outbox = db.outbox ∧ db'.events = db.events := by
  cases h with
  | claim _ _ _ _ commits =>
    obtain ⟨_, -, h⟩ := bind_eq_ok.mp commits
    cases h
    exact ⟨rfl, rfl, rfl, rfl, rfl⟩
  | send | unsent => exact ⟨rfl, rfl, rfl, rfl, rfl⟩
  | record _ _ _ _ _ _ commits =>
    obtain ⟨_, _, _, -, -, rfl⟩ := recordDeliveryAttempt_eq_ok commits
    exact ⟨rfl, rfl, rfl, rfl, rfl⟩
  | retain _ commits | release _ _ _ _ _ commits =>
    cases commits
    exact ⟨rfl, rfl, rfl, rfl, rfl⟩
  | retry _ _ commits | cancel _ _ commits =>
    rw [(updateDelivery_eq_ok commits).1]
    exact ⟨rfl, rfl, rfl, rfl, rfl⟩

theorem jobsStep_of_act (h : Act l q env db q' db') : JobsStep l q env q' db db' := by
  cases h with
  | outside outside => exact .of_eq outside.replayJobs
  | dispatch dispatch => exact .of_eq (frame_of_dispatch dispatch).1
  | create tenantID actorID req total _ next commits =>
    obtain ⟨rfl, _, _, hrows, houtbox, rfl⟩ := insertReplayJob_eq_ok commits
    refine .created tenantID actorID req total next hrows fun hfree ↦ ?_
    have hrequired : (replayJobRow env tenantID actorID req total).approvalRequired = false := hfree
    rw [if_neg (Bool.not_eq_true _ ▸ hrequired)] at houtbox
    refine ⟨outboxRow env tenantID .replayJob (env.mustID "rpl" 0), ?_, rfl, rfl⟩
    exact (Table.mem_of_rows_append houtbox).mpr (.inr rfl)
  | approve tenantID jobID actorID commits =>
    obtain ⟨-, jobs, _, hrows, -, hdb⟩ := approveReplayJob_eq_ok commits
    obtain rfl : db'.replayJobs = jobs := by rw [hdb]
    refine .of_ite hrows fun j happrovable ↦ ?_
    obtain ⟨rfl, rfl⟩ : j.tenantID = tenantID ∧ j.id = jobID := by
      simp only [ReplayJob.approvable, Bool.and_eq_true, beq_iff_eq] at happrovable
      exact happrovable.1.1.1.1
    exact .approve actorID happrovable commits
  | pause tenantID jobID commits => exact .of_updateReplayState (.pause tenantID jobID) commits
  | resume tenantID jobID commits => exact .of_updateReplayState (.resume tenantID jobID) commits
  | cancel tenantID jobID commits => exact .of_updateReplayState (.cancel tenantID jobID) commits
  | claim _ _ _ _ _ commits | finish _ _ _ commits =>
    cases commits
    exact .of_eq rfl
  | load | settle | learn => exact .of_eq rfl
  | start item rest work commits =>
    obtain ⟨-, rfl⟩ := Prod.mk.inj (Except.ok.inj commits)
    refine .of_ite rfl fun j hguard ↦ ?_
    simp only [Bool.and_eq_true, beq_iff_eq] at hguard
    exact .start item rest work hguard.1.1 hguard.1.2 hguard.2
  | snapshot _ _ _ _ _ _ _ _ _ _ commits =>
    obtain ⟨_, _, htaken⟩ := createDeliverySnapshot_taken commits
    exact .of_eq (by rw [htaken.frame])
  | noop _ _ _ _ _ _ _ commits =>
    obtain ⟨-, _, -, h⟩ := require_insertRow_eq_ok.mp commits
    cases h
    exact .of_eq rfl
  | complete item work todo rest processedItems commits =>
    cases commits
    refine .of_ite rfl fun j hguard ↦ ?_
    simp only [Bool.and_eq_true, beq_iff_eq, bne_iff_ne] at hguard
    exact .complete item work todo rest processedItems hguard.1.1 hguard.1.2 hguard.2

/-! ## Deliveries -/

/-- What is fixed about a delivery when it is created. -/
structure SameDelivery (d d' : Delivery) : Prop where
  id : d'.id = d.id
  tenantID : d'.tenantID = d.tenantID
  eventID : d'.eventID = d.eventID
  routeID : d'.routeID = d.routeID
  subscriptionID : d'.subscriptionID = d.subscriptionID
  replayJobID : d'.replayJobID = d.replayJobID
  deliveryPayloadID : d'.deliveryPayloadID = d.deliveryPayloadID

theorem SameDelivery.refl (d : Delivery) : SameDelivery d d := ⟨rfl, rfl, rfl, rfl, rfl, rfl, rfl⟩

/-- What a move does to the deliveries: a fanout creates one, or those that exist are changed. -/
inductive DeliveriesStep (l : Op) (q : Phase) (env : Env) (q' : Phase) (db db' : DB) : Prop
  | created {item : OutboxItem} {job : Option ReplayJobWork} {todo todo' : Todo}
      {rest : List OutboxItem} {codec : PayloadCodec} {req : DeliverySnapshotRequest} {ref : PayloadRef}
      {p : DeliveryPayload} (taken : SnapshotTaken codec env req db ref p db')
      (before : q = .working item (.fanout job todo) rest)
      (after : q' = .working item (.fanout job todo') rest) (takes : Takes item job todo req todo') :
      DeliveriesStep l q env q' db db'
  | updated (f : Delivery → Delivery) (rows : db'.deliveries.rows = db.deliveries.rows.map f)
      (same : ∀ d, SameDelivery d (f d)) : DeliveriesStep l q env q' db db'

theorem DeliveriesStep.of_eq (h : db'.deliveries = db.deliveries) : DeliveriesStep l q env q' db db' :=
  .updated id (by rw [h, List.map_id]) .refl

/-- Nothing changed but what attempts and operators change. -/
def SameSnapshot (d d' : Delivery) : Prop :=
  d' = { d with
    retrySeed := d'.retrySeed, state := d'.state, attemptCount := d'.attemptCount,
    nextAttemptAt := d'.nextAttemptAt, lockedBy := d'.lockedBy, lockExpiresAt := d'.lockExpiresAt }

theorem SameSnapshot.refl (d : Delivery) : SameSnapshot d d := rfl

theorem SameSnapshot.same (h : SameSnapshot d d') : SameDelivery d d' := by
  rw [h]
  exact ⟨rfl, rfl, rfl, rfl, rfl, rfl, rfl⟩

theorem sameSnapshot_claimUpdate (workerID : String) (now : Time) (claimedIDs : List String)
    (d : Delivery) : SameSnapshot d (deliveryClaimUpdate workerID now claimedIDs d) := by
  unfold deliveryClaimUpdate Delivery.released Delivery.claimedBy
  split <;> split <;> rfl

theorem sameSnapshot_afterAttempt (crypto : Crypto) (now : Time) (item : DeliveryItem)
    (outcome : AttemptOutcome) (d : Delivery) :
    SameSnapshot d (d.afterAttempt crypto now item outcome) := by
  cases outcome <;> rfl

theorem snapshots_of_dispatch (h : Dispatch l q env db q' db') :
    ∃ f, db'.deliveries.rows = db.deliveries.rows.map f ∧ ∀ d, SameSnapshot d (f d) := by
  have hkeep (h : db'.deliveries = db.deliveries) :
      ∃ f, db'.deliveries.rows = db.deliveries.rows.map f ∧ ∀ d, SameSnapshot d (f d) :=
    ⟨id, by rw [h, List.map_id], .refl⟩
  have hupdate {tenantID deliveryID : String} {guard : Delivery → Bool} {f : Delivery → Delivery}
      {hid : ∀ d, (f d).id = d.id}
      (h : updateDelivery tenantID deliveryID guard f hid db = .ok ((), db'))
      (hf : ∀ d, SameSnapshot d (f d)) :
      ∃ f, db'.deliveries.rows = db.deliveries.rows.map f ∧ ∀ d, SameSnapshot d (f d) := by
    obtain ⟨_, -, h⟩ := bind_eq_ok.mp h
    cases h
    refine ⟨_, rfl, fun d ↦ ?_⟩
    split
    · exact hf d
    · exact .refl d
  cases h with
  | claim workerID _ _ _ commits =>
    obtain ⟨_, -, h⟩ := bind_eq_ok.mp commits
    cases h
    exact ⟨_, rfl, sameSnapshot_claimUpdate workerID env.now _⟩
  | send | unsent => exact hkeep rfl
  | record crypto item _ _ _ _ commits =>
    obtain ⟨outcome, _, _, -, -, rfl⟩ := recordDeliveryAttempt_eq_ok commits
    refine ⟨_, rfl, fun d ↦ ?_⟩
    split
    · exact sameSnapshot_afterAttempt crypto env.now item outcome d
    · exact .refl d
  | retain _ commits | release _ _ _ _ _ commits =>
    cases commits
    exact hkeep rfl
  | retry _ _ commits | cancel _ _ commits =>
    exact hupdate commits fun _ ↦ rfl

/-- The deliveries a worker has claimed and not recorded yet. -/
def Phase.deliveryItems : Phase → List DeliveryItem
  | .sending held => held
  | .recording item rest => item :: rest
  | _ => []

/-- The tables of deliveries, the retry policies, the circuits of endpoints and the events are untouched, but for new
events. -/
structure SameDeliveries (db db' : DB) : Prop where
  deliveries : db'.deliveries = db.deliveries
  deliveryPayloads : db'.deliveryPayloads = db.deliveryPayloads
  attempts : db'.attempts = db.attempts
  sent : db'.sent = db.sent
  deadLetters : db'.deadLetters = db.deadLetters
  retryPolicies : PoliciesKept db db'
  endpoints : CircuitsKept db db'
  events : ∀ e ∈ db.events, e ∈ db'.events

/-- Replays were noted to find nothing, at most. -/
structure ItemsNoted (db db' : DB) : Prop where
  items : ∃ items, db'.replayItems.rows = db.replayItems.rows ++ items ∧
    ∀ i ∈ items, i.originalDeliveryID = "" ∧ i.newDeliveryID = ""
  receipts : db'.replayReceipts = db.replayReceipts

theorem ItemsNoted.of_eq (h : db'.replayItems = db.replayItems)
    (hreceipts : db'.replayReceipts = db.replayReceipts) : ItemsNoted db db' :=
  ⟨⟨[], by rw [h, List.append_nil], List.forall_mem_nil _⟩, hreceipts⟩

/-- What a move has to do with deliveries: it is one of a delivery worker, of retention or of an operator,
it creates one, or it leaves them alone. -/
inductive DeliveryMove (l : Op) (q : Phase) (env : Env) (q' : Phase) (db db' : DB) : Prop
  | dispatch (dispatch : Dispatch l q env db q' db') : DeliveryMove l q env q' db db'
  | snapshot {item : OutboxItem} {job : Option ReplayJobWork} {todo todo' : Todo}
      {rest : List OutboxItem} {codec : PayloadCodec} {req : DeliverySnapshotRequest}
      {ref : PayloadRef} {p : DeliveryPayload}
      (taken : SnapshotTaken codec env req db ref p db') (hashes : l.crypto = some codec.crypto)
      (before : q = .working item (.fanout job todo) rest)
      (after : q' = .working item (.fanout job todo') rest) (takes : Takes item job todo req todo') :
      DeliveryMove l q env q' db db'
  | other (same : SameDeliveries db db') (items : q'.deliveryItems ⊆ q.deliveryItems)
      (noted : ItemsNoted db db') : DeliveryMove l q env q' db db'

theorem deliveryMove_of_act (h : Act l q env db q' db') : DeliveryMove l q env q' db db' := by
  cases h
  case outside outside =>
    obtain ⟨_, hevents⟩ := outside.events
    exact .other ⟨outside.deliveries, outside.deliveryPayloads, outside.attempts, outside.sent,
      outside.deadLetters, outside.retryPolicies, outside.endpoints,
      fun e he ↦ (Table.mem_append hevents).mpr (.inl he)⟩ (List.Subset.refl _)
      (.of_eq outside.replayItems outside.replayReceipts)
  case dispatch dispatch => exact .dispatch dispatch
  case snapshot takes hashes commits =>
    obtain ⟨_, _, htaken⟩ := createDeliverySnapshot_taken commits
    exact .snapshot htaken hashes rfl rfl takes
  case noop commits =>
    obtain ⟨-, _, hinsert, h⟩ := require_insertRow_eq_ok.mp commits
    cases h
    refine .other ⟨rfl, rfl, rfl, rfl, rfl, .of_eq rfl, .of_eq rfl, fun _ he ↦ he⟩ (List.Subset.refl _)
      ⟨⟨_, Table.rows_insert? hinsert, fun i hi ↦ ?_⟩, rfl⟩
    rw [List.mem_singleton.mp hi]
    exact ⟨rfl, rfl⟩
  -- the other moves write nothing that belongs to deliveries
  case' create next commits =>
    obtain ⟨-, _, _, -, -, rfl⟩ := insertReplayJob_eq_ok commits
    cases next
  case' approve commits => obtain ⟨-, _, _, -, -, rfl⟩ := approveReplayJob_eq_ok commits
  case' pause commits | resume commits | cancel commits => obtain ⟨-, _, -, rfl⟩ := updateReplayState_eq_ok commits
  case' start commits => obtain ⟨-, rfl⟩ := Prod.mk.inj (Except.ok.inj commits)
  case' claim commits | complete commits | finish commits => cases commits
  all_goals refine .other ⟨rfl, rfl, rfl, rfl, rfl, .of_eq rfl, .of_eq rfl, fun _ he ↦ he⟩ ?_ (.of_eq rfl rfl)
  case finish => exact List.nil_subset _
  all_goals exact List.Subset.refl _

theorem deliveriesStep_of_act (h : Act l q env db q' db') : DeliveriesStep l q env q' db db' := by
  cases deliveryMove_of_act h with
  | dispatch dispatch =>
    obtain ⟨f, hrows, hsame⟩ := snapshots_of_dispatch dispatch
    exact .updated f hrows fun d ↦ (hsame d).same
  | snapshot taken _ before after takes => exact .created taken before after takes
  | other same => exact .of_eq same.deliveries

/-! ## The outbox -/

/-- A replay job that exists and was approved if it had to be. -/
def Backed (db : DB) (tenantID jobID : String) : Prop :=
  ∃ j ∈ db.replayJobs, j.tenantID = tenantID ∧ j.id = jobID ∧
    (j.approvalRequired = true → j.approvedAt.isSome = true)

/-- What a move does to the outbox. -/
inductive OutboxStep (l : Op) (q : Phase) (env : Env) (q' : Phase) (db db' : DB) : Prop
  | appended (rows : List OutboxRow) (outbox : db'.outbox.rows = db.outbox.rows ++ rows)
      (pending : ∀ o ∈ rows, o.state = .pending)
      (backed : ∀ o ∈ rows, o.kind = .replayJob → Backed db' o.tenantID o.resourceID) :
      OutboxStep l q env q' db db'
  | claimed (codec : PayloadCodec) (registry : ReconcileRegistry) (workerID : String) (limit : Int)
      (items : List OutboxItem) (label : l = .runOutbox codec registry workerID limit)
      (before : q = .idle) (after : q' = .items items)
      (commits : claimOutbox workerID (if limit ≤ 0 then 10 else limit.toNat) env db =
        .ok (items, db')) : OutboxStep l q env q' db db'
  | finished (item : OutboxItem) (rest : List OutboxItem) (before : Finished item rest q)
      (after : q' = .items rest) (commits : completeOutbox item.id db = .ok ((), db')) :
      OutboxStep l q env q' db db'

theorem OutboxStep.of_eq (h : db'.outbox = db.outbox) : OutboxStep l q env q' db db' :=
  .appended [] (by rw [h, List.append_nil]) (List.forall_mem_nil _) (List.forall_mem_nil _)

theorem outboxStep_of_act (h : Act l q env db q' db') : OutboxStep l q env q' db db' := by
  cases h with
  | outside outside =>
    obtain ⟨rows, houtbox, hrows⟩ := outside.outbox
    exact .appended rows houtbox (fun o ho ↦ (hrows o ho).2) fun o ho hkind ↦ absurd hkind (hrows o ho).1
  | dispatch dispatch => exact .of_eq (frame_of_dispatch dispatch).2.2.2.1
  | create _ _ _ _ job _ commits =>
    obtain ⟨-, jobs, _, hjobs, houtbox, rfl⟩ := insertReplayJob_eq_ok commits
    split at houtbox
    case isTrue => exact .appended [] houtbox (by simp) (by simp)
    case isFalse hrequired =>
      refine .appended _ houtbox (by simp [outboxRow]) fun o ho _ ↦ ?_
      obtain rfl := List.mem_singleton.mp ho
      have hjob : job ∈ jobs := by simp [Table.mem_def, hjobs]
      exact ⟨job, hjob, rfl, rfl, fun h ↦ absurd h hrequired⟩
  | approve tenantID jobID actorID commits =>
    obtain ⟨⟨j, hj, happrovable⟩, jobs, _, hjobs, houtbox, rfl⟩ := approveReplayJob_eq_ok commits
    refine .appended _ houtbox (by simp [outboxRow]) fun o ho _ ↦ ?_
    obtain rfl := List.mem_singleton.mp ho
    obtain ⟨htenant, hid⟩ : j.tenantID = tenantID ∧ j.id = jobID := by
      simp only [ReplayJob.approvable, Bool.and_eq_true, beq_iff_eq] at happrovable
      exact happrovable.1.1.1.1
    have happroved : { j with
        state := .scheduled, approvedBy := actorID, approvedAt := some (timestamptz env.now) } ∈ jobs := by
      rw [Table.mem_def, hjobs]
      exact List.mem_map.mpr ⟨j, hj, if_pos happrovable⟩
    exact ⟨_, happroved, htenant, hid, fun _ ↦ rfl⟩
  | pause _ _ commits | resume _ _ commits | cancel _ _ commits =>
    obtain ⟨-, _, -, rfl⟩ := updateReplayState_eq_ok commits
    exact .of_eq rfl
  | claim codec registry workerID limit items commits =>
    exact .claimed codec registry workerID limit items rfl rfl rfl commits
  | load | settle | learn => exact .of_eq rfl
  | start _ _ _ commits =>
    obtain ⟨-, rfl⟩ := Prod.mk.inj (Except.ok.inj commits)
    exact .of_eq rfl
  | snapshot _ _ _ _ _ _ _ _ _ _ commits =>
    obtain ⟨_, _, htaken⟩ := createDeliverySnapshot_taken commits
    exact .of_eq (by rw [htaken.frame])
  | noop _ _ _ _ _ _ _ commits =>
    obtain ⟨-, _, -, h⟩ := require_insertRow_eq_ok.mp commits
    cases h
    exact .of_eq rfl
  | complete _ _ _ _ _ commits =>
    cases commits
    exact .of_eq rfl
  | finish item rest finished commits => exact .finished item rest finished rfl commits

/-! ## Rules for the machine -/

section Rules

variable {Allowed : Transition Op Env DB → Prop} {I : DB → Prop} {P : DB → Op → Phase → Prop}

theorem leads_invariant {R : Phase → Prop} (hsilent : ∀ q q₀, Silent q q₀ → R q → R q₀)
    (h : Leads q q') (hq : R q) : R q' := by
  induction h with
  | refl => exact hq
  | tail _ hstep ih => exact hsilent _ _ hstep ih

/-- Conditions that acts keep and that pass to smaller phases. -/
theorem modular_machine (henter : ∀ db l, I db → P db l .idle)
    (hsilent : ∀ db l q q₀, Silent q q₀ → P db l q → P db l q₀)
    (hact : ∀ l q env db q' db', I db → P db l q → Allowed ⟨l, .act env, db, db'⟩ →
      Act l q env db q' db' → I db' ∧ P db' l q')
    (hkeep : ∀ l q env db q' db', I db → P db l q → Allowed ⟨l, .act env, db, db'⟩ →
      Act l q env db q' db' → ∀ l₁ q₁, P db l₁ q₁ → P db' l₁ q₁) :
    System.Modular machine Allowed I P where
  enter := by
    rintro db l _ hI rfl
    exact henter db l hI
  move := by
    rintro l q env db q' db' hI hP hallowed ⟨q₀, hleads, hact'⟩
    exact hact l q₀ env db q' db' hI (leads_invariant (hsilent db l) hleads hP) hallowed hact'
  keep := by
    rintro l q env db q' db' hI hP hallowed ⟨q₀, hleads, hact'⟩
    exact hkeep l q₀ env db q' db' hI (leads_invariant (hsilent db l) hleads hP) hallowed hact'

/-- A condition on the store that acts keep holds in every state that the system reaches. -/
theorem invariant_of_acts (hinit : ∀ db, Init db → I db)
    (hact : ∀ l q env db q' db', I db → Act l q env db q' db' → I db')
    (hrun : App.system.Run Init events c) : I c.state := by
  obtain ⟨_, hts, -⟩ := simulation.run hrun
  have hmodular : System.Modular machine (fun _ ↦ True) I fun _ _ _ ↦ True :=
    modular_machine (fun _ _ _ ↦ trivial) (fun _ _ _ _ _ _ ↦ trivial)
      (fun l q env db q' db' hI _ _ h ↦ ⟨hact l q env db q' db' hI h, trivial⟩)
      fun _ _ _ _ _ _ _ _ _ _ _ _ _ ↦ trivial
  exact (hmodular.run hinit hts fun _ _ ↦ trivial).state

/-- A budget that acts keep and of which smaller phases hold less. -/
theorem budget_machine (henter : held .idle = 0) (hPsilent : ∀ db l q q₀, Silent q q₀ → P db l q → P db l q₀)
    (hsilent : ∀ q q₀, Silent q q₀ → held q₀ ≤ held q)
    (hact : ∀ l q env db q' db', I db → P db l q → Allowed ⟨l, .act env, db, db'⟩ →
      Act l q env db q' db' → spent db' + held q' ≤ spent db + held q) :
    System.Budget machine Allowed I P spent (fun _ ↦ held) where
  enter := by
    rintro l _ rfl
    exact henter
  move := by
    rintro l q env db q' db' hI hP hallowed ⟨q₀, hleads, hact'⟩
    have hspend := hact l q₀ env db q' db' hI (leads_invariant (hPsilent db l) hleads hP) hallowed hact'
    have hless : held q₀ ≤ held q :=
      leads_invariant (R := fun q' ↦ held q' ≤ held q) (fun q₁ q₂ h h₁ ↦ (hsilent q₁ q₂ h).trans h₁)
        hleads le_rfl
    omega

/-- A step leaves the state alone or is an act of a thread. -/
theorem exists_act_of_step (h : machine.Step c e c') :
    c'.state = c.state ∨ ∃ l q₀ q env q', (l, q₀) ∈ c.threads ∧ Leads q₀ q ∧
      e = ⟨l, .act env, c.state, c'.state⟩ ∧ Act l q env c.state q' c'.state := by
  cases h with
  | start | crash => exact .inl rfl
  | act _ _ _ _ l q q' env moves =>
    obtain ⟨q₀, hleads, hact⟩ := moves
    exact .inr ⟨l, q, q₀, env, q', by simp, hleads, rfl, hact⟩

/-- The thread that acts meets its condition. -/
theorem act_of_step (hsilent : ∀ db l q q₀, Silent q q₀ → P db l q → P db l q₀) (hmeets : System.Meets I P c)
    (h : machine.Step c e c') :
    c'.state = c.state ∨ ∃ l q env q', P c.state l q ∧ e = ⟨l, .act env, c.state, c'.state⟩ ∧
      Act l q env c.state q' c'.state := by
  refine (exists_act_of_step h).imp_right ?_
  rintro ⟨l, _, q, env, q', hthread, hleads, he, hact⟩
  exact ⟨l, q, env, q', leads_invariant (hsilent c.state l) hleads (hmeets.threads _ hthread), he, hact⟩

end Rules

end Webhookery.Machine
