import Webhookery.Machine.Effects

/-!
# Replay jobs across all runs

Whatever the order of the operations, work on a replay job is done for a job that exists and, when it
needs approval, was approved: its outbox rows, the items that workers hold and the deliveries it
created. Nothing but the approval itself queues a job that needs one.
-/

namespace Webhookery.Machine

open Go Store App Relational Concurrency

variable {l : Op} {q q' : Phase} {env : Env} {db db' : DB} {item : OutboxItem}

/-- A store without replays. -/
structure NoReplays (db : DB) : Prop where
  replayJobs : db.replayJobs.rows = []
  replayItems : db.replayItems.rows = []
  outbox : ∀ o ∈ db.outbox, o.kind ≠ .replayJob
  deliveries : ∀ d ∈ db.deliveries, d.replayJobID = ""

/-- What replays leave in the store. -/
structure ReplaysSound (db : DB) : Prop where
  named : ∀ j ∈ db.replayJobs, j.id ≠ ""
  outbox : ∀ o ∈ db.outbox, o.kind = .replayJob → Backed db o.tenantID o.resourceID
  deliveries : ∀ d ∈ db.deliveries, d.replayJobID ≠ "" → ∃ tenantID, Backed db tenantID d.replayJobID
  pending : ∀ j ∈ db.replayJobs, j.state = .pendingApproval →
    j.approvalRequired = true ∧ j.approvedAt = none
  approved : ∀ j ∈ db.replayJobs, j.approvedAt.isSome = true → j.approvedBy ≠ j.createdBy

theorem NoReplays.sound (h : NoReplays db) : ReplaysSound db where
  named _ hj := absurd hj (Table.not_mem_of_rows_eq_nil h.replayJobs)
  outbox o ho hkind := absurd hkind (h.outbox o ho)
  deliveries d hd hjob := absurd (h.deliveries d hd) hjob
  pending _ hj := absurd hj (Table.not_mem_of_rows_eq_nil h.replayJobs)
  approved _ hj := absurd hj (Table.not_mem_of_rows_eq_nil h.replayJobs)

/-! ## What workers hold -/

/-- The items of the outbox that a worker holds. -/
def Phase.outboxItems : Phase → List OutboxItem
  | .items held => held
  | .working item _ rest => item :: rest
  | _ => []

/-- What a worker read about a job is still so. -/
def WorkOf (db : DB) (item : OutboxItem) (work : ReplayJobWork) : Prop :=
  ∃ j ∈ db.replayJobs, j.tenantID = item.tenantID ∧ j.id = item.resourceID ∧
    work.request.eventID = j.request.eventID ∧ work.request.deliveryID = j.request.deliveryID ∧
    work.configMode = j.configMode

def TaskSound (db : DB) (item : OutboxItem) : Task → Prop
  | .loaded work => item.kind = .replayJob ∧ WorkOf db item work
  | .fanout (some work) _ => item.kind = .replayJob ∧ WorkOf db item work
  | .fanout none _ => OutboxKind.routes item.kind = true
  | .settled => item.kind = .replayJob

def Phase.TaskSound (db : DB) : Phase → Prop
  | .working item task _ => Machine.TaskSound db item task
  | _ => True

/-- What a worker holds: items of the outbox, those of replays backed by a job. -/
structure PhaseSound (db : DB) (q : Phase) : Prop where
  rows : ∀ item ∈ q.outboxItems, ∃ o ∈ db.outbox, o.item = item
  items : ∀ item ∈ q.outboxItems, item.kind = .replayJob → Backed db item.tenantID item.resourceID
  task : q.TaskSound db

/-! ## Moves keep what they rely on -/

theorem Backed.mono (h : Backed db tenantID jobID) (hjobs : JobsStep l q env q' db db') : Backed db' tenantID jobID := by
  obtain ⟨_, hj, htenant, hid, happroved⟩ := h
  obtain ⟨j', hj', hstep⟩ := hjobs.exists_step hj
  have hsame := hstep.same
  refine ⟨j', hj', hsame.tenantID.trans htenant, hsame.id.trans hid, fun hrequired ↦ ?_⟩
  have hsome := happroved (hsame.approvalRequired ▸ hrequired)
  cases hstep with
  | approve => rfl
  | keep | change | start | complete => exact hsome

theorem WorkOf.mono (h : WorkOf db item work) (hjobs : JobsStep l q env q' db db') : WorkOf db' item work := by
  obtain ⟨_, hj, htenant, hid, hevent, hdelivery, hmode⟩ := h
  obtain ⟨j', hj', hstep⟩ := hjobs.exists_step hj
  have hsame := hstep.same
  refine ⟨j', hj', hsame.tenantID.trans htenant, hsame.id.trans hid, ?_, ?_, ?_⟩
  · rw [hsame.request, hevent]
  · rw [hsame.request, hdelivery]
  · rw [hsame.configMode, hmode]

theorem TaskSound.mono (h : TaskSound db item task) (hjobs : JobsStep l q env q' db db') : TaskSound db' item task := by
  match task, h with
  | .loaded work, h => exact ⟨h.1, h.2.mono hjobs⟩
  | .fanout (some work) _, h => exact ⟨h.1, h.2.mono hjobs⟩
  | .fanout none _, h => exact h
  | .settled, h => exact h

/-- Rows of the outbox keep their item. -/
theorem OutboxStep.exists_item (h : OutboxStep l q env q' db db') (ho : o ∈ db.outbox) :
    ∃ o' ∈ db'.outbox, o'.item = o.item := by
  cases h with
  | appended _ outbox =>
    exact ⟨o, by rw [Table.mem_def, outbox]; exact List.mem_append_left _ ho, rfl⟩
  | claimed _ _ workerID _ _ _ _ _ commits =>
    cases commits
    exact ⟨_, List.mem_map_of_mem ho, claimUpdate_item workerID env.now _ o⟩
  | finished _ _ _ _ commits =>
    cases commits
    refine ⟨_, List.mem_map_of_mem ho, ?_⟩
    split <;> rfl

theorem PhaseSound.mono (h : PhaseSound db q₁) (hact : Act l q env db q' db') : PhaseSound db' q₁ where
  rows item hitem := by
    obtain ⟨_, ho, rfl⟩ := h.rows item hitem
    exact (outboxStep_of_act hact).exists_item ho
  items item hitem hkind := (h.items item hitem hkind).mono (jobsStep_of_act hact)
  task := by
    cases q₁ with
    | working item task =>
      have htask : TaskSound db item task := h.task
      exact htask.mono (jobsStep_of_act hact)
    | idle | items | sending | recording | marking => trivial

theorem PhaseSound.idle : PhaseSound db .idle :=
  ⟨nofun, nofun, trivial⟩

theorem PhaseSound.silent (h : PhaseSound db q) (hsilent : Silent q q₀) : PhaseSound db q₀ := by
  cases hsilent with
  | skip | drop =>
    exact ⟨fun i hi ↦ h.rows i (List.mem_cons_of_mem _ hi),
      fun i hi ↦ h.items i (List.mem_cons_of_mem _ hi), trivial⟩
  | route _ _ routes => exact ⟨h.rows, h.items, routes⟩
  | delivery _ job | done _ job =>
    refine ⟨h.rows, h.items, ?_⟩
    cases job <;> exact h.task

/-! ## The items a move leaves to its worker -/

theorem outboxItems_of_act (h : Act l q env db q' db') (hitem : item ∈ q'.outboxItems) :
    item ∈ q.outboxItems ∨ ∃ o ∈ db.outbox, o.item = item := by
  cases h with
  | outside | load | settle | start | learn | snapshot | noop | complete => exact .inl hitem
  | dispatch dispatch => cases dispatch <;> cases hitem
  | create _ _ _ _ _ next => cases next <;> cases hitem
  | approve | pause | resume | cancel => cases hitem
  | claim _ _ _ _ _ commits => exact .inr (item_of_claimOutbox commits hitem)
  | finish _ _ finished =>
    cases finished <;> exact .inl (List.mem_cons_of_mem _ hitem)

theorem taskSound_of_act (h : Act l q env db q' db') (hq : q.TaskSound db) : q'.TaskSound db' := by
  have hjobs := jobsStep_of_act h
  cases h with
  | outside =>
    cases q with
    | working item task =>
      have htask : TaskSound db item task := hq
      exact htask.mono hjobs
    | idle | items | sending | recording | marking => trivial
  | dispatch dispatch => cases dispatch <;> trivial
  | create _ _ _ _ _ next => cases next <;> trivial
  | approve | pause | resume | cancel | claim | finish => trivial
  | load _ _ _ kind read =>
    obtain ⟨j, hj, htenant, hid, -, hwork⟩ := getReplayJobWork_eq_ok read
    exact ⟨kind, j, hj, htenant, hid, hwork⟩
  | settle _ _ _ kind => exact kind
  | start item _ work =>
    have htask : TaskSound db item (.loaded work) := hq
    exact htask.mono hjobs
  | learn _ job => cases job <;> exact hq
  | snapshot item job todo =>
    have htask : TaskSound db item (.fanout job todo) := hq
    cases job <;> exact htask.mono hjobs
  | noop item work todo =>
    have htask : TaskSound db item (.fanout (some work) todo) := hq
    exact htask.mono hjobs
  | complete item work todo =>
    have htask : TaskSound db item (.fanout (some work) todo) := hq
    exact htask.1

/-! ## The rows a move leaves -/

/-- Every row of the outbox has the item of a row before, or is new. -/
theorem OutboxStep.of_mem (h : OutboxStep l q env q' db db') (ho' : o' ∈ db'.outbox) :
    (∃ o ∈ db.outbox, o'.item = o.item) ∨
      (o'.state = .pending ∧ (o'.kind = .replayJob → Backed db' o'.tenantID o'.resourceID)) := by
  cases h with
  | appended _ outbox pending backed =>
    rcases (Table.mem_append outbox).mp ho' with hold | hnew
    · exact .inl ⟨o', hold, rfl⟩
    · exact .inr ⟨pending o' hnew, backed o' hnew⟩
  | claimed _ _ workerID _ _ _ _ _ commits =>
    cases commits
    obtain ⟨o, ho, rfl⟩ := List.mem_map.mp ho'
    exact .inl ⟨o, ho, claimUpdate_item workerID env.now _ o⟩
  | finished _ _ _ _ commits =>
    cases commits
    obtain ⟨o, ho, rfl⟩ := List.mem_map.mp ho'
    refine .inl ⟨o, ho, ?_⟩
    split <;> rfl

/-- The job of the deliveries that a fanout creates. -/
theorem Takes.replayJobID (h : Takes item job todo req todo') : req.replayJobID = fanoutJob item job := by
  cases h with
  | target _ _ _ _ replay | original _ _ _ _ _ _ replay
  | existing _ _ _ _ _ _ replay =>
    exact replay

/-- Every delivery comes from one before, or is new and belongs to the fanout of the worker. -/
theorem DeliveriesStep.of_mem (h : DeliveriesStep l q env q' db db') (hd' : d' ∈ db'.deliveries) :
    (∃ d ∈ db.deliveries, SameDelivery d d') ∨
      ∃ item job todo rest, q = .working item (.fanout job todo) rest ∧
        d'.replayJobID = fanoutJob item job := by
  cases h with
  | created taken before _ takes =>
    rcases (Table.mem_of_rows_append taken.deliveries).mp hd' with hold | rfl
    · exact .inl ⟨d', hold, .refl d'⟩
    · exact .inr ⟨_, _, _, _, before, takes.replayJobID⟩
  | updated f rows same =>
    obtain ⟨d, hd, rfl⟩ := (Table.mem_map rows).mp hd'
    exact .inl ⟨d, hd, same d⟩

theorem sound_of_act (hI : ReplaysSound db) (hP : PhaseSound db q) (h : Act l q env db q' db') : ReplaysSound db' := by
  have hjobs := jobsStep_of_act h
  constructor
  case named =>
    intro j' hj'
    rcases hjobs.of_mem hj' with ⟨j, hj, hstep⟩ | ⟨_, _, _, _, rfl, -⟩
    · rw [hstep.same.id]
      exact hI.named j hj
    · exact env.mustID_ne_empty "rpl" 0
  case outbox =>
    intro o' ho' hkind
    rcases (outboxStep_of_act h).of_mem ho' with ⟨o, ho, hitem⟩ | ⟨-, hbacked⟩
    · have hkind' : o.kind = .replayJob := (congrArg OutboxItem.kind hitem).symm.trans hkind
      have hback := (hI.outbox o ho hkind').mono hjobs
      have htenant : o'.tenantID = o.tenantID := congrArg OutboxItem.tenantID hitem
      have hresource : o'.resourceID = o.resourceID := congrArg OutboxItem.resourceID hitem
      rwa [htenant, hresource]
    · exact hbacked hkind
  case deliveries =>
    intro d' hd' hjob
    rcases (deliveriesStep_of_act h).of_mem hd' with ⟨d, hd, hsame⟩ | ⟨item, job, todo, _, rfl, hreplay⟩
    · rw [hsame.replayJobID] at hjob ⊢
      obtain ⟨tenantID, hback⟩ := hI.deliveries d hd hjob
      exact ⟨tenantID, hback.mono hjobs⟩
    · cases job with
      | none => exact absurd hreplay hjob
      | some work =>
        have htask : TaskSound db item (.fanout (some work) todo) := hP.task
        rw [hreplay]
        exact ⟨item.tenantID, (hP.items item List.mem_cons_self htask.1).mono hjobs⟩
  case pending =>
    intro j' hj' hpending
    rcases hjobs.of_mem hj' with ⟨j, hj, hstep⟩ | ⟨_, _, _, _, rfl, -⟩
    · cases hstep with
      | keep => exact hI.pending _ hj hpending
      | change _ changes => cases changes <;> cases hpending
      | approve | start | complete => cases hpending
    · refine ⟨?_, rfl⟩
      by_contra hrequired
      rw [replayJobRow_state, if_neg hrequired] at hpending
      cases hpending
  case approved =>
    intro j' hj' happroved
    rcases hjobs.of_mem hj' with ⟨j, hj, hstep⟩ | ⟨_, _, _, _, rfl, -⟩
    · cases hstep with
      | approve _ approvable =>
        simp only [ReplayJob.approvable, Bool.and_eq_true, bne_iff_ne] at approvable
        exact approvable.1.1.1.2.symm
      | keep => exact hI.approved _ hj happroved
      | change | start | complete => exact hI.approved j hj happroved
    · cases happroved

theorem phaseSound_of_act (hI : ReplaysSound db) (hP : PhaseSound db q) (h : Act l q env db q' db') :
    PhaseSound db' q' where
  rows item hitem := by
    rcases outboxItems_of_act h hitem with hold | ⟨o, ho, rfl⟩
    · obtain ⟨_, ho, rfl⟩ := hP.rows item hold
      exact (outboxStep_of_act h).exists_item ho
    · exact (outboxStep_of_act h).exists_item ho
  items item hitem hkind := by
    apply Backed.mono _ (jobsStep_of_act h)
    rcases outboxItems_of_act h hitem with hold | ⟨o, ho, rfl⟩
    · exact hP.items item hold hkind
    · exact hI.outbox o ho hkind
  task := taskSound_of_act h hP.task

/-- Replays stay sound in every run. -/
theorem modular_sound : System.Modular machine (fun _ ↦ True) ReplaysSound (fun db _ q ↦ PhaseSound db q) :=
  modular_machine (fun _ _ _ ↦ .idle) (fun _ _ _ _ hsilent hP ↦ hP.silent hsilent)
    (fun _ _ _ _ _ _ hI hP _ h ↦ ⟨sound_of_act hI hP h, phaseSound_of_act hI hP h⟩)
    (fun _ _ _ _ _ _ _ _ _ h _ _ hP ↦ hP.mono h)

/-! ## Jobs that a worker has begun

The state of such a job stays within some states, as long as operators respect where they may change
it. -/

/-- The job and the state that an operator sets. -/
def Op.stateChange : Op → Option (String × ReplayState)
  | .pauseReplayJob _ jobID => some (jobID, .paused)
  | .resumeReplayJob _ jobID => some (jobID, .scheduled)
  | .cancelReplayJob _ jobID => some (jobID, .canceled)
  | _ => none

/-- Operators change the state of a job only from states where they may. -/
def Respects (may : ReplayState → ReplayState → Prop) (jobID : String) (e : Transition Op Env DB) : Prop :=
  match Op.stateChange e.label, e.kind with
  | some (id, new), .act _ => id = jobID → ∀ j ∈ e.before.replayJobs.rows, j.id = jobID → may j.state new
  | _, _ => True

instance (may : ReplayState → ReplayState → Prop) [DecidableRel may] (jobID : String)
    (e : Transition Op Env DB) : Decidable (Respects may jobID e) :=
  match hlabel : Op.stateChange e.label, hkind : e.kind with
  | some (id, new), .act _ =>
    decidable_of_iff (id = jobID → ∀ j ∈ e.before.replayJobs.rows, j.id = jobID → may j.state new)
      (by simp [Respects, hlabel, hkind])
  | some _, .start => .isTrue (by simp [Respects, hlabel, hkind])
  | some _, .crash => .isTrue (by simp [Respects, hlabel, hkind])
  | none, _ => .isTrue (by simp [Respects, hlabel])

theorem Respects.may_change (h : Respects may j.id ⟨l, .act env, db, db'⟩)
    (hchanges : ChangesState l tenantID j.id state) (hj : j ∈ db.replayJobs) : may j.state state := by
  cases hchanges <;> exact h rfl j hj rfl

/-- The worker creates the deliveries of the job or, when `settled` is set, found it settled. -/
def Phase.Begun (settled : Bool) (jobID : String) : Phase → Prop
  | .working item (.fanout (some _) _) _ => item.resourceID = jobID
  | .working item .settled _ => settled = true ∧ item.resourceID = jobID
  | _ => False

/-- A job that a worker has begun is in one of some states. -/
def BegunIn (good : ReplayState → Prop) (settled : Bool) (jobID : String) (db : DB) (q : Phase) : Prop :=
  q.Begun settled jobID → ∀ j ∈ db.replayJobs, j.id = jobID → good j.state

/-- States of a job that workers have begun, closed under what may happen to it. -/
structure GoodStates (may : ReplayState → ReplayState → Prop) (settled : Bool) (good : ReplayState → Prop) : Prop where
  running : good .running
  completed : good .completed
  canceled : settled = true → good .canceled
  begun : ∀ s, good s → s ≠ .pendingApproval ∧ s ≠ .scheduled
  change : ∀ old new, good old → new.mayBecome old = true → may old new → good new

section Begun

variable {may : ReplayState → ReplayState → Prop} {settled : Bool} {good : ReplayState → Prop}
  {jobID : String}

theorem Phase.Begun.silent (h : q₀.Begun settled jobID) (hsilent : Silent q q₀) : q.Begun settled jobID := by
  cases hsilent with
  | skip | drop | route => cases h
  | delivery _ job | done _ job =>
    cases job with
    | none => cases h
    | some => exact h

theorem exists_job_of_begun (hP : PhaseSound db q) (hbegun : q.Begun settled jobID) :
    ∃ j ∈ db.replayJobs, j.id = jobID := by
  obtain ⟨item, hitem, hkind, rfl⟩ : ∃ item ∈ q.outboxItems, item.kind = .replayJob ∧
      item.resourceID = jobID := by
    cases q with
    | working item task rest =>
      have htask : TaskSound db item task := hP.task
      cases task with
      | fanout job =>
        cases job with
        | none => exact hbegun.elim
        | some => exact ⟨item, List.mem_cons_self, htask.1, hbegun⟩
      | settled => exact ⟨item, List.mem_cons_self, htask, hbegun.2⟩
      | loaded => exact hbegun.elim
    | _ => exact hbegun.elim
  obtain ⟨j, hj, -, hid, -⟩ := hP.items item hitem hkind
  exact ⟨j, hj, hid⟩

theorem GoodStates.step (h : GoodStates may settled good) (hgood : good j.state)
    (hmay : Respects may j.id ⟨l, .act env, db, db'⟩) (hj : j ∈ db.replayJobs)
    (hstep : JobStep db db' l q env q' j j') : good j'.state := by
  cases hstep with
  | keep => exact hgood
  | approve _ approvable =>
    simp only [ReplayJob.approvable, Bool.and_eq_true, beq_iff_eq] at approvable
    exact absurd approvable.1.1.2 (h.begun _ hgood).1
  | change _ changes may' =>
    exact h.change _ _ hgood may' (hmay.may_change changes hj)
  | start _ _ _ _ _ scheduled => exact absurd scheduled (h.begun _ hgood).2
  | complete => exact h.completed

/-- A step of any thread keeps the states of jobs that another one has begun. -/
theorem BegunIn.keep (h : GoodStates may settled good) (hP : PhaseSound db q₁)
    (hbegun : BegunIn good settled jobID db q₁) (hmay : Respects may jobID ⟨l, .act env, db, db'⟩)
    (hact : Act l q env db q' db') : BegunIn good settled jobID db' q₁ := by
  intro hq j' hj' hid
  obtain ⟨j, hj, rfl⟩ := exists_job_of_begun hP hq
  have hstep := (jobsStep_of_act hact).step_of_id hj hj' hid
  exact h.step (hbegun hq j hj rfl) hmay hj hstep

/-- A worker that begins finds the job scheduled or settled. -/
theorem BegunIn.act (h : GoodStates may settled good) (hP : PhaseSound db q)
    (hbegun : BegunIn good settled jobID db q) (hmay : Respects may jobID ⟨l, .act env, db, db'⟩)
    (hact : Act l q env db q' db') : BegunIn good settled jobID db' q' := by
  have hstay (hq : q'.Begun settled jobID → q.Begun settled jobID) : BegunIn good settled jobID db' q' :=
    fun hq' ↦ hbegun.keep h hP hmay hact (hq hq')
  cases hact with
  | outside | noop => exact hstay id
  | dispatch dispatch => cases dispatch <;> exact nofun
  | create _ _ _ _ _ next => cases next <;> exact nofun
  | approve | pause | resume | cancel | claim | load | finish => exact nofun
  | settle _ _ _ _ read hsettled =>
    rintro ⟨hset, rfl⟩ j hj hid
    obtain ⟨j₁, hj₁, -, hid₁, hstate, -⟩ := getReplayJobWork_eq_ok read
    obtain rfl : j = j₁ := Table.eq_of_key_eq hj hj₁ (hid.trans hid₁.symm)
    rw [← hstate]
    rcases hsettled with hwork | hwork | hwork
    · exact hwork ▸ h.running
    · exact hwork ▸ h.completed
    · exact hwork ▸ h.canceled hset
  | start item _ _ commits =>
    rintro rfl _ hj' hid
    obtain ⟨hany, rfl⟩ := Prod.mk.inj (Except.ok.inj commits)
    obtain ⟨j, hj, hguard⟩ := List.any_eq_true.mp hany
    obtain ⟨j₁, hj₁, rfl⟩ := List.mem_map.mp hj'
    -- the job that was scheduled is the only one with the identifier
    obtain rfl : j₁ = j := by
      have hid₁ : j₁.id = item.resourceID := by
        split at hid
        · exact hid
        · exact hid
      simp only [Bool.and_eq_true, beq_iff_eq] at hguard
      exact Table.eq_of_key_eq hj₁ hj (hid₁.trans hguard.1.2.symm)
    rw [if_pos hguard]
    exact h.running
  | learn _ job | snapshot _ job =>
    apply hstay
    cases job with
    | none => exact nofun
    | some => exact id
  | complete =>
    apply hstay
    rintro ⟨-, hjob⟩
    exact hjob

/-- A worker and the job it has begun. -/
structure WorkerSound (good : ReplayState → Prop) (settled : Bool) (jobID : String) (db : DB) (q : Phase) : Prop where
  phase : PhaseSound db q
  begun : BegunIn good settled jobID db q

theorem WorkerSound.idle : WorkerSound good settled jobID db .idle := ⟨.idle, nofun⟩

theorem WorkerSound.silent (hP : WorkerSound good settled jobID db q)
    (hsilent : Silent q q₀) : WorkerSound good settled jobID db q₀ :=
  ⟨hP.phase.silent hsilent, fun hq ↦ hP.begun (hq.silent hsilent)⟩

theorem WorkerSound.act (h : GoodStates may settled good) (hI : ReplaysSound db)
    (hP : WorkerSound good settled jobID db q) (hmay : Respects may jobID ⟨l, .act env, db, db'⟩)
    (hact : Act l q env db q' db') : WorkerSound good settled jobID db' q' :=
  ⟨phaseSound_of_act hI hP.phase hact, hP.begun.act h hP.phase hmay hact⟩

theorem WorkerSound.keep (h : GoodStates may settled good)
    (hP : WorkerSound good settled jobID db q₁) (hmay : Respects may jobID ⟨l, .act env, db, db'⟩)
    (hact : Act l q env db q' db') : WorkerSound good settled jobID db' q₁ :=
  ⟨hP.phase.mono hact, hP.begun.keep h hP.phase hmay hact⟩

end Begun

end Webhookery.Machine
