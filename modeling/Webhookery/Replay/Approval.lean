import Webhookery.Machine.Replays
import Webhookery.Concurrency.Execution
import Webhookery.Delivery.ExactlyOnce

/-!
# Approval of replay jobs

A job that needs approval creates deliveries only after somebody else than its creator approved it in
time, in every order of the operations: workers start from the outbox, and only the approval puts such
a job there. The state column is not that reliable. A job that waits for approval can be paused, and
resuming it schedules it without approval and without an outbox row.
-/

namespace Webhookery.Replay

open Go Store App Relational Concurrency Machine Webhookery.Delivery

variable {events : List (Transition Op Env DB)} {e : Transition Op Env DB} {j j' : ReplayJob}

/-! ## Deliveries come after the approval -/

/-- The step approves the job, in time and not by its creator. -/
def Approves (j : ReplayJob) (e : Transition Op Env DB) : Prop :=
  ∃ actorID env, e.label = .approveReplayJob j.tenantID j.id actorID ∧ e.kind = .act env ∧
    approveReplayJob j.tenantID j.id actorID env e.before = .ok ((), e.after) ∧
    actorID ≠ j.createdBy ∧ ∃ expires, j.approvalExpiresAt = some expires ∧ env.now < expires

/-- The job was approved in a run, when it had no deliveries yet. -/
def ApprovedIn (events : List (Transition Op Env DB)) (j : ReplayJob) : Prop :=
  ∃ before e after, events = before ++ e :: after ∧ Approves j e ∧
    ∀ d ∈ e.after.deliveries, d.replayJobID ≠ j.id

theorem ApprovedIn.append (h : ApprovedIn events j) (e : Transition Op Env DB) : ApprovedIn (events ++ [e]) j := by
  obtain ⟨before, e', after, rfl, happroves, hnone⟩ := h
  exact ⟨before, e', after ++ [e], by simp, happroves, hnone⟩

theorem ApprovedIn.of_same (h : ApprovedIn events j) (hsame : SameJob j j') : ApprovedIn events j' := by
  obtain ⟨before, e, after, hevents, _, _⟩ := h
  refine ⟨before, e, after, hevents, ?_, ?_⟩
  · rwa [Approves, hsame.tenantID, hsame.id, hsame.createdBy, hsame.approvalExpiresAt]
  · rwa [hsame.id]

/-- While a job waits for approval it has no deliveries. -/
theorem no_delivery_of_pending {db : DB} (hdb : ReplaysSound db) (hj : j ∈ db.replayJobs)
    (hpending : j.state = .pendingApproval) {d : Delivery} (hd : d ∈ db.deliveries) :
    d.replayJobID ≠ j.id := by
  intro hjob
  have hnamed : d.replayJobID ≠ "" := hjob ▸ hdb.named j hj
  obtain ⟨_, j', hj', -, hid, happroved⟩ := hdb.deliveries d hd hnamed
  obtain rfl : j' = j := Table.eq_of_key_eq hj' hj (hid.trans hjob)
  obtain ⟨hrequired, hnone⟩ := hdb.pending j' hj hpending
  have hsome := happroved hrequired
  rw [hnone] at hsome
  cases hsome

theorem approvedIn_of_run {c : Threads Op DB Phase} (hrun : machine.Run NoReplays events c)
    (hj : j ∈ c.state.replayJobs) (happroved : j.approvedAt.isSome = true) : ApprovedIn events j := by
  induction hrun generalizing j with
  | nil s init => exact absurd hj (Table.not_mem_of_rows_eq_nil init.replayJobs)
  | @snoc events c c' e run step ih =>
    have hmeets := modular_sound.run (fun _ h ↦ h.sound) run fun _ _ ↦ trivial
    rcases act_of_step (fun _ _ _ _ h hP ↦ hP.silent h) hmeets step with
      hsame | ⟨l, q, env, q', -, rfl, hact⟩
    · rw [hsame] at hj
      exact (ih hj happroved).append e
    · rcases (jobsStep_of_act hact).of_mem hj with ⟨j₀, hj₀, hstep⟩ | ⟨_, _, _, _, rfl, -⟩
      · have hsame := hstep.same
        cases hstep with
        | approve actorID approvable commits =>
          refine ⟨events, _, [], rfl, ⟨actorID, env, rfl, rfl, commits, ?_⟩, fun d hd ↦ ?_⟩
          · simp only [ReplayJob.approvable, Bool.and_eq_true, bne_iff_ne, Option.any_eq_true,
              decide_eq_true_eq] at approvable
            exact ⟨approvable.1.1.1.2.symm, approvable.2⟩
          · -- the approval leaves the deliveries alone
            obtain ⟨-, _, _, -, -, hdb⟩ := approveReplayJob_eq_ok commits
            have hd' : d ∈ c.state.deliveries := by
              rw [show c'.state = _ from hdb] at hd
              exact hd
            have hpending : j₀.state = .pendingApproval := by
              simp only [ReplayJob.approvable, Bool.and_eq_true, beq_iff_eq] at approvable
              exact approvable.1.1.2
            exact no_delivery_of_pending hmeets.state hj₀ hpending hd'
        | keep => exact (ih hj₀ happroved).append _
        | change | start | complete => exact ((ih hj₀ happroved).append _).of_same hsame
      · cases happroved

/-- Jobs stay, with what they were created with. -/
theorem exists_sameJob_of_path (hpath : machine.Path c events c')
    (hj : j ∈ c.state.replayJobs) : ∃ j' ∈ c'.state.replayJobs, SameJob j j' := by
  induction hpath with
  | nil => exact ⟨j, hj, .refl j⟩
  | snoc _ step ih =>
    obtain ⟨j₁, hj₁, hsame₁⟩ := ih
    rcases exists_act_of_step step with heq | ⟨l, _, q, _, _, -, -, -, hact⟩
    · exact ⟨j₁, heq ▸ hj₁, hsame₁⟩
    · obtain ⟨j₂, hj₂, hstep⟩ := (jobsStep_of_act hact).exists_step hj₁
      have hsame₂ := hstep.same
      exact ⟨j₂, hj₂, hsame₂.id.trans hsame₁.id, hsame₂.tenantID.trans hsame₁.tenantID,
        hsame₂.request.trans hsame₁.request, hsame₂.createdBy.trans hsame₁.createdBy,
        hsame₂.configMode.trans hsame₁.configMode,
        hsame₂.approvalRequired.trans hsame₁.approvalRequired,
        hsame₂.approvalExpiresAt.trans hsame₁.approvalExpiresAt⟩

/-- A delivery of a job that needs approval was created after the approval. The job is taken as it was
after any step of the run, that of its creation included. -/
theorem delivered_after_approval {c : Threads Op DB (Work Unit)}
    (hrun : App.system.Run NoReplays events c) {created : Transition Op Env DB}
    (hcreated : created ∈ events) (hj : j ∈ created.after.replayJobs)
    (hrequired : j.approvalRequired = true) {d : Delivery} (hd : d ∈ c.state.deliveries)
    (hjob : d.replayJobID = j.id) : ApprovedIn events j := by
  obtain ⟨_, hmachine, -⟩ := Machine.simulation.run hrun
  have hmeets := modular_sound.run (fun _ h ↦ h.sound) hmachine fun _ _ ↦ trivial
  -- the job as it is now
  obtain ⟨_, _, rfl⟩ := List.append_of_mem hcreated
  obtain ⟨_, _, -, hstep, hpath⟩ := hmachine.split
  rw [hstep.after_eq] at hj
  obtain ⟨j', hj', hsame⟩ := exists_sameJob_of_path hpath hj
  -- its delivery was created for a job that was approved
  have hnamed : d.replayJobID ≠ "" := by
    rw [hjob, ← hsame.id]
    exact hmeets.state.named j' hj'
  obtain ⟨_, j₁, hj₁, -, hid, happroved⟩ := hmeets.state.deliveries d hd hnamed
  obtain rfl : j₁ = j' := Table.eq_of_key_eq hj₁ hj' (hid.trans (hjob.trans hsame.id.symm))
  have hsome := happroved (hsame.approvalRequired.trans hrequired)
  have hback : SameJob j₁ j := ⟨hsame.id.symm, hsame.tenantID.symm, hsame.request.symm,
    hsame.createdBy.symm, hsame.configMode.symm, hsame.approvalRequired.symm,
    hsame.approvalExpiresAt.symm⟩
  exact (approvedIn_of_run hmachine hj' hsome).of_same hback

/-! ### A replay that was approved -/

/-- A replay of one event that asks for approval. -/
def guardedReplay : ReplayRequest where
  eventID := "evt_1"
  deliveryID := ""
  endpointID := ""
  reasonCode := ""
  reason := ""
  configMode := none
  rateLimitPerMinute := 0
  requireApproval := true
  approvalExpiresAt := none

/-- The same replay without approval. -/
def freeReplay : ReplayRequest := { guardedReplay with requireApproval := false }

/-- Alice asks for a replay. -/
def askedScript (req : ReplayRequest) : List (Command Op Env) :=
  [.start (.createReplay "t" "alice" req), .go 0 20 (fun _ ↦ shopEnv 1)]

theorem noReplays_shopConfigured : NoReplays shopConfigured where
  replayJobs := by decide +kernel
  replayItems := by decide +kernel
  outbox := by decide +kernel
  deliveries := by decide +kernel

/-- Alice asks for the replay, Bob approves it and a worker runs it. -/
def approvedRun : AppRun := runScript
  (askedScript guardedReplay ++ [.start (.approveReplayJob "t" "rpl_1" "bob"), .go 1 1 (fun _ ↦ shopEnv 2),
    .start (shopWorker "worker"), .go 2 40 (shopFrom 10)]) shopConfigured

theorem run_approvedRun : App.system.Run NoReplays approvedRun.1 approvedRun.2 :=
  run_runScript noReplays_shopConfigured

/-- The replay needs approval, gets it and then creates its deliveries. -/
theorem guarded_replay_approved :
    App.system.Run NoReplays approvedRun.1 approvedRun.2 ∧
      ∃ d ∈ approvedRun.2.state.deliveries, ∃ j : ReplayJob, d.replayJobID = j.id ∧
        j.approvalRequired = true ∧ ApprovedIn approvedRun.1 j := by
  obtain ⟨_, he, j, hj, hjob, hrequired⟩ : ∃ e ∈ approvedRun.1, ∃ j ∈ e.after.replayJobs,
      j.id = "rpl_1" ∧ j.approvalRequired = true := by decide +kernel
  obtain ⟨d, hd, hdelivery⟩ : ∃ d ∈ approvedRun.2.state.deliveries, d.replayJobID = "rpl_1" := by decide +kernel
  have hid : d.replayJobID = j.id := hdelivery.trans hjob.symm
  exact ⟨run_approvedRun, d, hd, j, hid, hrequired,
    delivered_after_approval run_approvedRun he hj hrequired hd hid⟩

/-! ## Jobs that are scheduled -/

/-- A row of the outbox that a worker will pick up. -/
def OpenRow (db : DB) (j : ReplayJob) : Prop :=
  ∃ o ∈ db.outbox, o.kind = .replayJob ∧ o.tenantID = j.tenantID ∧ o.resourceID = j.id ∧
    o.state ≠ .completed

/-- A job is not paused while it waits for approval or runs, and not resumed while it runs. -/
def mayChange (old new : ReplayState) : Prop :=
  new = .canceled ∨ old ≠ .running ∧ (new = .paused → old ≠ .pendingApproval)

instance : DecidableRel mayChange := fun _ _ ↦ inferInstanceAs (Decidable (_ ∨ _))

theorem goodStates_mayChange : GoodStates mayChange true (fun s ↦ s = .running ∨ s = .completed ∨ s = .canceled) where
  running := .inl rfl
  completed := .inr (.inl rfl)
  canceled _ := .inr (.inr rfl)
  begun s hs := by
    rcases hs with rfl | rfl | rfl <;> simp
  change old new hold hmay hchange := by
    rcases hchange with rfl | ⟨hrunning, -⟩
    · exact .inr (.inr rfl)
    · rcases hold with rfl | rfl | rfl
      · exact absurd rfl hrunning
      · cases hmay
      · cases hmay

/-- What holds of a job that operators treat that way. -/
structure InOrder (jobID : String) (db : DB) : Prop where
  approved : ∀ j ∈ db.replayJobs, j.id = jobID → j.state ≠ .pendingApproval → j.state ≠ .canceled →
    j.approvalRequired = true → j.approvedAt.isSome = true
  queued : ∀ j ∈ db.replayJobs, j.id = jobID → j.state = .scheduled ∨ j.state = .paused → OpenRow db j

variable {l : Op} {q q' : Phase} {env : Env} {db db' : DB} {jobID : String}

/-- An open row stays open unless its own job is settled. -/
theorem OpenRow.step (h : OpenRow db j) (hP : PhaseSound db q)
    (hsettled : q.Begun true j.id → False) (hact : Act l q env db q' db') : OpenRow db' j := by
  obtain ⟨o, ho, hkind, htenant, hresource, hopen⟩ := h
  cases outboxStep_of_act hact with
  | appended _ outbox =>
    refine ⟨o, ?_, hkind, htenant, hresource, hopen⟩
    exact (Table.mem_append outbox).mpr (.inl ho)
  | claimed _ _ workerID limit _ _ _ _ commits =>
    cases commits
    have hitem := claimUpdate_item workerID env.now
      ((claimedRows env.now (if limit ≤ 0 then 10 else limit.toNat)
        (db.outbox.rows.map (OutboxRow.released env.now))).map OutboxRow.id) o
    refine ⟨_, List.mem_map_of_mem ho, ?_, ?_, ?_, claimUpdate_not_completed hopen⟩
    · exact (congrArg OutboxItem.kind hitem).trans hkind
    · exact (congrArg OutboxItem.tenantID hitem).trans htenant
    · exact (congrArg OutboxItem.resourceID hitem).trans hresource
  | finished item _ before _ commits =>
    cases commits
    by_cases hid : o.id = item.id
    case neg => exact ⟨_, List.mem_map_of_mem ho, by rwa [if_neg hid], by rwa [if_neg hid],
      by rwa [if_neg hid], by rwa [if_neg hid]⟩
    case pos =>
      -- the row is that of the item, so that its job is settled
      have hitem : item ∈ q.outboxItems := by cases before <;> exact List.mem_cons_self
      obtain ⟨o₁, ho₁, rfl⟩ := hP.rows item hitem
      obtain rfl : o = o₁ := Table.eq_of_key_eq ho ho₁ hid
      cases before with
      | settled => exact absurd ⟨rfl, hresource⟩ hsettled
      | routed =>
        have htask : OutboxKind.routes o.kind = true := hP.task
        rw [hkind] at htask
        cases htask
      | other kind => exact absurd hkind kind

theorem OpenRow.of_same (h : OpenRow db j) (hsame : SameJob j j') : OpenRow db j' := by
  rwa [OpenRow, hsame.tenantID, hsame.id]

theorem inOrder_of_act (hI : InOrder jobID db) (hP : PhaseSound db q)
    (hbegun : BegunIn (fun s ↦ s = .running ∨ s = .completed ∨ s = .canceled) true jobID db q)
    (hmay : Respects mayChange jobID ⟨l, .act env, db, db'⟩) (hact : Act l q env db q' db') :
    InOrder jobID db' := by
  have hjobs := jobsStep_of_act hact
  constructor
  case approved =>
    intro j' hj' hid hpending hcanceled hrequired
    rcases hjobs.of_mem hj' with ⟨j, hj, hstep⟩ | ⟨_, _, _, _, rfl, -⟩
    · have hsame := hstep.same
      have hid₀ : j.id = jobID := hsame.id.symm.trans hid
      have hrequired₀ : j.approvalRequired = true := hsame.approvalRequired.symm.trans hrequired
      cases hstep with
      | keep => exact hI.approved _ hj hid hpending hcanceled hrequired
      | approve => rfl
      | change state changes may =>
        subst hid₀
        apply hI.approved j hj rfl _ _ hrequired₀
        · rcases hmay.may_change changes hj with rfl | ⟨-, hpaused⟩
          · exact absurd rfl hcanceled
          · intro hold
            cases changes with
            | pause => exact hpaused rfl hold
            | resume => rw [hold] at may; cases may
            | cancel => exact absurd rfl hcanceled
        · intro hold
          rw [hold] at may
          cases state <;> cases may
      | start _ _ _ _ _ scheduled =>
        exact hI.approved j hj hid₀ (by simp [scheduled]) (by simp [scheduled]) hrequired₀
      | complete _ _ _ _ _ _ job notCanceled =>
        have hgood := hbegun (job.symm.trans hid₀) j hj hid₀
        refine hI.approved j hj hid₀ (fun h ↦ ?_) notCanceled hrequired₀
        rw [h] at hgood
        simp at hgood
    · rw [replayJobRow_state, if_pos hrequired] at hpending
      exact absurd rfl hpending
  case queued =>
    intro j' hj' hid hstate
    rcases hjobs.of_mem hj' with ⟨j, hj, hstep⟩ | ⟨_, _, req, _, rfl, hqueued⟩
    · have hsame := hstep.same
      have hid₀ : j.id = jobID := hsame.id.symm.trans hid
      -- a job that was scheduled or paused before keeps its row
      have hkeep (hold : j.state = .scheduled ∨ j.state = .paused) : OpenRow db' j' := by
        refine OpenRow.of_same (OpenRow.step (hI.queued j hj hid₀ hold) hP (fun hq ↦ ?_) hact) hsame
        rw [hid₀] at hq
        rcases hbegun hq j hj hid₀ with h | h | h <;> rw [h] at hold <;> simp at hold
      cases hstep with
      | keep => exact hkeep hstate
      | approve _ _ commits =>
        obtain ⟨-, _, _, -, houtbox, rfl⟩ := approveReplayJob_eq_ok commits
        refine ⟨outboxRow env j.tenantID .replayJob j.id, ?_, rfl, rfl, rfl, nofun⟩
        exact (Table.mem_of_rows_append houtbox).mpr (.inr rfl)
      | change _ changes =>
        apply hkeep
        subst hid₀
        have hallowed := hmay.may_change changes hj
        cases changes with
        | pause | resume =>
          cases hold : j.state <;> simp_all [mayChange, ReplayState.mayBecome]
        | cancel => simp at hstate
      | start | complete => simp at hstate
    · have hfree : req.requireApproval = false := by
        by_contra hrequired
        rw [replayJobRow_state, if_pos (Bool.not_eq_false _ ▸ hrequired)] at hstate
        simp at hstate
      obtain ⟨o, ho, hitem, hpending⟩ := hqueued hfree
      exact ⟨o, ho, congrArg OutboxItem.kind hitem, congrArg OutboxItem.tenantID hitem,
        congrArg OutboxItem.resourceID hitem, by simp [hpending]⟩

theorem modular_inOrder : System.Modular machine (Respects mayChange jobID)
    (fun db ↦ ReplaysSound db ∧ InOrder jobID db)
    (fun db _ q ↦ WorkerSound (fun s ↦ s = .running ∨ s = .completed ∨ s = .canceled) true jobID db q) :=
  modular_machine (fun _ _ _ ↦ .idle) (fun _ _ _ _ hsilent hP ↦ hP.silent hsilent)
    (fun _ _ _ _ _ _ hI hP hmay hact ↦
      ⟨⟨sound_of_act hI.1 hP.phase hact, inOrder_of_act hI.2 hP.phase hP.begun hmay hact⟩,
        hP.act goodStates_mayChange hI.1 hmay hact⟩)
    (fun _ _ _ _ _ _ _ _ hmay hact _ _ hP ↦ hP.keep goodStates_mayChange hmay hact)

/-- In a run in which a job is neither paused while it waits for approval or runs, nor resumed while it
runs: when it needs approval and is scheduled, running or completed, somebody else than its creator
approved it, and when it is scheduled it has an outbox row that is not completed. -/
theorem approved_and_queued {c : Threads Op DB (Work Unit)} (hrun : App.system.Run NoReplays events c)
    (hmay : ∀ e ∈ events, Respects mayChange jobID e) (hj : j ∈ c.state.replayJobs) (hid : j.id = jobID) :
    (j.approvalRequired = true → j.state = .scheduled ∨ j.state = .running ∨ j.state = .completed →
        j.approvedAt.isSome = true ∧ j.approvedBy ≠ j.createdBy) ∧
      (j.state = .scheduled → OpenRow c.state j) := by
  obtain ⟨_, hmachine, -⟩ := Machine.simulation.run hrun
  have hinit (db : DB) (h : NoReplays db) : ReplaysSound db ∧ InOrder jobID db := by
    refine ⟨h.sound, fun j hj ↦ ?_, fun j hj ↦ ?_⟩ <;>
      exact absurd hj (Table.not_mem_of_rows_eq_nil h.replayJobs)
  have hmeets := modular_inOrder.run hinit hmachine hmay
  obtain ⟨hsound, horder⟩ := hmeets.state
  refine ⟨fun hrequired hstate ↦ ?_, fun hscheduled ↦ horder.queued j hj hid (.inl hscheduled)⟩
  have hsome : j.approvedAt.isSome = true := by
    apply horder.approved j hj hid _ _ hrequired <;>
      rcases hstate with h | h | h <;> simp [h]
  exact ⟨hsome, hsound.approved j hj hsome⟩

/-! ### Pausing a job that waits for approval -/

/-- Alice asks for the replay, and the job is paused and resumed without any approval. -/
def resumedRun : AppRun := runScript
  (askedScript guardedReplay ++ [.start (.pauseReplayJob "t" "rpl_1"), .go 1 1 (fun _ ↦ shopEnv 2),
    .start (.resumeReplayJob "t" "rpl_1"), .go 2 1 (fun _ ↦ shopEnv 3)]) shopConfigured

/-- The job is scheduled although nobody approved it, and no worker will ever pick it up. -/
theorem scheduled_without_approval :
    App.system.Run NoReplays resumedRun.1 resumedRun.2 ∧
      ∃ j ∈ resumedRun.2.state.replayJobs, j.approvalRequired = true ∧ j.state = .scheduled ∧
        j.approvedAt = none ∧ j.approvedBy = "" ∧
        ∀ o ∈ resumedRun.2.state.outbox, o.kind ≠ .replayJob :=
  ⟨run_runScript noReplays_shopConfigured, by decide +kernel⟩

/-- A replay that needs no approval is paused and resumed before a worker starts it. -/
def orderlyRun : AppRun := runScript
  (askedScript freeReplay ++ [.start (.pauseReplayJob "t" "rpl_1"), .go 1 1 (fun _ ↦ shopEnv 2),
    .start (.resumeReplayJob "t" "rpl_1"), .go 2 1 (fun _ ↦ shopEnv 3)]) shopConfigured

theorem orderly_replay_queued :
    (∀ e ∈ orderlyRun.1, Respects mayChange "rpl_1" e) ∧
      ∃ j ∈ orderlyRun.2.state.replayJobs, j.state = .scheduled ∧ OpenRow orderlyRun.2.state j := by
  have hrun : App.system.Run NoReplays orderlyRun.1 orderlyRun.2 :=
    run_runScript noReplays_shopConfigured
  have hmay : ∀ e ∈ orderlyRun.1, Respects mayChange "rpl_1" e := by decide +kernel
  obtain ⟨j, hj, hid, hscheduled⟩ : ∃ j ∈ orderlyRun.2.state.replayJobs, j.id = "rpl_1" ∧ j.state = .scheduled := by
    decide +kernel
  exact ⟨hmay, j, hj, hscheduled, (approved_and_queued hrun hmay hj hid).2 hscheduled⟩

end Webhookery.Replay
