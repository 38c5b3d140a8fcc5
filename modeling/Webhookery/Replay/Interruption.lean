import Webhookery.Replay.Approval

/-!
# Pausing and canceling replay jobs

The worker reads the state of a job once and then creates its deliveries one transaction at a time, so
that an operator who pauses or cancels a running job does not stop it: the deliveries go on, and the
worker completes a job that was paused. As long as operators leave running jobs alone, a job that was
paused or canceled creates nothing until it is resumed.
-/

namespace Webhookery.Replay

open Go Store App Relational Concurrency Machine Webhookery.Delivery

variable {events : List (Transition Op Env DB)} {e : Transition Op Env DB} {j j' : ReplayJob}
  {l : Op} {q q' : Phase} {env : Env} {db db' : DB} {jobID : String} {c c' : Threads Op DB Phase}

/-- An operator leaves the job alone while it runs. -/
def notRunning (old _new : ReplayState) : Prop := old ≠ .running

instance : DecidableRel notRunning := fun _ _ ↦ inferInstanceAs (Decidable (_ ≠ _))

/-- A job whose deliveries are being created runs or is completed. -/
theorem goodStates_notRunning : GoodStates notRunning false (fun s ↦ s = .running ∨ s = .completed) where
  running := .inl rfl
  completed := .inr rfl
  canceled := nofun
  begun s hs := by
    rcases hs with rfl | rfl <;> simp
  change old new hold hmay hrunning := by
    rcases hold with rfl | rfl
    · exact absurd rfl hrunning
    · cases hmay

/-- The worker of a fanout holds the job it creates deliveries for. -/
abbrev FanoutSound (jobID : String) : DB → Phase → Prop :=
  WorkerSound (fun s ↦ s = .running ∨ s = .completed) false jobID

/-! ## The steps of a job -/

/-- A pause or a cancellation of the job that committed. -/
def Interrupts (jobID : String) (e : Transition Op Env DB) : Prop :=
  ∃ tenantID, e.label = .pauseReplayJob tenantID jobID ∧
      pauseReplayJob tenantID jobID e.before = .ok ((), e.after) ∨
    e.label = .cancelReplayJob tenantID jobID ∧
      cancelReplayJob tenantID jobID e.before = .ok ((), e.after)

/-- A resumption of the job that committed. -/
def Resumes (jobID : String) (e : Transition Op Env DB) : Prop :=
  ∃ tenantID, e.label = .resumeReplayJob tenantID jobID ∧
    resumeReplayJob tenantID jobID e.before = .ok ((), e.after)

/-- The job was paused or canceled. -/
def Interrupted (jobID : String) (db : DB) : Prop :=
  ∃ j ∈ db.replayJobs, j.id = jobID ∧ (j.state = .paused ∨ j.state = .canceled)

theorem interrupted_of_updateReplayState (hstate : state = .paused ∨ state = .canceled)
    (h : updateReplayState tenantID jobID state db = .ok ((), db')) : Interrupted jobID db' := by
  obtain ⟨⟨j, hj, htenant, hid, hmay⟩, jobs, hrows, rfl⟩ := updateReplayState_eq_ok h
  have hguard : (j.tenantID == tenantID && j.id == jobID && state.mayBecome j.state) = true := by
    simp [htenant, hid, hmay]
  have hj' : { j with state } ∈ jobs := by
    rw [Table.mem_def, hrows]
    exact List.mem_map.mpr ⟨j, hj, if_pos hguard⟩
  exact ⟨_, hj', hid, hstate⟩

theorem Interrupts.interrupted (h : Interrupts jobID e) : Interrupted jobID e.after := by
  obtain ⟨_, ⟨-, hcommit⟩ | ⟨-, hcommit⟩⟩ := h
  · exact interrupted_of_updateReplayState (.inl rfl) hcommit
  · exact interrupted_of_updateReplayState (.inr rfl) hcommit

/-- No worker creates deliveries of an interrupted job. -/
theorem Interrupted.not_begun (h : Interrupted jobID db) (hP : FanoutSound jobID db q) : ¬q.Begun false jobID := by
  intro hq
  obtain ⟨j, hj, hid, hstate⟩ := h
  rcases hP.begun hq j hj hid with hgood | hgood <;> rw [hgood] at hstate <;> simp at hstate

/-- Only a resumption ends the interruption. -/
theorem Interrupted.step (h : Interrupted jobID db) (hP : FanoutSound jobID db q)
    (hresume : ¬Resumes jobID ⟨l, .act env, db, db'⟩) (hact : Act l q env db q' db') :
    Interrupted jobID db' := by
  have hbegun := h.not_begun hP
  obtain ⟨_, hj, rfl, hstate⟩ := h
  obtain ⟨j', hj', hstep⟩ := (jobsStep_of_act hact).exists_step hj
  refine ⟨j', hj', hstep.same.id, ?_⟩
  cases hstep with
  | keep => exact hstate
  | approve _ approvable =>
    simp only [ReplayJob.approvable, Bool.and_eq_true, beq_iff_eq] at approvable
    rw [approvable.1.1.2] at hstate
    simp at hstate
  | change _ changes _ commits =>
    cases changes with
    | pause => exact .inl rfl
    | resume => exact absurd ⟨_, rfl, commits⟩ hresume
    | cancel => exact .inr rfl
  | start _ _ _ _ _ scheduled =>
    rw [scheduled] at hstate
    simp at hstate
  | complete _ _ _ _ _ _ job => exact absurd job.symm hbegun

theorem modular_interrupted : System.Modular machine (fun e ↦ Respects notRunning jobID e ∧ ¬Resumes jobID e)
    (fun db ↦ ReplaysSound db ∧ Interrupted jobID db) (fun db _ q ↦ FanoutSound jobID db q) :=
  modular_machine (fun _ _ _ ↦ .idle) (fun _ _ _ _ hsilent hP ↦ hP.silent hsilent)
    (fun _ _ _ _ _ _ hI hP hallowed hact ↦
      ⟨⟨sound_of_act hI.1 hP.phase hact, hI.2.step hP hallowed.2 hact⟩,
        hP.act goodStates_notRunning hI.1 hallowed.1 hact⟩)
    (fun _ _ _ _ _ _ _ _ hallowed hact _ _ hP ↦ hP.keep goodStates_notRunning hallowed.1 hact)

theorem modular_fanout : System.Modular machine (Respects notRunning jobID) ReplaysSound
    (fun db _ q ↦ FanoutSound jobID db q) :=
  modular_machine (fun _ _ _ ↦ .idle) (fun _ _ _ _ hsilent hP ↦ hP.silent hsilent)
    (fun _ _ _ _ _ _ hI hP hmay hact ↦
      ⟨sound_of_act hI hP.phase hact, hP.act goodStates_notRunning hI hmay hact⟩)
    (fun _ _ _ _ _ _ _ _ hmay hact _ _ hP ↦ hP.keep goodStates_notRunning hmay hact)

/-! ## Runs -/

/-- An interrupted job gets no new delivery. -/
theorem no_delivery_of_interrupted (hmeets : System.Meets (fun db ↦ ReplaysSound db ∧ Interrupted jobID db)
      (fun db _ q ↦ FanoutSound jobID db q) c) (hstep : machine.Step c e c')
    (hd : d ∈ c'.state.deliveries) (hjob : d.replayJobID = jobID) :
    ∃ d₀ ∈ c.state.deliveries, d₀.id = d.id := by
  rcases act_of_step (fun _ _ _ _ h hP ↦ hP.silent h) hmeets hstep with
    heq | ⟨l, q, env, q', hP, -, hact⟩
  · exact ⟨d, heq ▸ hd, rfl⟩
  · rcases (deliveriesStep_of_act hact).of_mem hd with ⟨d₀, hd₀, hsame⟩ | ⟨_, job, _, _, rfl, hreplay⟩
    · exact ⟨d₀, hd₀, hsame.id.symm⟩
    · cases job with
      | none =>
        obtain ⟨j, hj, hid, -⟩ := hmeets.state.2
        exact absurd (hid.trans (hjob.symm.trans hreplay)) (hmeets.state.1.named j hj)
      | some => exact absurd (hreplay.symm.trans hjob) (hmeets.state.2.not_begun hP)

/-- Completed and canceled jobs stay so. -/
theorem final_of_step (hstep : machine.Step c e c')
    (hj : j ∈ c.state.replayJobs) (hfinal : j.state = .completed ∨ j.state = .canceled)
    (hj' : j' ∈ c'.state.replayJobs) (hid : j'.id = j.id) : j'.state = j.state := by
  rcases exists_act_of_step hstep with heq | ⟨l, _, q, _, _, -, -, -, hact⟩
  · rw [heq] at hj'
    rw [Table.eq_of_key_eq hj' hj hid]
  · cases (jobsStep_of_act hact).step_of_id hj hj' hid with
    | keep => rfl
    | approve _ approvable =>
      simp only [ReplayJob.approvable, Bool.and_eq_true, beq_iff_eq] at approvable
      rw [approvable.1.1.2] at hfinal
      simp at hfinal
    | change state _ may =>
      rcases hfinal with h | h <;> rw [h] at may <;> cases state <;> cases may
    | start _ _ _ _ _ scheduled =>
      rw [scheduled] at hfinal
      simp at hfinal
    | complete _ _ _ _ _ _ _ notCanceled =>
      exact (hfinal.resolve_right notCanceled).symm

/-- A paused job is only resumed or canceled. -/
theorem paused_of_step (hmeets : System.Meets ReplaysSound (fun db _ q ↦ FanoutSound j.id db q) c)
    (hstep : machine.Step c e c') (hj : j ∈ c.state.replayJobs) (hpaused : j.state = .paused)
    (hj' : j' ∈ c'.state.replayJobs) (hid : j'.id = j.id) (hleft : j'.state ≠ .paused) :
    ∃ tenantID, e.label = .resumeReplayJob tenantID j.id ∨ e.label = .cancelReplayJob tenantID j.id := by
  rcases act_of_step (fun _ _ _ _ h hP ↦ hP.silent h) hmeets hstep with
    heq | ⟨l, q, env, q', hP, rfl, hact⟩
  · rw [heq] at hj'
    obtain rfl := Table.eq_of_key_eq hj' hj hid
    exact absurd hpaused hleft
  · cases (jobsStep_of_act hact).step_of_id hj hj' hid with
    | keep => exact absurd hpaused hleft
    | approve _ approvable =>
      simp only [ReplayJob.approvable, Bool.and_eq_true, beq_iff_eq] at approvable
      rw [approvable.1.1.2] at hpaused
      cases hpaused
    | change _ changes =>
      cases changes with
      | pause => exact absurd rfl hleft
      | resume => exact ⟨_, .inl rfl⟩
      | cancel => exact ⟨_, .inr rfl⟩
    | start _ _ _ _ _ scheduled =>
      rw [scheduled] at hpaused
      cases hpaused
    | complete _ _ _ _ _ _ job =>
      rcases hP.begun job.symm j hj rfl with h | h <;> rw [h] at hpaused <;> cases hpaused

/-- In a run in which operators leave the job alone while it runs: once it is paused or canceled it gets
no new delivery before it is resumed, it stays completed or canceled, and paused until it is resumed or
canceled. -/
theorem interrupted_until_resumed {c : Threads Op DB (Work Unit)}
    (hrun : App.system.Run NoReplays events c) (hmay : ∀ e ∈ events, Respects notRunning jobID e) :
    (∀ before e mid e' after, events = before ++ e :: mid ++ e' :: after → Interrupts jobID e →
      (∀ e₁ ∈ mid, ¬Resumes jobID e₁) → ∀ d ∈ e'.after.deliveries, d.replayJobID = jobID →
        ∃ d₀ ∈ e'.before.deliveries, d₀.id = d.id) ∧
    ∀ e ∈ events, ∀ j ∈ e.before.replayJobs, ∀ j' ∈ e.after.replayJobs, j.id = jobID → j'.id = jobID →
      (j.state = .completed ∨ j.state = .canceled → j'.state = j.state) ∧
      (j.state = .paused → j'.state ≠ .paused → ∃ tenantID,
        e.label = .resumeReplayJob tenantID jobID ∨ e.label = .cancelReplayJob tenantID jobID) := by
  obtain ⟨_, hmachine, -⟩ := Machine.simulation.run hrun
  refine ⟨?_, ?_⟩
  · rintro before e _ _ after rfl hinterrupts hresume d hd hjob
    obtain ⟨_, _, hrun₃, hstep', -⟩ := hmachine.split
    obtain ⟨_, c₂, hrun₁, hstep, hpath⟩ := hrun₃.split
    -- the job is interrupted after the first step, and stays so
    have hmay₁ : ∀ e₁ ∈ before ++ [e], Respects notRunning jobID e₁ :=
      fun e₁ he₁ ↦ hmay e₁ (by simp only [List.mem_append, List.mem_cons] at he₁ ⊢; tauto)
    have hmeets₂ := modular_fanout.run (fun _ h ↦ h.sound) (.snoc hrun₁ hstep) hmay₁
    have hinterrupted : Interrupted jobID c₂.state := hstep.after_eq ▸ hinterrupts.interrupted
    have hmeets₃ := modular_interrupted.path hpath
      (fun e₁ he₁ ↦ ⟨hmay e₁ (by simp only [List.mem_append, List.mem_cons]; tauto), hresume e₁ he₁⟩)
      ⟨⟨hmeets₂.state, hinterrupted⟩, hmeets₂.threads⟩
    rw [hstep'.after_eq] at hd
    rw [hstep'.before_eq]
    exact no_delivery_of_interrupted hmeets₃ hstep' hd hjob
  · rintro e he j hj _ hj' rfl hid
    obtain ⟨_, _, rfl⟩ := List.append_of_mem he
    obtain ⟨_, _, hrun₁, hstep, -⟩ := hmachine.split
    have hmeets := modular_fanout.run (fun _ h ↦ h.sound) hrun₁
      fun e₁ he₁ ↦ hmay e₁ (List.mem_append_left _ he₁)
    rw [hstep.before_eq] at hj
    rw [hstep.after_eq] at hj'
    exact ⟨fun hfinal ↦ final_of_step hstep hj hfinal hj' hid,
      fun hpaused hleft ↦ paused_of_step hmeets hstep hj hpaused hj' hid hleft⟩

/-- A worker claims the item of a paused job and defers it, and the next one runs the resumed job. -/
def heldRun : AppRun := runScript
  (askedScript freeReplay ++ [.start (.pauseReplayJob "t" "rpl_1"), .go 1 1 (fun _ ↦ shopEnv 2),
    .start (shopWorker "worker_1"), .go 2 20 (shopFrom 10),
    .start (.resumeReplayJob "t" "rpl_1"), .go 3 1 (fun _ ↦ shopEnv 40),
    .start (shopWorker "worker_2"),
    .go 4 20 (fun n ↦ { shopFrom 50 n with now := 2 * leaseTime })]) shopConfigured

theorem orderly_pause_holds :
    (∀ e ∈ heldRun.1, Respects notRunning "rpl_1" e) ∧
      (∃ e ∈ heldRun.1, e.before.replayJobs.rows.map (·.state) = [.paused] ∧
        e.before.outbox.rows.map (·.state) = [.pending] ∧
        e.after.outbox.rows.map (·.state) = [.inProgress]) ∧
      heldRun.2.state.deliveries.rows.map (·.replayJobID) = ["rpl_1", "rpl_1"] ∧
      (∀ before e mid e' after, heldRun.1 = before ++ e :: mid ++ e' :: after → Interrupts "rpl_1" e →
        (∀ e₁ ∈ mid, ¬Resumes "rpl_1" e₁) → ∀ d ∈ e'.after.deliveries, d.replayJobID = "rpl_1" →
          ∃ d₀ ∈ e'.before.deliveries, d₀.id = d.id) ∧
      ∀ e ∈ heldRun.1, ∀ j ∈ e.before.replayJobs, ∀ j' ∈ e.after.replayJobs, j.id = "rpl_1" →
        j'.id = "rpl_1" → (j.state = .completed ∨ j.state = .canceled → j'.state = j.state) ∧
        (j.state = .paused → j'.state ≠ .paused → ∃ tenantID,
          e.label = .resumeReplayJob tenantID "rpl_1" ∨ e.label = .cancelReplayJob tenantID "rpl_1") := by
  have hrun : App.system.Run NoReplays heldRun.1 heldRun.2 :=
    run_runScript noReplays_shopConfigured
  have hmay : ∀ e ∈ heldRun.1, Respects notRunning "rpl_1" e := by decide +kernel
  exact ⟨hmay, by decide +kernel, by decide +kernel, interrupted_until_resumed hrun hmay⟩

/-! ## Pausing a job that runs -/

/-- The worker has created one of the two deliveries when the job is paused. -/
def pausedRun : AppRun := runScript
  (askedScript freeReplay ++ [.start (shopWorker "worker"), .go 1 8 (shopFrom 10),
    .start (.pauseReplayJob "t" "rpl_1"), .go 2 1 (fun _ ↦ shopEnv 20),
    .go 1 20 (shopFrom 30)]) shopConfigured

/-- The pause committed when there was one delivery. The worker created another one and completed the
job, which nobody resumed. -/
theorem paused_job_goes_on :
    App.system.Run NoReplays pausedRun.1 pausedRun.2 ∧
      (∃ e ∈ pausedRun.1, Op.stateChange e.label = some ("rpl_1", .paused) ∧
        e.before.replayJobs.rows.map (·.state) = [.running] ∧
        e.after.replayJobs.rows.map (·.state) = [.paused] ∧
        e.after.deliveries.rows.map (·.replayJobID) = ["rpl_1"]) ∧
      (∀ e ∈ pausedRun.1, Op.stateChange e.label ≠ some ("rpl_1", .scheduled)) ∧
      pausedRun.2.state.deliveries.rows.map (·.replayJobID) = ["rpl_1", "rpl_1"] ∧
      pausedRun.2.state.replayJobs.rows.map (·.state) = [.completed] :=
  ⟨run_runScript noReplays_shopConfigured, by decide +kernel, by decide +kernel,
    by decide +kernel, by decide +kernel⟩

end Webhookery.Replay
