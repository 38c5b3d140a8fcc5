import Webhookery.Replay.Approval
import Webhookery.Machine.Slots

/-!
# A replay delivers once

The state of a job is the only thing that keeps two workers from running it. A job that is resumed
while it runs is scheduled again, and the next worker that claims its item repeats what the first one
has created. As long as a running job is neither paused nor resumed it is started once. A job that does
not name both an event and a delivery of that event then creates at most one delivery for every
original delivery and, with the current configuration, for every route and subscription.
-/

namespace Webhookery.Replay

open Go Store App Relational Concurrency Machine Webhookery.Delivery

variable {events : List (Transition Op Env DB)} {l : Op} {q q' : Phase} {env : Env} {db db' : DB}
  {jobID : String} {request : ReplayRequest} {mode : ConfigMode} {slot : Slot}

/-- A job that runs is neither paused nor resumed. -/
def mayRestart (old new : ReplayState) : Prop := old = .running → new = .canceled

instance : DecidableRel mayRestart := fun _ _ ↦ inferInstanceAs (Decidable (_ → _))

/-- The request does not name a delivery of the event that it names. -/
def Apart (request : ReplayRequest) (db : DB) : Prop :=
  ∀ d ∈ db.deliveries.rows, d.id = request.deliveryID → d.eventID ≠ request.eventID

instance (request : ReplayRequest) (db : DB) : Decidable (Apart request db) :=
  inferInstanceAs (Decidable (∀ d ∈ db.deliveries.rows, _))

/-- The delivery was created by its job for an original delivery, or for none. -/
def Replays (db : DB) (d : Delivery) (originalDeliveryID : String) : Prop :=
  ∃ i ∈ db.replayItems.rows, i.replayJobID = d.replayJobID ∧ i.newDeliveryID = d.id ∧
    i.originalDeliveryID = originalDeliveryID

/-! ## Jobs that may be started -/

def waits : ReplayState → Bool
  | .pendingApproval | .scheduled | .paused => true
  | .running | .completed | .canceled => false

/-- Nobody has started the job. -/
def Startable (jobID : String) (db : DB) : Prop :=
  ∀ j ∈ db.replayJobs.rows, j.id = jobID → waits j.state = true

instance (jobID : String) (db : DB) : Decidable (Startable jobID db) :=
  inferInstanceAs (Decidable (∀ j ∈ db.replayJobs.rows, _))

theorem Startable.of_act (h : Startable jobID db') (hmay : Respects mayRestart jobID ⟨l, .act env, db, db'⟩)
    (hact : Act l q env db q' db') : Startable jobID db := by
  rintro j hj rfl
  obtain ⟨j', hj', hstep⟩ := (jobsStep_of_act hact).exists_step hj
  have hwaits := h j' hj' hstep.same.id
  cases hstep with
  | keep => exact hwaits
  | approve _ approvable =>
    simp only [ReplayJob.approvable, Bool.and_eq_true, beq_iff_eq] at approvable
    rw [approvable.1.1.2]
    rfl
  | change _ changes may =>
    have hrunning := hmay.may_change changes hj
    cases hold : j.state with
    | pendingApproval | scheduled | paused => rfl
    | running =>
      rw [hrunning hold] at hwaits
      cases hwaits
    | completed | canceled =>
      rw [hold] at may
      cases may
  | start | complete => cases hwaits

/-- A worker that starts a job is the first one. -/
theorem startable_of_start (h : startReplayJob tenantID jobID db = .ok (true, db')) :
    Startable jobID db ∧ ¬Startable jobID db' := by
  obtain ⟨hany, rfl⟩ := Prod.mk.inj (Except.ok.inj h)
  obtain ⟨j, hj, hguard⟩ := List.any_eq_true.mp hany
  have hj' := hguard
  simp only [Bool.and_eq_true, beq_iff_eq] at hj'
  obtain ⟨⟨-, hid⟩, hscheduled⟩ := hj'
  refine ⟨fun j₁ hj₁ hid₁ ↦ ?_, fun hstartable ↦ ?_⟩
  · obtain rfl : j₁ = j := Table.eq_of_key_eq hj₁ hj (hid₁.trans hid.symm)
    rw [hscheduled]
    rfl
  · exact absurd (hstartable { j with state := .running } (List.mem_map.mpr ⟨j, hj, if_pos hguard⟩) hid)
      nofun

/-! ## What a job may still create -/

/-- What the worker may still create for the slot of a job. -/
def mayCreate (jobID : String) (slot : Slot) : Phase → Nat
  | .working item (.fanout (some work) todo) _ =>
    if item.resourceID = jobID then slot.left work.request.eventID work.request.deliveryID todo else 0
  | _ => 0

/-- What was created for the slot, and what a worker that starts the job may create. -/
def created (jobID eventID : String) (slot : Slot) (db : DB) : Nat :=
  slot.taken jobID eventID db + if Startable jobID db then 1 else 0

/-- All that a run does with the job. -/
structure Careful (jobID : String) (request : ReplayRequest) (mode : ConfigMode) (e : Transition Op Env DB) : Prop where
  respects : Respects mayRestart jobID e
  apart : Apart request e.before
  job : ∀ j ∈ e.before.replayJobs, j.id = jobID → j.request = request ∧ j.configMode = mode

theorem mayCreate_of_silent (h : Silent q q₀) : mayCreate jobID slot q₀ ≤ mayCreate jobID slot q := by
  cases h with
  | skip | drop | route => exact Nat.zero_le _
  | delivery item job _ _ ofEvent =>
    cases job with
    | none => exact le_rfl
    | some =>
      by_cases hjob : item.resourceID = jobID
      · rw [mayCreate, mayCreate, if_pos hjob, if_pos hjob]
        exact slot.left_delivery_le _ _ ofEvent
      · rw [mayCreate, if_neg hjob]
        exact Nat.zero_le _
  | done item job _ rest =>
    cases job with
    | none => exact le_rfl
    | some work =>
      have hnothing : mayCreate jobID slot (.working item (.fanout (some work) .done) rest) = 0 :=
        ite_self 0
      rw [hnothing]
      exact Nat.zero_le _

section Step

variable {item : OutboxItem} {work : ReplayJobWork} {todo todo' : Todo} {rest : List OutboxItem}

/-- What a worker knows of the job is what it was created with. -/
theorem Careful.same_request (h : Careful jobID request mode ⟨l, .act env, db, db'⟩)
    (htask : TaskSound db item (.fanout (some work) todo)) (hjob : item.resourceID = jobID) :
    work.request.eventID = request.eventID ∧ work.request.deliveryID = request.deliveryID ∧
      work.configMode = mode := by
  obtain ⟨-, j, hj, -, hid, hevent, hdelivery, hmode⟩ := htask
  obtain ⟨rfl, rfl⟩ := h.job j hj (hid.trans hjob)
  exact ⟨hevent, hdelivery, hmode⟩

theorem left_of_step (hslot : slot.id ≠ "") (hmode : slot.ofEvent = true → mode = .current)
    (hcareful : Careful jobID request mode ⟨l, .act env, db, db'⟩) (hP : PhaseSound db q)
    (hjob : item.resourceID = jobID) (h : FanoutStep db db' item rest (some work) todo q)
    (hmay : Startable jobID db' → Startable jobID db) :
    slot.left work.request.eventID work.request.deliveryID todo + (if Startable jobID db' then 1 else 0) ≤
      mayCreate jobID slot q + if Startable jobID db then 1 else 0 := by
  have hstartable : (if Startable jobID db' then 1 else 0) ≤ if Startable jobID db then 1 else 0 := by
    by_cases h' : Startable jobID db' <;> simp [h', hmay]
  cases h with
  | keep =>
    rw [mayCreate, if_pos hjob]
    exact Nat.add_le_add_left hstartable _
  | start _ commits =>
    rw [hjob] at commits
    obtain ⟨hbefore, hafter⟩ := startable_of_start commits
    simp [mayCreate, Slot.left, hbefore, hafter]
  | learn _ todo₀ _ learns =>
    have htask : TaskSound db item (.fanout (some work) todo₀) := hP.task
    obtain ⟨hevent, hdelivery, hwork⟩ := hcareful.same_request htask hjob
    have hleft := left_of_learns hslot learns
      (by rintro _ ⟨⟩ hnamed; exact hwork.trans (hmode hnamed))
      (by rintro _ ⟨⟩ d hd hid; rw [hevent]; exact hcareful.apart d hd (hid.trans hdelivery))
    rw [mayCreate, if_pos hjob]
    exact Nat.add_le_add hleft hstartable
  | take _ _ _ _ takes =>
    have hleft := left_of_takes hslot takes
    rw [mayCreate, if_pos hjob]
    exact Nat.add_le_add (Nat.le_trans (Nat.le_add_right _ _) hleft) hstartable

end Step

/-- What was created and what may still be created never grows. -/
theorem created_of_act (hslot : slot.id ≠ "") (hmode : slot.ofEvent = true → mode = .current)
    (hnamed : jobID ≠ "") (hcareful : Careful jobID request mode ⟨l, .act env, db, db'⟩)
    (hP : PhaseSound db q) (hact : Act l q env db q' db') :
    created jobID request.eventID slot db' + mayCreate jobID slot q' ≤
      created jobID request.eventID slot db + mayCreate jobID slot q := by
  have hmay : Startable jobID db' → Startable jobID db := fun h ↦ h.of_act hcareful.respects hact
  have hstartable : (if Startable jobID db' then 1 else 0) ≤ if Startable jobID db then 1 else 0 := by
    by_cases h' : Startable jobID db' <;> simp [h', hmay]
  unfold created
  rcases taken_of_act jobID request.eventID hslot hact with
    hsame | ⟨item, job, todo, todo', rest, req, rfl, rfl, takes, htaken⟩
  · -- nothing was taken: the worker has less left, or has started the job
    have hleft : mayCreate jobID slot q' + (if Startable jobID db' then 1 else 0) ≤
        mayCreate jobID slot q + if Startable jobID db then 1 else 0 := by
      match q', hact with
      | .working item (.fanout (some work) todo) rest, hact =>
        by_cases hjob : item.resourceID = jobID
        · have hstep := left_of_step hslot hmode hcareful hP hjob (fanoutStep_of_act hact) hmay
          rwa [mayCreate, if_pos hjob]
        · rw [mayCreate, if_neg hjob]
          omega
      | .idle, _ | .items _, _ | .sending _, _ | .recording _ _, _ | .marking _ _, _
      | .working _ (.fanout none _) _, _ | .working _ (.loaded _) _, _ | .working _ .settled _, _ =>
        simp only [mayCreate]
        omega
    omega
  · -- what was taken was left to the worker
    have hreplay := takes.replayJobID
    cases job with
    | none =>
      rw [if_neg fun h ↦ hnamed (h.1.symm.trans hreplay)] at htaken
      simp only [mayCreate]
      omega
    | some work =>
      by_cases hjob : item.resourceID = jobID
      · have htask : TaskSound db item (.fanout (some work) todo) := hP.task
        obtain ⟨hevent, -, -⟩ := hcareful.same_request htask hjob
        have hleft := left_of_takes hslot takes
        simp only [fanoutEvent, fanoutDelivery, hevent] at hleft
        simp only [mayCreate, hevent, hreplay, fanoutJob, hjob, true_and, if_true] at htaken ⊢
        omega
      · rw [if_neg fun h ↦ hjob (hreplay.symm.trans h.1)] at htaken
        simp only [mayCreate, if_neg hjob]
        omega

theorem budget_created (hslot : slot.id ≠ "") (hmode : slot.ofEvent = true → mode = .current)
    (hnamed : jobID ≠ "") : System.Budget machine (Careful jobID request mode) ReplaysSound
      (fun db _ q ↦ PhaseSound db q) (created jobID request.eventID slot)
      (fun _ ↦ mayCreate jobID slot) :=
  budget_machine rfl (fun _ _ _ _ hsilent hP ↦ hP.silent hsilent) (fun _ _ h ↦ mayCreate_of_silent h)
    fun _ _ _ _ _ _ _ hP hcareful hact ↦ created_of_act hslot hmode hnamed hcareful hP hact

/-! ## Runs -/

/-- Deliveries of a job are recorded with what they replay. -/
def Recorded (db : DB) : Prop :=
  ∀ d ∈ db.deliveries, d.replayJobID ≠ "" → ∃ originalDeliveryID, Replays db d originalDeliveryID

theorem mem_replayItems_of_act (hact : Act l q env db q' db') (hi : i ∈ db.replayItems.rows) :
    i ∈ db'.replayItems.rows := by
  cases deliveryMove_of_act hact with
  | dispatch dispatch => exact (frame_of_dispatch dispatch).2.1 ▸ hi
  | snapshot taken => exact (Table.mem_append taken.items).mpr (.inl hi)
  | other _ _ noted =>
    obtain ⟨_, hrows, -⟩ := noted.items
    exact (Table.mem_append hrows).mpr (.inl hi)

theorem recorded_of_act (h : Recorded db) (hact : Act l q env db q' db') : Recorded db' := by
  have hkeep {d d' : Delivery} (hd : d ∈ db.deliveries) (hsame : SameDelivery d d')
      (hjob : d'.replayJobID ≠ "") : ∃ originalDeliveryID, Replays db' d' originalDeliveryID := by
    obtain ⟨original, i, hi, _⟩ := h d hd (hsame.replayJobID ▸ hjob)
    refine ⟨original, i, mem_replayItems_of_act hact hi, ?_⟩
    rwa [hsame.replayJobID, hsame.id]
  intro d' hd' hjob
  cases deliveriesStep_of_act hact with
  | created taken =>
    rcases (Table.mem_of_rows_append taken.deliveries).mp hd' with hold | rfl
    · exact hkeep hold (.refl d') hjob
    · obtain ⟨_, hrows, hone, -, hitems⟩ := taken.replayItems
      obtain ⟨i, rfl⟩ := List.length_eq_one_iff.mp (hone hjob)
      obtain ⟨hreplay, horiginal, hdelivery⟩ := hitems i List.mem_cons_self
      exact ⟨_, i, by simp [hrows], hreplay, hdelivery, horiginal⟩
  | updated f rows same =>
    obtain ⟨d, hd, rfl⟩ := (Table.mem_map rows).mp hd'
    exact hkeep hd (same d) hjob

theorem recorded_of_run {c : Threads Op DB (Work Unit)} (hrun : App.system.Run NoReplays events c) : Recorded c.state :=
  invariant_of_acts (fun _ h d hd hjob ↦ absurd (h.deliveries d hd) hjob) (fun _ _ _ _ _ _ ↦ recorded_of_act) hrun

/-- At most one delivery of the job takes a slot. -/
theorem taken_le_one (hrun : machine.Run NoReplays events ts)
    (hj : j ∈ ts.state.replayJobs) (hmay : ∀ e ∈ events, Respects mayRestart j.id e)
    (hapart : ∀ e ∈ events, Apart j.request e.before) (hslot : slot.id ≠ "")
    (hmode : slot.ofEvent = true → j.configMode = .current) :
    slot.taken j.id j.request.eventID ts.state ≤ 1 := by
  have hsound := modular_sound.run (fun _ h ↦ h.sound) hrun fun _ _ ↦ trivial
  have hcareful : ∀ e ∈ events, Careful j.id j.request j.configMode e := by
    refine fun e he ↦ ⟨hmay e he, hapart e he, fun j₀ hj₀ hid ↦ ?_⟩
    obtain ⟨_, _, rfl⟩ := List.append_of_mem he
    obtain ⟨_, _, -, hstep, hpath⟩ := hrun.split
    rw [hstep.before_eq] at hj₀
    obtain ⟨j', hj', hsame⟩ := exists_sameJob_of_path ((System.Path.single hstep).append hpath) hj₀
    obtain rfl : j' = j := Table.eq_of_key_eq hj' hj (hsame.id.trans hid)
    exact ⟨hsame.request.symm, hsame.configMode.symm⟩
  have hinit (db : DB) (h : NoReplays db) :
      ReplaysSound db ∧ created j.id j.request.eventID slot db ≤ 1 := by
    refine ⟨h.sound, ?_⟩
    have htaken : slot.taken j.id j.request.eventID db = 0 := by
      have hdeliveries (p : Delivery → Bool) :
          db.deliveries.rows.countP (fun d ↦ d.replayJobID == j.id && p d) = 0 := by
        rw [List.countP_eq_zero]
        intro d hd hmatch
        rw [Bool.and_eq_true, beq_iff_eq, h.deliveries d hd] at hmatch
        exact hsound.state.named j hj hmatch.1.symm
      cases slot with
      | original => simp [Slot.taken, h.replayItems]
      | subscription | route => exact hdeliveries _
    rw [created, htaken]
    split <;> simp
  have htotal := (budget_created hslot hmode (hsound.state.named j hj)).run
    (modular_sound.weaken fun _ _ ↦ trivial) hinit hrun hcareful
  have hspent := System.spent_le_total (created j.id j.request.eventID slot)
    (fun _ ↦ mayCreate j.id slot) ts
  unfold created at hspent htotal
  omega

/-- In a run in which a job is neither paused nor resumed while it runs, and whose request does not name
a delivery of the event that it names: every delivery of the job is recorded with what it replays, two
of them never replay the same delivery, and with the current configuration two of them for the named
event never belong to the same route or subscription. -/
theorem replayed_once {c : Threads Op DB (Work Unit)} {j : ReplayJob}
    (hrun : App.system.Run NoReplays events c) (hj : j ∈ c.state.replayJobs)
    (hmay : ∀ e ∈ events, Respects mayRestart j.id e)
    (hapart : ∀ e ∈ events, Apart j.request e.before) :
    (∀ d ∈ c.state.deliveries, d.replayJobID = j.id → ∃ original, Replays c.state d original) ∧
      ∀ d₁ ∈ c.state.deliveries, ∀ d₂ ∈ c.state.deliveries, d₁.replayJobID = j.id →
        d₂.replayJobID = j.id →
        (∀ original, original ≠ "" → Replays c.state d₁ original → Replays c.state d₂ original →
          d₁ = d₂) ∧
        (j.configMode = .current → d₁.eventID = j.request.eventID → d₂.eventID = j.request.eventID →
          (d₁.routeID ≠ "" → d₁.routeID = d₂.routeID → d₁ = d₂) ∧
            (d₁.subscriptionID ≠ "" → d₁.subscriptionID = d₂.subscriptionID → d₁ = d₂)) := by
  obtain ⟨_, hmachine, -⟩ := Machine.simulation.run hrun
  have hnamed : j.id ≠ "" :=
    (modular_sound.run (fun _ h ↦ h.sound) hmachine fun _ _ ↦ trivial).state.named j hj
  have hone (slot : Slot) (hslot : slot.id ≠ "")
      (hmode : slot.ofEvent = true → j.configMode = .current) :
      slot.taken j.id j.request.eventID c.state ≤ 1 :=
    taken_le_one hmachine hj hmay hapart hslot hmode
  refine ⟨fun d hd hjob ↦ recorded_of_run hrun d hd (hjob ▸ hnamed), ?_⟩
  intro d₁ hd₁ d₂ hd₂ hjob₁ hjob₂
  refine ⟨?_, fun hcurrent hevent₁ hevent₂ ↦ ⟨fun hroute hsame ↦ ?_, fun hsubscription hsame ↦ ?_⟩⟩
  · rintro _ horiginal ⟨i₁, hi₁, hreplay₁, hnew₁, rfl⟩ ⟨i₂, hi₂, hreplay₂, hnew₂, hsame⟩
    -- both are recorded by the same item
    obtain rfl : i₁ = i₂ := by
      apply Table.eq_of_countP_le_one (hone (.original i₁.originalDeliveryID) horiginal nofun) hi₁ hi₂
      · simp [hreplay₁, hjob₁]
      · simp [hreplay₂, hjob₂, hsame]
    exact Table.eq_of_key_eq hd₁ hd₂ (hnew₁.symm.trans hnew₂)
  · apply Table.eq_of_countP_le_one (hone (.route d₁.routeID) hroute fun _ ↦ hcurrent) hd₁ hd₂
    · simp [hjob₁, hevent₁]
    · simp [hjob₂, hevent₂, hsame]
  · apply Table.eq_of_countP_le_one
      (hone (.subscription d₁.subscriptionID) hsubscription fun _ ↦ hcurrent) hd₁ hd₂
    · simp [hjob₁, hevent₁]
    · simp [hjob₂, hevent₂, hsame]

/-- The approved replay names an event with a route and a subscription, and creates two deliveries. -/
theorem approved_replay_once :
    (∀ e ∈ approvedRun.1, Respects mayRestart "rpl_1" e ∧ Apart guardedReplay e.before) ∧
      approvedRun.2.state.deliveries.rows.map (fun d ↦ (d.replayJobID, d.subscriptionID, d.routeID)) =
        [("rpl_1", "sub_0", ""), ("rpl_1", "", "rte_0")] ∧
      ∀ j ∈ approvedRun.2.state.replayJobs,
        (∀ d ∈ approvedRun.2.state.deliveries, d.replayJobID = j.id →
          ∃ original, Replays approvedRun.2.state d original) ∧
        ∀ d₁ ∈ approvedRun.2.state.deliveries, ∀ d₂ ∈ approvedRun.2.state.deliveries,
          d₁.replayJobID = j.id → d₂.replayJobID = j.id →
          (∀ original, original ≠ "" → Replays approvedRun.2.state d₁ original →
            Replays approvedRun.2.state d₂ original → d₁ = d₂) ∧
          (j.configMode = .current → d₁.eventID = j.request.eventID → d₂.eventID = j.request.eventID →
            (d₁.routeID ≠ "" → d₁.routeID = d₂.routeID → d₁ = d₂) ∧
              (d₁.subscriptionID ≠ "" → d₁.subscriptionID = d₂.subscriptionID → d₁ = d₂)) := by
  have hcareful : ∀ e ∈ approvedRun.1, Respects mayRestart "rpl_1" e ∧ Apart guardedReplay e.before := by
    decide +kernel
  have hjobs : ∀ j ∈ approvedRun.2.state.replayJobs.rows, j.id = "rpl_1" ∧
      j.request.eventID = guardedReplay.eventID ∧ j.request.deliveryID = guardedReplay.deliveryID := by
    decide +kernel
  refine ⟨hcareful, by decide +kernel, fun j hj ↦ ?_⟩
  obtain ⟨hid, hevent, hdelivery⟩ := hjobs j hj
  refine replayed_once run_approvedRun hj (fun e he ↦ ?_) fun e he ↦ ?_
  · rw [hid]
    exact (hcareful e he).1
  · intro d hd hnamed
    rw [hevent]
    exact (hcareful e he).2 d hd (hnamed.trans hdelivery)

/-! ## Resuming a job that runs -/

/-- The worker has created one of the two deliveries when its lease expires. The job is resumed, a
second worker claims its item and runs it, and the first one goes on. -/
def restartedRun : AppRun := runScript
  (askedScript freeReplay ++ [.start (shopWorker "worker_1"), .go 1 8 (shopFrom 10),
    .start (.resumeReplayJob "t" "rpl_1"), .go 2 1 (fun _ ↦ shopEnv 20),
    .start (shopWorker "worker_2"),
    .go 3 20 (fun n ↦ { shopFrom 30 n with now := 2 * leaseTime }),
    .go 1 20 (fun n ↦ { shopFrom 60 n with now := 2 * leaseTime })]) shopConfigured

/-- The job was resumed while it ran, and created two deliveries for the subscription and two for the
route. -/
theorem resumed_job_repeats :
    App.system.Run NoReplays restartedRun.1 restartedRun.2 ∧
      (∃ e ∈ restartedRun.1, Op.stateChange e.label = some ("rpl_1", .scheduled) ∧
        e.before.replayJobs.rows.map (·.state) = [.running] ∧
        e.after.replayJobs.rows.map (·.state) = [.scheduled]) ∧
      restartedRun.2.state.replayJobs.rows.map (fun j ↦ (j.id, j.configMode, j.request.eventID)) =
        [("rpl_1", .current, "evt_1")] ∧
      restartedRun.2.state.deliveries.rows.map
        (fun d ↦ (d.replayJobID, d.eventID, d.subscriptionID, d.routeID)) =
        [("rpl_1", "evt_1", "sub_0", ""), ("rpl_1", "evt_1", "sub_0", ""),
          ("rpl_1", "evt_1", "", "rte_0"), ("rpl_1", "evt_1", "", "rte_0")] :=
  ⟨run_runScript noReplays_shopConfigured, by decide +kernel, by decide +kernel,
    by decide +kernel⟩

end Webhookery.Replay
