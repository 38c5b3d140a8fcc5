import Webhookery.Replay.DryRun
import Webhookery.Replay.Once

/-!
# Jobs whose processing was interrupted

A worker that processes a replay or reconciliation job commits that the job is running before it does the
work. When it stops after that, the next worker that gets the item does not take the job up again: a
running replay job counts as done, and a running reconciliation job is deferred each time. A job that was
left in any other state recovers.
-/

namespace Webhookery.Replay

open Go Store App Relational Concurrency Provider Machine Delivery
open Program (Runs Avoids Changes)
open Relation (TransGen ReflTransGen)

/-! ## Passes -/

/-- A worker processes an item without a failure: the item is done, or it is deferred. -/
def Pass (codec : PayloadCodec) (registry : ReconcileRegistry) (item : OutboxItem) (db db' : DB) : Prop :=
  Runs (handleItem codec registry item) db (.ok ()) db'

/-- A pass changes what the processing changes, and rows of the outbox. -/
theorem exists_of_pass (h : Pass codec registry item db db') :
    ∃ r db₁, Runs (processOutbox codec registry item) db r db₁ ∧
      (r = .ok () ∨ r = .error .deferred) ∧ db' = { db₁ with outbox := db'.outbox } := by
  obtain ⟨r, db₁, hattempt, hrest⟩ := Runs.of_bind h
  obtain ⟨_, hresult, hrun⟩ := hattempt.of_attempt
  cases hresult
  refine ⟨r, db₁, hrun, ?_⟩
  split at hrest
  · obtain ⟨_, hcomplete⟩ := runs_transaction hrest
    cases hcomplete
    exact ⟨.inl rfl, rfl⟩
  · cases hrest
    exact ⟨.inr rfl, rfl⟩
  · cases hrest

/-! ## Replay jobs -/

section ReplayJobs

variable {codec : PayloadCodec} {registry : ReconcileRegistry} {itemID : String} {job j : ReplayJob}
  {db db' db₁ db₂ : DB} {r : Except StoreError Unit}

/-- The row of the job in a store. -/
def RowOf (job : ReplayJob) (db : DB) (j : ReplayJob) : Prop :=
  j ∈ db.replayJobs ∧ j.tenantID = job.tenantID ∧ j.id = job.id

/-- The job has ended. -/
def ReplayEnded (job : ReplayJob) (db : DB) : Prop :=
  ∃ j, RowOf job db j ∧ (j.state = .completed ∨ j.state = .canceled)

theorem avoids_runReplayJob {tenantID jobID : String} {work : ReplayJobWork} :
    Avoids .deferred (runReplayJob codec tenantID jobID work) := by
  have hsteps : FanoutProperty codec fun _ p ↦ Avoids .deferred p :=
    { pure := fun _ ↦ nofun
      bind := fun hp hf ↦ hp.bind hf
      query := fun hq ↦ avoids_query hq
      clockNow := Avoids.atomic fun _ _ ↦ nofun
      snapshot := fun _ ↦ avoids_transaction fun _ _ ↦ createDeliverySnapshot_ne_deferred
      noop := fun _ _ _ _ _ ↦ avoids_transaction fun _ _ ↦ bind_ne_error (require_ne_error nofun) fun _ ↦
        bind_ne_error insertRow_ne_deferred fun _ ↦ nofun }
  refine (hsteps.replayEvent _ _ _).bind fun ofEvent ↦ (hsteps.replayDelivery _).bind fun ofDelivery ↦ ?_
  exact avoids_transaction fun _ _ ↦ nofun

/-- Starting a scheduled job. -/
theorem started_of_startReplayJob (hjob : job ∈ db.replayJobs) (hscheduled : job.state = .scheduled)
    (h : startReplayJob job.tenantID job.id db = .ok (started, db₁)) :
    started = true ∧ RowOf job db₁ { job with state := .running } := by
  cases h
  refine ⟨List.any_eq_true.mpr ⟨job, hjob, by simp [hscheduled]⟩, ?_, rfl, rfl⟩
  refine List.mem_map.mpr ⟨job, hjob, if_pos ?_⟩
  simp [hscheduled]

/-- A scheduled job is started, and then not deferred. -/
theorem ne_deferred_of_scheduled (hjob : job ∈ db.replayJobs) (hscheduled : job.state = .scheduled)
    (hrun : Runs (createReplayDeliveries codec job.tenantID job.id) db r db') :
    r ≠ .error .deferred := by
  have hquery : Avoids .deferred (query (getReplayJobWork job.tenantID job.id)) :=
    avoids_query fun _ ↦ bind_ne_error selectRow_ne_deferred fun _ ↦ nofun
  have hstart : Avoids .deferred (transaction fun _ ↦ startReplayJob job.tenantID job.id) :=
    avoids_transaction fun _ _ ↦ nofun
  rcases hrun.bind_cases with ⟨e, rfl, hfailed⟩ | ⟨_, _, hread, hrest⟩
  · exact fun h ↦ hquery.runs hfailed (congrArg _ (Except.error.inj h))
  · obtain ⟨hwork, hsame⟩ := runs_query hread
    obtain rfl := Except.ok.inj ((getReplayJobWork_of_mem hjob).symm.trans hwork)
    have hstate : job.work.state = .scheduled := hscheduled
    rw [hstate, hsame] at hrest
    rcases hrest.bind_cases with ⟨e, rfl, hfailed⟩ | ⟨_, _, hstarted, hrest'⟩
    · exact fun h ↦ hstart.runs hfailed (congrArg _ (Except.error.inj h))
    · obtain ⟨_, hcommit⟩ := runs_transaction hstarted
      obtain ⟨rfl, -⟩ := started_of_startReplayJob hjob hscheduled hcommit
      rw [if_pos rfl] at hrest'
      exact avoids_runReplayJob.runs hrest'

/-- A pass carries out a scheduled job, and leaves the store as it is otherwise. -/
theorem pass_replay (hjob : job ∈ db.replayJobs)
    (h : Pass codec registry ⟨itemID, job.tenantID, .replayJob, job.id⟩ db db') :
    (job.state = .scheduled ∧ ∃ db₁,
      Runs (createReplayDeliveries codec job.tenantID job.id) db (.ok ()) db₁ ∧
        db' = { db₁ with outbox := db'.outbox }) ∨
      job.state ≠ .scheduled ∧ db' = { db with outbox := db'.outbox } := by
  obtain ⟨_, db₁, hrun, hr, hdb'⟩ := exists_of_pass h
  rcases carriedOut_of_createReplayDeliveries hjob hrun with ⟨hscheduled, -⟩ | ⟨hstate, rfl⟩
  · rcases hr with rfl | rfl
    · exact .inl ⟨hscheduled, db₁, hrun, hdb'⟩
    · exact absurd rfl (ne_deferred_of_scheduled hjob hscheduled hrun)
  · exact .inr ⟨hstate, hdb'⟩

/-- Passes leave a job that is not scheduled alone. -/
theorem passes_of_not_scheduled (hrow : RowOf job db j) (hstate : j.state ≠ .scheduled)
    (h : ReflTransGen (Pass codec registry ⟨itemID, job.tenantID, .replayJob, job.id⟩) db db') :
    db' = { db with outbox := db'.outbox } := by
  induction h with
  | refl => rfl
  | @tail b c _ hpass ih =>
    have hj : j ∈ b.replayJobs := by
      rw [ih]
      exact hrow.1
    rw [← hrow.2.1, ← hrow.2.2] at hpass
    rcases pass_replay hj hpass with ⟨hscheduled, -⟩ | ⟨-, hc⟩
    · exact absurd hscheduled hstate
    · rw [ih] at hc
      exact hc

/-- The job has ended after it was carried out. -/
theorem ended_of_runs (hjob : job ∈ db.replayJobs) (hscheduled : job.state = .scheduled)
    (hrun : Runs (createReplayDeliveries codec job.tenantID job.id) db (.ok ()) db₁) :
    ReplayEnded job db₁ := by
  obtain ⟨f, hrows, hsame, -⟩ := (adds_of_createReplayDeliveries hrun).replayJobs
  have hmem : f job ∈ db₁.replayJobs := by
    exact (Table.mem_map hrows).mpr ⟨_, hjob, rfl⟩
  have htenant : (f job).tenantID = job.tenantID := by rw [hsame job]
  have hid : (f job).id = job.id := by rw [hsame job]
  rcases carriedOut_of_createReplayDeliveries hjob hrun with ⟨-, hcarried⟩ | ⟨hstate, -⟩
  · obtain ⟨_, _, _, -, -, -, -, -, hall⟩ := hcarried
    exact ⟨f job, ⟨hmem, htenant, hid⟩, (hall rfl).2.2.2 _ hmem htenant hid⟩
  · exact absurd hscheduled hstate

theorem ReplayEnded.not_scheduled (h : j.state = .completed ∨ j.state = .canceled) : j.state ≠ .scheduled := by
  rcases h with h | h <;> simp [h]

/-- The first pass carries out a scheduled job, which ends it, and the others leave it alone. -/
theorem passes_of_scheduled (hjob : job ∈ db₁.replayJobs) (hscheduled : job.state = .scheduled)
    (h : TransGen (Pass codec registry ⟨itemID, job.tenantID, .replayJob, job.id⟩) db₁ db₂) :
    ∃ db, Runs (createReplayDeliveries codec job.tenantID job.id) db₁ (.ok ()) db ∧
      ReplayEnded job db ∧ db₂ = { db with outbox := db₂.outbox } := by
  obtain ⟨db', hfirst, hrest⟩ := TransGen.head'_iff.mp h
  rcases pass_replay hjob hfirst with ⟨-, db, hrun, hdb'⟩ | ⟨hstate, -⟩
  · obtain ⟨j, hrow, hended⟩ := ended_of_runs hjob hscheduled hrun
    have hrow' : RowOf job db' j := by
      rw [hdb']
      exact hrow
    have hkept := passes_of_not_scheduled hrow' (ReplayEnded.not_scheduled hended) hrest
    rw [hdb'] at hkept
    exact ⟨db, hrun, ⟨j, hrow, hended⟩, hkept⟩
  · exact absurd hscheduled hstate

/-- After one or more passes a job has ended exactly if it was scheduled or had ended before. -/
theorem replayEnded_iff (hjob : job ∈ db₁.replayJobs)
    (h : TransGen (Pass codec registry ⟨itemID, job.tenantID, .replayJob, job.id⟩) db₁ db₂) :
    ReplayEnded job db₂ ↔
      job.state = .scheduled ∨ job.state = .completed ∨ job.state = .canceled := by
  by_cases hscheduled : job.state = .scheduled
  · obtain ⟨_, -, hended, hkept⟩ := passes_of_scheduled hjob hscheduled h
    refine ⟨fun _ ↦ .inl hscheduled, fun _ ↦ ?_⟩
    rw [hkept]
    exact hended
  · have hkept := passes_of_not_scheduled ⟨hjob, rfl, rfl⟩ hscheduled h.to_reflTransGen
    have honly : ReplayEnded job db₂ ↔ job.state = .completed ∨ job.state = .canceled := by
      constructor
      · rintro ⟨j, ⟨hj, -, hid⟩, hended⟩
        rw [hkept] at hj
        obtain rfl := Table.eq_of_key_eq hj hjob hid
        exact hended
      · intro hended
        refine ⟨job, ⟨?_, rfl, rfl⟩, hended⟩
        rw [hkept]
        exact hjob
    rw [honly, or_iff_right hscheduled]

end ReplayJobs

/-! ## Reconciliation jobs -/

section ReconciliationJobs

variable {codec : PayloadCodec} {crypto : Crypto} {registry : ReconcileRegistry} {itemID : String}
  {job j : ReconciliationJob} {adapter : ReconcileAdapter} {conn : ProviderConnection} {db db' db₁ db₂ : DB}
  {f : ReconciliationJob → ReconciliationJob}

def reconciliationEnds : ReconciliationState → Bool
  | .completed | .failed | .canceled => true
  | .scheduled | .running => false

/-- The store has a row of the job. -/
def HasRow (job : ReconciliationJob) (db : DB) : Prop :=
  ∃ j ∈ db.reconciliationJobs, j.tenantID = job.tenantID ∧ j.id = job.id

def ReconciliationEnded (job : ReconciliationJob) (db : DB) : Prop :=
  ∃ j ∈ db.reconciliationJobs, j.tenantID = job.tenantID ∧ j.id = job.id ∧
    reconciliationEnds j.state = true

/-- The provider of the job's connection has an adapter. -/
def HasAdapter (registry : ReconcileRegistry) (job : ReconciliationJob) (db : DB) : Prop :=
  ∃ conn, getProviderConnection job.tenantID job.connectionID db = .ok conn ∧
    (registry job.id (toLower (trimSpace conn.provider))).isSome = true

/-- Steps outside of replays keep the row of a job. -/
theorem HasRow.runs {α : Type} {p : Work α} {r : Except StoreError α} (hrow : HasRow job db)
    (hp : Changes Outside p) (hrun : Runs p db r db') : HasRow job db' := by
  have hkeys : db'.reconciliationJobs.rows.map (fun j ↦ (j.tenantID, j.id)) =
      db.reconciliationJobs.rows.map fun j ↦ (j.tenantID, j.id) := by
    have hchanges := hp.mono fun _ _ h ↦ h.reconciliationJobs
    exact hchanges.interrupted (fun _ ↦ rfl) (fun _ _ _ h h' ↦ h'.trans h) hrun.interrupted
  obtain ⟨j, hj, htenant, hid⟩ := hrow
  have hkey : (job.tenantID, job.id) ∈ db'.reconciliationJobs.rows.map (fun j ↦ (j.tenantID, j.id)) := by
    rw [hkeys]
    exact List.mem_map.mpr ⟨j, hj, by rw [htenant, hid]⟩
  obtain ⟨j', hj', hsame⟩ := List.mem_map.mp hkey
  exact ⟨j', hj', (Prod.mk.inj hsame).1, (Prod.mk.inj hsame).2⟩

/-- Closing a job ends it, unless it was canceled before. -/
theorem ended_of_close {close : DB → Except StoreError (Unit × DB)} {hid : ∀ j, (f j).id = j.id}
    (hrow : HasRow job db) (hrun : Runs (transaction fun _ ↦ close) db (.ok ()) db')
    (hclose : close db = .ok ((),
      updateReconciliationJobs (ReconciliationJob.notCanceled job.tenantID job.id) f hid db))
    (htenant : ∀ j, (f j).tenantID = j.tenantID) (hstate : ∀ j, reconciliationEnds (f j).state = true) :
    ReconciliationEnded job db' := by
  obtain ⟨_, hcommit⟩ := runs_transaction hrun
  cases hclose.symm.trans hcommit
  obtain ⟨j, hj, hjtenant, hjid⟩ := hrow
  refine ⟨_, List.mem_map_of_mem hj, ?_⟩
  split
  case isTrue => exact ⟨(htenant j).trans hjtenant, (hid j).trans hjid, hstate j⟩
  case isFalse hguard =>
    have hcanceled : j.state = .canceled := by
      simpa [ReconciliationJob.notCanceled, hjtenant, hjid] using hguard
    exact ⟨hjtenant, hjid, by rw [hcanceled]; rfl⟩

/-- A scan ends with closing the job. -/
theorem ended_of_scanJob (hrow : HasRow job db)
    (hrun : Runs (scanJob crypto adapter job.tenantID job.id job conn) db (.ok ()) db') :
    ReconciliationEnded job db' := by
  obtain ⟨_, _, hevidence, h₁⟩ := hrun.of_bind
  have hrow₁ := hrow.runs (changes_recordEvidence .refl "" _) hevidence
  split at h₁
  · exact ended_of_close hrow₁ h₁ rfl (fun _ ↦ rfl) fun _ ↦ rfl
  case h_2 objects _ =>
    obtain ⟨_, _, hobjects, h₂⟩ := h₁.of_bind
    have hreconcile : Changes Outside (reconcileObjects crypto adapter job conn objects) :=
      Changes.forEach (fun _ ↦ outside_reconcileProviderObject) _
    have hrow₂ := hrow₁.runs hreconcile.attempt hobjects
    split at h₂
    · exact ended_of_close hrow₂ h₂ rfl (fun _ ↦ rfl) fun _ ↦ rfl
    · obtain ⟨_, _, hcursor, h₃⟩ := h₂.of_bind
      have hkeep : Changes Outside (keepCursor job.tenantID job.id adapter.scan.nextCursor) :=
        .ite (outside_done _) (outside_updateReconciliationJobs fun _ _ ↦ rfl)
      exact ended_of_close (hrow₂.runs hkeep hcursor) h₃ rfl (fun _ ↦ rfl) fun _ ↦ rfl

/-- A started job is not deferred. -/
theorem avoids_scanJob : Avoids .deferred (scanJob crypto adapter job.tenantID job.id job conn) := by
  have hrecord : Avoids .deferred recordProviderAPIEvidence := avoids_transaction fun _ _ ↦ nofun
  have hevidence (last : String) (calls : Nat) : Avoids .deferred (recordEvidence last calls) := by
    induction calls generalizing last with
    | zero => exact Program.avoids_pure _
    | succ _ ih => exact hrecord.bind fun id ↦ ih id
  have hfail (errorText : String) : Avoids .deferred
      (transaction fun _ ↦ failReconciliationJob job.tenantID job.id errorText) :=
    avoids_transaction fun _ _ ↦ nofun
  have hcursor : Avoids .deferred (keepCursor job.tenantID job.id adapter.scan.nextCursor) :=
    .ite (Program.avoids_pure _) (avoids_transaction (by intro env db; exact nofun))
  refine (hevidence "" _).bind fun _ ↦ ?_
  split
  · exact hfail _
  · refine Program.avoids_attempt.bind fun result ↦ ?_
    cases result with
    | error => exact hfail _
    | ok => exact hcursor.bind fun _ ↦ avoids_transaction (by intro env db; exact nofun)

theorem avoids_unsupportedJob : Avoids .deferred (unsupportedJob adapter job.tenantID job.id conn) := by
  refine Avoids.bind (avoids_transaction fun _ _ ↦ ?_) fun _ ↦ avoids_transaction fun _ _ ↦ nofun
  exact bind_ne_error (require_ne_error nofun) fun _ ↦ bind_ne_error insertRow_ne_deferred fun _ ↦ nofun

/-- The job and its connection are read. -/
theorem runs_getReconciliationWork (hjob : job ∈ db.reconciliationJobs)
    (h : Runs (getReconciliationWork job.tenantID job.id) db (.ok work) db') :
    work.1 = job ∧ getProviderConnection job.tenantID job.connectionID db = .ok work.2 ∧ db' = db := by
  obtain ⟨_, _, hread, h₁⟩ := h.of_bind
  obtain ⟨hselect, hsame⟩ := runs_query hread
  obtain ⟨hmem, -, hid⟩ := selectRow_columns hselect
  obtain rfl := Table.eq_of_key_eq hmem hjob hid
  rw [hsame] at h₁
  obtain ⟨_, _, hread', h₂⟩ := h₁.of_bind
  obtain ⟨hconn, hsame'⟩ := runs_query hread'
  cases h₂
  exact ⟨rfl, hconn, hsame'⟩

theorem updateReconciliationJobs_eq_self {p : ReconciliationJob → Bool} {hid : ∀ j, (f j).id = j.id}
    (h : ∀ j ∈ db.reconciliationJobs, ¬p j = true) : updateReconciliationJobs p f hid db = db := by
  have hjobs : (updateReconciliationJobs p f hid db).reconciliationJobs = db.reconciliationJobs :=
    Table.eq_of_rows_map rfl fun j hj ↦ if_neg (h j hj)
  exact congrArg (fun t ↦ { db with reconciliationJobs := t }) hjobs

/-- A job with an adapter is carried out when it is scheduled, and deferred otherwise. -/
theorem runs_startedJob {r : Except StoreError Unit} (hjob : job ∈ db.reconciliationJobs)
    (hrun : Runs (startedJob crypto adapter job.tenantID job.id job conn) db r db')
    (hr : r = .ok () ∨ r = .error .deferred) :
    job.state = .scheduled ∧ ReconciliationEnded job db' ∨ job.state ≠ .scheduled ∧ db' = db := by
  have hstart : Avoids .deferred (transaction fun _ ↦ startReconciliationJob job.tenantID job.id) :=
    avoids_transaction fun _ _ ↦ nofun
  rcases hrun.bind_cases with ⟨e, rfl, hfailed⟩ | ⟨_, db₁, hstarted, hrest⟩
  · rcases hr with hr | hr
    · cases hr
    · exact absurd (congrArg _ (Except.error.inj hr)) (hstart.runs hfailed)
  have hchanges : Changes Outside (transaction fun _ ↦ startReconciliationJob job.tenantID job.id) :=
    outside_updateReconciliationJobs fun _ _ ↦ rfl
  have hrow₁ : HasRow job db₁ := HasRow.runs ⟨job, hjob, rfl, rfl⟩ hchanges hstarted
  obtain ⟨_, hcommit⟩ := runs_transaction hstarted
  by_cases hscheduled : job.state = .scheduled
  · have hany : db.reconciliationJobs.rows.any (fun j : ReconciliationJob ↦
        j.tenantID == job.tenantID && j.id == job.id && j.state == .scheduled) = true :=
      List.any_eq_true.mpr ⟨job, hjob, by simp [hscheduled]⟩
    cases hcommit
    rw [if_pos hany] at hrest
    refine .inl ⟨hscheduled, ?_⟩
    split at hrest
    · obtain rfl := avoids_scanJob.eq_ok hrest hr
      exact ended_of_scanJob hrow₁ hrest
    · obtain rfl := avoids_unsupportedJob.eq_ok hrest hr
      obtain ⟨_, _, hitem, hcomplete⟩ := hrest.of_bind
      exact ended_of_close (hrow₁.runs outside_insertReconciliationItem hitem) hcomplete rfl (fun _ ↦ rfl) fun _ ↦ rfl
  · have hnone : ∀ j ∈ db.reconciliationJobs, ¬(j.tenantID == job.tenantID && j.id == job.id &&
        j.state == .scheduled) = true := by
      intro j hj hmatch
      simp only [Bool.and_eq_true, beq_iff_eq] at hmatch
      obtain rfl := Table.eq_of_key_eq hj hjob hmatch.1.2
      exact hscheduled hmatch.2
    cases hcommit
    rw [List.any_eq_false.mpr hnone, if_neg Bool.false_ne_true,
      updateReconciliationJobs_eq_self hnone] at hrest
    cases hrest
    exact .inr ⟨hscheduled, rfl⟩

/-- A pass ends a job, unless it is running and its provider has an adapter: then the job is deferred. -/
theorem pass_reconciliation (hjob : job ∈ db.reconciliationJobs)
    (h : Pass codec registry ⟨itemID, job.tenantID, .reconciliationJob, job.id⟩ db db') :
    job.state = .running ∧ HasAdapter registry job db ∧ db' = { db with outbox := db'.outbox } ∨
      ¬(job.state = .running ∧ HasAdapter registry job db) ∧ ReconciliationEnded job db' := by
  obtain ⟨_, db₁, hrun, hr, hdb'⟩ := exists_of_pass h
  have hended (hended : ReconciliationEnded job db₁) : ReconciliationEnded job db' := by
    rw [ReconciliationEnded, hdb']
    exact hended
  have hitself (hends : reconciliationEnds job.state = true) : ReconciliationEnded job db :=
    ⟨job, hjob, rfl, rfl, hends⟩
  have hread : Avoids .deferred (getReconciliationWork job.tenantID job.id) :=
    (avoids_query fun _ ↦ selectRow_ne_deferred).bind fun _ ↦
      (avoids_query fun _ ↦ selectRow_ne_deferred).bind fun _ ↦ nofun
  rcases Runs.bind_cases hrun with ⟨e, rfl, hfailed⟩ | ⟨work, _, hwork, hrest⟩
  · rcases hr with hr | hr
    · cases hr
    · exact absurd (congrArg _ (Except.error.inj hr)) (hread.runs hfailed)
  obtain ⟨hjob', hconn, hsame⟩ := runs_getReconciliationWork hjob hwork
  obtain ⟨job', conn⟩ := work
  obtain rfl : job' = job := hjob'
  rw [hsame] at hrest
  dsimp only at hrest hconn
  split at hrest
  case isTrue hfinished =>
    cases hrest
    refine .inr ⟨?_, hended (hitself ?_)⟩
    · rcases hfinished with h | h <;> simp [h]
    · rcases hfinished with h | h <;> rw [h] <;> rfl
  case isFalse =>
    split at hrest
    case h_1 hnone =>
      have hnoAdapter : ¬HasAdapter registry job' db := by
        rintro ⟨_, hconn', hsome⟩
        obtain rfl := Except.ok.inj (hconn.symm.trans hconn')
        rw [hnone] at hsome
        cases hsome
      have hfail : Avoids .deferred
          (transaction fun _ ↦ failReconciliationJob job'.tenantID job'.id "unsupported") :=
        avoids_transaction fun _ _ ↦ nofun
      obtain rfl := hfail.eq_ok hrest hr
      refine .inr ⟨fun h ↦ hnoAdapter h.2, hended ?_⟩
      exact ended_of_close ⟨job', hjob, rfl, rfl⟩ hrest rfl (fun _ ↦ rfl) fun _ ↦ rfl
    case h_2 hsome =>
      have hadapter : HasAdapter registry job' db := ⟨conn, hconn, by rw [hsome]; rfl⟩
      rcases runs_startedJob hjob hrest hr with ⟨hscheduled, hdone⟩ | ⟨hstate, hkept⟩
      · refine .inr ⟨fun h ↦ ?_, hended hdone⟩
        rw [hscheduled] at h
        cases h.1
      · rw [hkept] at hdb' hended
        by_cases hrunning : job'.state = .running
        · exact .inl ⟨hrunning, hadapter, hdb'⟩
        · refine .inr ⟨fun h ↦ hrunning h.1, hended (hitself ?_)⟩
          cases hcase : job'.state with
          | scheduled => exact absurd hcase hstate
          | running => exact absurd hcase hrunning
          | completed | failed | canceled => rfl

theorem ReconciliationEnded.passes (hended : ReconciliationEnded job db) (h : ReflTransGen
      (Pass codec registry ⟨itemID, job.tenantID, .reconciliationJob, job.id⟩) db db') :
    ReconciliationEnded job db' := by
  induction h with
  | refl => exact hended
  | tail _ hpass ih =>
    obtain ⟨_, hj, htenant, hid, hends⟩ := ih
    rw [← htenant, ← hid] at hpass
    rcases pass_reconciliation hj hpass with ⟨hrunning, -⟩ | ⟨-, j', hj', htenant', hid', hends'⟩
    · rw [hrunning] at hends
      cases hends
    · exact ⟨j', hj', htenant'.trans htenant, hid'.trans hid, hends'⟩

/-- A running job with an adapter is deferred over and over. -/
theorem passes_of_running (hjob : job ∈ db.reconciliationJobs) (hrunning : job.state = .running)
    (hadapter : HasAdapter registry job db)
    (h : ReflTransGen
      (Pass codec registry ⟨itemID, job.tenantID, .reconciliationJob, job.id⟩) db db') :
    db' = { db with outbox := db'.outbox } := by
  induction h with
  | refl => rfl
  | @tail b c _ hpass ih =>
    have hjob' : job ∈ b.reconciliationJobs := by
      rw [ih]
      exact hjob
    have hadapter' : HasAdapter registry job b := by
      rw [ih]
      exact hadapter
    rcases pass_reconciliation hjob' hpass with ⟨-, -, hc⟩ | ⟨hnot, -⟩
    · rw [ih] at hc
      exact hc
    · exact absurd ⟨hrunning, hadapter'⟩ hnot

/-- After one or more passes a job has ended, unless it was running and its provider has an adapter. -/
theorem reconciliationEnded_iff (hjob : job ∈ db₁.reconciliationJobs)
    (h : TransGen (Pass codec registry ⟨itemID, job.tenantID, .reconciliationJob, job.id⟩) db₁
      db₂) :
    ReconciliationEnded job db₂ ↔ ¬(job.state = .running ∧ HasAdapter registry job db₁) := by
  by_cases hstuck : job.state = .running ∧ HasAdapter registry job db₁
  · have hkept := passes_of_running hjob hstuck.1 hstuck.2 h.to_reflTransGen
    refine iff_of_false ?_ (not_not_intro hstuck)
    rintro ⟨j, hj, -, hid, hends⟩
    rw [hkept] at hj
    obtain rfl := Table.eq_of_key_eq hj hjob hid
    rw [hstuck.1] at hends
    cases hends
  · obtain ⟨_, hfirst, hrest⟩ := TransGen.head'_iff.mp h
    rcases pass_reconciliation hjob hfirst with ⟨hrunning, hadapter, -⟩ | ⟨-, hended⟩
    · exact absurd ⟨hrunning, hadapter⟩ hstuck
    · exact iff_of_true (hended.passes hrest) hstuck

end ReconciliationJobs

/-! ## Interrupted replays -/

section Interruptions

variable {codec : PayloadCodec} {registry : ReconcileRegistry} {itemID : String} {job : ReplayJob}
  {db db₀ db₁ db₂ : DB}

/-- Creating deliveries leaves the rows of jobs alone. -/
theorem fanoutProperty_replayJobs :
    FanoutProperty codec fun _ p ↦ Changes (fun db db' ↦ db'.replayJobs = db.replayJobs) p := by
  refine fanoutProperty_changes (fun _ ↦ rfl) ?_ ?_
  · intro req env db result db' h
    obtain ⟨_, _, htaken⟩ := createDeliverySnapshot_taken h
    rw [htaken.frame]
  · intro tenantID jobID eventID mode errorText env db db' h
    obtain ⟨-, _, -, hdb'⟩ := require_insertRow_eq_ok.mp h
    cases hdb'
    rfl

/-- A started job runs until the transaction that completes it. -/
theorem interrupted_runReplayJob (h : Program.Interrupted (runReplayJob codec job.tenantID job.id work) db db₁) :
    db₁.replayJobs = db.replayJobs ∨
      Runs (runReplayJob codec job.tenantID job.id work) db (.ok ()) db₁ := by
  have hunchanged {α : Type} {p : Work α} {db' db'' : DB}
      (hp : Changes (fun db db' ↦ db'.replayJobs = db.replayJobs) p)
      (hstop : Program.Interrupted p db' db'') : db''.replayJobs = db'.replayJobs := by
    exact hp.interrupted (fun _ ↦ rfl) (fun _ _ _ h h' ↦ h'.trans h) hstop
  rcases Program.Interrupted.of_bind h with hevent | ⟨ofEvent, _, hevent, h₂⟩
  · exact .inl (hunchanged (fanoutProperty_replayJobs.replayEvent _ _ _) hevent)
  have hjobs₂ := hunchanged (fanoutProperty_replayJobs.replayEvent _ _ _) hevent.interrupted
  rcases h₂.of_bind with hdelivery | ⟨ofDelivery, db₃, hdelivery, h₃⟩
  · exact .inl ((hunchanged (fanoutProperty_replayJobs.replayDelivery _) hdelivery).trans hjobs₂)
  have hjobs₃ := hunchanged (fanoutProperty_replayJobs.replayDelivery _) hdelivery.interrupted
  rcases interrupted_transaction h₃ with rfl | ⟨_, _, hcommit⟩
  · exact .inl (hjobs₃.trans hjobs₂)
  · have hconnection : (⟨0, fun _ _ ↦ "", false, fun _ _ _ ↦ none⟩ : Env).connectionFails = false := rfl
    have hlast : Runs
        (transaction fun _ ↦ completeReplayJob job.tenantID job.id (ofEvent + ofDelivery)) db₃ (.ok ()) db₁ :=
      runs_of_transaction hconnection hcommit
    exact .inr (hevent.bind (hdelivery.bind hlast))

/-- A worker that processes a scheduled job stops before it is started, while it is running, or when all
is done. -/
theorem interrupted_replay (hjob : job ∈ db.replayJobs) (hscheduled : job.state = .scheduled)
    (h : Program.Interrupted (createReplayDeliveries codec job.tenantID job.id) db db₁) :
    db₁ = db ∨ (∃ j, RowOf job db₁ j ∧ j.state = .running) ∨
      Runs (createReplayDeliveries codec job.tenantID job.id) db (.ok ()) db₁ := by
  rcases h.of_bind with hquery | ⟨_, t, hread, hrest⟩
  · exact .inl (interrupted_query hquery)
  obtain ⟨hwork, hsame⟩ := runs_query hread
  obtain rfl := Except.ok.inj ((getReplayJobWork_of_mem hjob).symm.trans hwork)
  have hstate : job.work.state = .scheduled := hscheduled
  rw [hstate, hsame] at hrest
  rcases hrest.of_bind with hstart | ⟨started, _, hstarted, hrun⟩
  · rcases interrupted_transaction hstart with hsame' | ⟨_, _, hcommit⟩
    · exact .inl hsame'
    · exact .inr (.inl ⟨_, (started_of_startReplayJob hjob hscheduled hcommit).2, rfl⟩)
  · obtain ⟨_, hcommit⟩ := runs_transaction hstarted
    obtain ⟨rfl, hrow⟩ := started_of_startReplayJob hjob hscheduled hcommit
    rw [if_pos rfl] at hrun
    rcases interrupted_runReplayJob hrun with hjobs | hdone
    · refine .inr (.inl ⟨{ job with state := .running }, ?_, rfl⟩)
      rw [RowOf, hjobs]
      exact hrow
    · refine .inr (.inr (hread.bind ?_))
      rw [hstate, hsame]
      exact hstarted.bind hdone

/-- A job that was interrupted in its first processing and ends completed was carried out exactly once. -/
theorem runs_of_completed (hjob : job ∈ db₀.replayJobs) (hscheduled : job.state = .scheduled) (hstop : Program.Interrupted
      (processOutbox codec registry ⟨itemID, job.tenantID, .replayJob, job.id⟩) db₀ db₁)
    (hpasses : TransGen
      (Pass codec registry ⟨itemID, job.tenantID, .replayJob, job.id⟩) db₁ db₂)
    (hrow : RowOf job db₂ j) (hcompleted : j.state = .completed) :
    ∃ db, Runs (createReplayDeliveries codec job.tenantID job.id) db₀ (.ok ()) db ∧
      db₂ = { db with outbox := db₂.outbox } := by
  rcases interrupted_replay hjob hscheduled hstop with rfl | ⟨_, hrow', hrunning⟩ | hrun
  · obtain ⟨db, hrun, -, hkept⟩ := passes_of_scheduled hjob hscheduled hpasses
    exact ⟨db, hrun, hkept⟩
  · have hkept := passes_of_not_scheduled hrow' (by simp [hrunning]) hpasses.to_reflTransGen
    have hj : j ∈ db₁.replayJobs := by
      have hmem := hrow.1
      rwa [hkept] at hmem
    obtain rfl := Table.eq_of_key_eq hj hrow'.1 (hrow.2.2.trans hrow'.2.2.symm)
    cases hrunning.symm.trans hcompleted
  · obtain ⟨_, hrow', hended⟩ := ended_of_runs hjob hscheduled hrun
    exact ⟨db₁, hrun, passes_of_not_scheduled hrow' (ReplayEnded.not_scheduled hended)
      hpasses.to_reflTransGen⟩

end Interruptions

/-! ## Selected deliveries -/

/-- The request of the job selects the delivery: as one of its event in original mode, or by its name. -/
def Selects (job : ReplayJob) (d : Delivery) : Prop :=
  d.tenantID = job.tenantID ∧
    (job.configMode = .original ∧ job.request.eventID ≠ "" ∧ d.eventID = job.request.eventID ∧
        d.replayJobID = "" ∨
      job.request.deliveryID ≠ "" ∧ d.id = job.request.deliveryID)

/-- The request selects no delivery twice, and in current mode the delivery that it names still has an
active target. -/
structure SelectsOnce (job : ReplayJob) (db : DB) : Prop where
  apart : job.configMode = .original → job.request.eventID ≠ "" → ∀ d ∈ db.deliveries,
    d.tenantID = job.tenantID → d.id = job.request.deliveryID → d.eventID = job.request.eventID →
      d.replayJobID ≠ ""
  active : job.configMode = .current → ∀ d ∈ db.deliveries, d.tenantID = job.tenantID →
    d.id = job.request.deliveryID → TargetActive job.tenantID d.routeID d.subscriptionID db

section Selected

variable {codec : PayloadCodec} {plan : List DeliverySnapshotRequest} {tenantID eventID deliveryID jobID : String}
  {opts : DeliveryFanoutOptions} {mode : ConfigMode} {job : ReplayJob} {d : Delivery} {db db' : DB}

/-- An original delivery of the event is in its plan once. -/
theorem countP_originalPlan (hd : d ∈ db.deliveries) :
    (originalPlan tenantID opts (listOriginalDeliveryReplaySources tenantID eventID db)).countP
        (·.originalDeliveryID == d.id) =
      if d.tenantID = tenantID ∧ d.eventID = eventID ∧ d.replayJobID = "" then 1 else 0 := by
  have hperm := List.perm_insertionSort
    (fun d d' : Delivery ↦ d.createdAt < d'.createdAt ∨ d.createdAt = d'.createdAt ∧ d.id ≤ d'.id)
    (originalDeliveries tenantID eventID db)
  have hcount : (originalPlan tenantID opts (listOriginalDeliveryReplaySources tenantID eventID db)).countP
      (·.originalDeliveryID == d.id) =
      (originalDeliveries tenantID eventID db).countP (·.id == d.id) := by
    rw [originalPlan, listOriginalDeliveryReplaySources, List.map_map, List.countP_map, hperm.countP_eq]
    rfl
  rw [hcount]
  split
  case isTrue hmatch =>
    rw [List.countP_eq_length_filter, originalDeliveries, List.filter_filter,
      Table.filter_eq_singleton hd (by simp [hmatch]), List.length_singleton]
    intro d' hd' hmatch'
    simp only [Bool.and_eq_true, beq_iff_eq] at hmatch'
    exact Table.eq_of_key_eq hd' hd hmatch'.1
  case isFalse hnot =>
    rw [List.countP_eq_zero]
    intro d' hd' hid
    obtain ⟨hmem, hmatch⟩ := List.mem_filter.mp hd'
    obtain rfl := Table.eq_of_key_eq hmem hd (beq_iff_eq.mp hid)
    simp only [Bool.and_eq_true, beq_iff_eq, and_assoc] at hmatch
    exact hnot hmatch

/-- The requests for an event in current mode. -/
theorem request_of_currentPlan (hreq : req ∈ currentPlan tenantID opts eventID db) :
    ∃ target, targetRequest tenantID eventID target opts 0 = req := by
  unfold currentPlan at hreq
  split at hreq
  · cases hreq
  · split at hreq
    · obtain ⟨target, -, hreq⟩ := List.mem_map.mp hreq
      exact ⟨target, hreq⟩
    · cases hreq

theorem countP_eventPlan (hd : d ∈ db.deliveries) (hid : d.id ≠ "") :
    (eventPlan tenantID opts mode eventID db).countP (·.originalDeliveryID == d.id) =
      if mode = .original ∧ eventID ≠ "" ∧ d.tenantID = tenantID ∧ d.eventID = eventID ∧ d.replayJobID = ""
        then 1 else 0 := by
  unfold eventPlan
  split
  case isTrue hempty => simp [hempty]
  case isFalse hevent =>
    cases mode with
    | original =>
      rw [countP_originalPlan hd]
      simp [hevent]
    | current =>
      -- what is created for an event in current mode replays no delivery
      have hnone : ∀ req ∈ currentPlan tenantID opts eventID db, ¬(req.originalDeliveryID == d.id) = true := by
        intro req hreq horiginal
        obtain ⟨_, rfl⟩ := request_of_currentPlan hreq
        exact hid (beq_iff_eq.mp horiginal).symm
      rw [List.countP_eq_zero.mpr hnone]
      simp

/-- The request for a named delivery. -/
theorem request_of_deliveryPlan (hreq : req ∈ deliveryPlan tenantID opts deliveryID db) :
    req.originalDeliveryID = deliveryID ∧ req.replayJobID = opts.replayJobID := by
  unfold deliveryPlan at hreq
  split at hreq
  · cases hreq
  unfold existingPlan at hreq
  split at hreq
  · cases hreq
  · obtain ⟨_, hreq', rfl⟩ := Option.map_eq_some_iff.mp (Option.mem_toList.mp hreq)
    rw [existingPayloadMode_frame]
    unfold existingTarget at hreq'
    split at hreq'
    · obtain ⟨_, -, rfl⟩ := Option.map_eq_some_iff.mp hreq'
      exact ⟨rfl, rfl⟩
    · cases hreq'
      exact ⟨rfl, rfl⟩

/-- A named delivery that still has a target is in its plan once. -/
theorem countP_deliveryPlan (hd : d ∈ db.deliveries) (hmode : opts.configMode = some mode)
    (hactive : mode = .current → d.tenantID = tenantID → d.id = deliveryID →
      TargetActive tenantID d.routeID d.subscriptionID db) :
    (deliveryPlan tenantID opts deliveryID db).countP (·.originalDeliveryID == d.id) =
      if deliveryID ≠ "" ∧ d.tenantID = tenantID ∧ d.id = deliveryID then 1 else 0 := by
  have honly {d' : Delivery} (hd' : d' ∈ db.deliveries) (hid : d'.id = d.id) : d' = d :=
    Table.eq_of_key_eq hd' hd hid
  split
  case isTrue hnamed =>
    obtain ⟨hne, htenant, rfl⟩ := hnamed
    have hall : (deliveryPlan tenantID opts d.id db).countP (·.originalDeliveryID == d.id) =
        (deliveryPlan tenantID opts d.id db).length := by
      rw [List.countP_eq_length]
      exact fun req hreq ↦ beq_iff_eq.mpr (request_of_deliveryPlan hreq).1
    have hone : deliveryCount tenantID db d.id = 1 := by
      rw [deliveryCount, if_neg hne, Table.filter_eq_singleton hd (by simp [htenant]), List.length_singleton]
      intro d' hd' hmatch
      rw [Bool.and_eq_true, beq_iff_eq, beq_iff_eq] at hmatch
      exact honly hd' hmatch.2
    rw [hall, (reaches_deliveryPlan hmode).eq_iff.mpr, hone]
    intro hcurrent _ d' hd' _ hid
    rw [honly hd' hid]
    exact hactive hcurrent htenant rfl
  case isFalse hnot =>
    rw [List.countP_eq_zero]
    intro req hreq horiginal
    have hid : d.id = deliveryID :=
      (beq_iff_eq.mp horiginal).symm.trans (request_of_deliveryPlan hreq).1
    unfold deliveryPlan at hreq
    split at hreq
    · cases hreq
    case isFalse hne =>
      rw [existingPlan_eq_nil] at hreq
      · cases hreq
      · intro d' hd' htenant' hid'
        rw [honly hd' (hid'.trans hid.symm)] at htenant'
        exact hnot ⟨hne, htenant', hid⟩

/-- A selected delivery is in the plan of its job once. -/
theorem countP_replayPlan (hd : d ∈ db.deliveries) (hid : d.id ≠ "") (hselects : Selects job d)
    (honce : SelectsOnce job db) :
    (replayPlan job.tenantID job.id job.work db).countP (·.originalDeliveryID == d.id) = 1 := by
  change (eventPlan _ _ job.configMode job.request.eventID db ++
    deliveryPlan _ _ job.request.deliveryID db).countP _ = 1
  rw [List.countP_append, countP_eventPlan hd hid,
    countP_deliveryPlan hd rfl fun hcurrent ↦ honce.active hcurrent d hd]
  obtain ⟨htenant, horiginal | hname⟩ := hselects
  · have hother : ¬(job.request.deliveryID ≠ "" ∧ d.tenantID = job.tenantID ∧ d.id = job.request.deliveryID) :=
      fun h ↦ honce.apart horiginal.1 horiginal.2.1 d hd htenant h.2.2 horiginal.2.2.1 horiginal.2.2.2
    rw [if_pos ⟨horiginal.1, horiginal.2.1, htenant, horiginal.2.2⟩, if_neg hother]
  · have hother : ¬(job.configMode = .original ∧ job.request.eventID ≠ "" ∧ d.tenantID = job.tenantID ∧
        d.eventID = job.request.eventID ∧ d.replayJobID = "") :=
      fun h ↦ honce.apart h.1 h.2.1 d hd htenant hname.2 h.2.2.2.1 h.2.2.2.2
    rw [if_neg hother, if_pos ⟨hname.1, htenant, hname.2⟩]

theorem replayJobID_of_replayPlan
    (hreq : req ∈ replayPlan job.tenantID job.id job.work db) : req.replayJobID = job.id := by
  rcases List.mem_append.mp hreq with hevent | hdelivery
  · unfold eventPlan at hevent
    split at hevent
    · cases hevent
    · split at hevent
      · obtain ⟨_, -, rfl⟩ := List.mem_map.mp hevent
        rfl
      · obtain ⟨_, rfl⟩ := request_of_currentPlan hevent
        rfl
  · exact (request_of_deliveryPlan hdelivery).2

/-- The items that record what was carried out. -/
theorem fulfils_items (h : Fulfils codec plan db db') (hjob : ∀ req ∈ plan, req.replayJobID = jobID)
    (hne : jobID ≠ "") :
    ∃ items, db'.replayItems.rows = db.replayItems.rows ++ items ∧
      (∀ original, original ≠ "" → items.countP (·.originalDeliveryID == original) =
        plan.countP (·.originalDeliveryID == original)) ∧
      ∀ req ∈ plan, ∃ i ∈ items, ∃ d ∈ db'.deliveries, d.replayJobID = jobID ∧ i.replayJobID = jobID ∧
        i.newDeliveryID = d.id ∧ i.originalDeliveryID = req.originalDeliveryID := by
  induction h with
  | nil => exact ⟨[], by simp, fun _ _ ↦ rfl, nofun⟩
  | @create _ db₁ _ req _ at' env _ commits rest ih =>
    obtain ⟨ref, p, htaken⟩ := createDeliverySnapshot_taken commits
    have hreq : req.replayJobID = jobID := hjob req List.mem_cons_self
    have hthis : ¬({ req with nextAttemptAt := at' } : DeliverySnapshotRequest).replayJobID = "" :=
      fun hempty ↦ hne (hreq.symm.trans hempty)
    have hitems := htaken.items
    rw [if_neg hthis] at hitems
    obtain ⟨items, hrows, hcount, hall⟩ := ih fun r hr ↦ hjob r (List.mem_cons_of_mem _ hr)
    refine ⟨replayItemRow env { req with nextAttemptAt := at' } (snapshotResult env ref p.sha256) :: items, ?_, ?_, ?_⟩
    · rw [hrows, hitems, List.append_assoc, List.singleton_append]
    · intro original horiginal
      rw [List.countP_cons, List.countP_cons, hcount original horiginal]
      rfl
    · intro r hr
      rcases List.mem_cons.mp hr with rfl | hr
      · have hnew : (deliveryRow codec.crypto env { r with nextAttemptAt := at' }).withPayload ref ∈
            db₁.deliveries := by
          exact (Table.mem_of_rows_append htaken.deliveries).mpr (.inr rfl)
        exact ⟨_, List.mem_cons_self, _, rest.mem hnew, hreq, hreq, rfl, rfl⟩
      · obtain ⟨i, hi, d, hrest⟩ := hall r hr
        exact ⟨i, List.mem_cons_of_mem _ hi, d, hrest⟩
  | @note _ _ _ _ replays _ ih =>
    obtain ⟨noted, hnoted, hempty⟩ := replays.items
    obtain ⟨items, hrows, hcount, hall⟩ := ih hjob
    refine ⟨noted ++ items, by rw [hrows, hnoted, List.append_assoc], ?_, ?_⟩
    · intro original horiginal
      have hnone : noted.countP (·.originalDeliveryID == original) = 0 := by
        rw [List.countP_eq_zero]
        intro i hi hmatch
        exact horiginal ((beq_iff_eq.mp hmatch).symm.trans (hempty i hi).1)
      rw [List.countP_append, hnone, hcount original horiginal, Nat.zero_add]
    · intro r hr
      obtain ⟨i, hi, hrest⟩ := hall r hr
      exact ⟨i, List.mem_append_right _ hi, hrest⟩

/-- What is in the plan once has one new delivery. -/
theorem existsUnique_replayed (h : Fulfils codec plan db db')
    (hjob : ∀ req ∈ plan, req.replayJobID = jobID) (hne : jobID ≠ "")
    (hfirst : ∀ i ∈ db.replayItems, i.replayJobID ≠ jobID) (horiginal : original ≠ "")
    (hcount : plan.countP (·.originalDeliveryID == original) = 1) :
    ∃! d, d ∈ db'.deliveries ∧ d.replayJobID = jobID ∧ Replays db' d original := by
  obtain ⟨items, hrows, hcounts, hall⟩ := fulfils_items h hjob hne
  obtain ⟨req, hreq, hmatch⟩ := List.countP_pos_iff.mp (hcount.symm ▸ Nat.one_pos)
  obtain ⟨i, hi, d, hd, hdjob, hijob, hnew, hioriginal⟩ := hall req hreq
  have hmem : i ∈ db'.replayItems.rows := by
    rw [hrows]
    exact List.mem_append_right _ hi
  refine ⟨d, ⟨hd, hdjob, i, hmem, hijob.trans hdjob.symm, hnew,
    hioriginal.trans (beq_iff_eq.mp hmatch)⟩, ?_⟩
  rintro _ ⟨hd', hdjob', i', hi', hijob', hnew', horiginal'⟩
  -- an item of the job is one of the new ones, and only one of these is for the original
  have hi'new : i' ∈ items := by
    rw [hrows] at hi'
    rcases List.mem_append.mp hi' with hold | hnew
    · exact absurd (hijob'.trans hdjob') (hfirst i' hold)
    · exact hnew
  have hone : items.countP (·.originalDeliveryID == original) ≤ 1 := by
    rw [hcounts original horiginal, hcount]
  obtain rfl : i' = i := by
    apply Table.eq_of_countP_le_one hone hi'new hi
    · exact beq_iff_eq.mpr horiginal'
    · exact beq_iff_eq.mpr (hioriginal.trans (beq_iff_eq.mp hmatch))
  exact Table.eq_of_key_eq hd' hd (hnew'.symm.trans hnew)

end Selected

/-! ## Recovery -/

/-- However the processing of a job was interrupted, the passes over its item end a replay job exactly if
it was left scheduled or ended, and a reconciliation job exactly if it was not left running with an adapter
for its provider. A replay job that ends completed was carried out once: its deliveries are those of its
plan, and every delivery that it selects, and selects once, has one new delivery. -/
theorem interrupted_jobs_recover (codec : PayloadCodec) (registry : ReconcileRegistry) (itemID : String) :
    (∀ (job : ReplayJob) (db₁ db₂ : DB), job ∈ db₁.replayJobs →
      TransGen (Pass codec registry ⟨itemID, job.tenantID, .replayJob, job.id⟩) db₁ db₂ →
        (ReplayEnded job db₂ ↔
          job.state = .scheduled ∨ job.state = .completed ∨ job.state = .canceled)) ∧
    (∀ (job : ReconciliationJob) (db₁ db₂ : DB), job ∈ db₁.reconciliationJobs →
      TransGen (Pass codec registry ⟨itemID, job.tenantID, .reconciliationJob, job.id⟩) db₁ db₂ →
        (ReconciliationEnded job db₂ ↔ ¬(job.state = .running ∧ HasAdapter registry job db₁))) ∧
    ∀ (job : ReplayJob) (db₀ db₁ db₂ : DB), job ∈ db₀.replayJobs → job.id ≠ "" → job.state = .scheduled →
      (∀ i ∈ db₀.replayItems, i.replayJobID ≠ job.id) →
      Program.Interrupted (processOutbox codec registry ⟨itemID, job.tenantID, .replayJob, job.id⟩) db₀ db₁ →
      TransGen (Pass codec registry ⟨itemID, job.tenantID, .replayJob, job.id⟩) db₁ db₂ →
      (∃ j, RowOf job db₂ j ∧ j.state = .completed) → FreshFor job db₀ db₂ →
        (∃ created, db₂.deliveries.rows = db₀.deliveries.rows ++ created ∧
          List.Forall₂ (MadeFor codec) (replayPlan job.tenantID job.id job.work db₀) created) ∧
        (SelectsOnce job db₀ → ∀ d ∈ db₀.deliveries, d.id ≠ "" → Selects job d →
          ∃! d', d' ∈ db₂.deliveries ∧ d'.replayJobID = job.id ∧ Replays db₂ d' d.id) := by
  refine ⟨fun job db₁ db₂ hjob hpasses ↦ replayEnded_iff hjob hpasses,
    fun job db₁ db₂ hjob hpasses ↦ reconciliationEnded_iff hjob hpasses, ?_⟩
  rintro job db₀ _ _ hjob hne hscheduled hfirst hstop hpasses ⟨j, hrow, hcompleted⟩ hfresh
  obtain ⟨db, hrun, hdb₂⟩ := runs_of_completed hjob hscheduled hstop hpasses hrow hcompleted
  have hfresh' : FreshFor job db₀ db := by
    rw [hdb₂] at hfresh
    exact hfresh
  obtain ⟨part, -, hdone, hall⟩ := plan_of_createReplayDeliveries hjob hrun hfresh'
  have hplan : part = replayPlan job.tenantID job.id job.work db₀ := by
    rw [(hall rfl).1, jobPlan, if_pos hscheduled]
  rw [hplan] at hdone
  refine ⟨?_, fun honce d hd hid hselects ↦ ?_⟩
  · rw [hdb₂]
    exact hdone.deliveries
  · have hunique := existsUnique_replayed hdone (fun req hreq ↦ replayJobID_of_replayPlan hreq) hne hfirst
      hid (countP_replayPlan hd hid hselects honce)
    rw [hdb₂]
    exact hunique

/-! ### A replay of the shop -/

/-- The item of the replay. -/
def replayItem : OutboxItem := ⟨"out_100", "t", .replayJob, "rpl_100"⟩

/-- What one pass leaves. -/
def recoveredState : DB :=
  ((handleItem shopCodec (fun _ _ ↦ none) replayItem).run (shopFrom 110)
    (requestedRun originalReplay).2.state).2

/-- A worker that stops before it starts the job leaves it to the next one, which replays both
deliveries of the event once. -/
theorem shop_replay_recovers :
    ∃ job ∈ (requestedRun originalReplay).2.state.replayJobs, ReplayEnded job recoveredState ∧
      ∀ d ∈ (requestedRun originalReplay).2.state.deliveries, d.id = "del_15" ∨ d.id = "del_17" →
        ∃! d', d' ∈ recoveredState.deliveries ∧ d'.replayJobID = job.id ∧ Replays recoveredState d' d.id := by
  obtain ⟨job, hmem, htenant, hid, hstate, hmode, hevent, hdelivery⟩ :
      ∃ j ∈ (requestedRun originalReplay).2.state.replayJobs.rows, j.tenantID = "t" ∧ j.id = "rpl_100" ∧
        j.state = .scheduled ∧ j.configMode = .original ∧ j.request.eventID = "evt_1" ∧
        j.request.deliveryID = "" := by decide +kernel
  obtain ⟨j, hj, hjtenant, hjid, hjstate⟩ : ∃ j ∈ recoveredState.replayJobs.rows,
      j.tenantID = "t" ∧ j.id = "rpl_100" ∧ j.state = .completed := by decide +kernel
  have hitems : ∀ i ∈ (requestedRun originalReplay).2.state.replayItems.rows, i.replayJobID ≠ "rpl_100" := by
    decide +kernel
  have hnamed : ∀ d ∈ recoveredState.deliveries.rows, d.id ≠ "" := by decide +kernel
  have hdeliveries : ∀ d ∈ (requestedRun originalReplay).2.state.deliveries.rows,
      d.tenantID = "t" ∧ d.eventID = "evt_1" ∧ d.replayJobID = "" ∧ d.id ≠ "" := by decide +kernel
  have hpass : TransGen
      (Pass shopCodec (fun _ _ ↦ none) ⟨"out_100", job.tenantID, .replayJob, job.id⟩)
      (requestedRun originalReplay).2.state recoveredState := by
    rw [htenant, hid]
    exact .single (Program.runs_of_isOk (by decide +kernel))
  obtain ⟨hends, -, honce⟩ := interrupted_jobs_recover shopCodec (fun _ _ ↦ none) "out_100"
  refine ⟨job, hmem, (hends job _ _ hmem hpass).mpr (.inl hstate), fun d hd hdid ↦ ?_⟩
  have hrow : RowOf job recoveredState j := ⟨hj, hjtenant.trans htenant.symm, hjid.trans hid.symm⟩
  have hfresh : FreshFor job (requestedRun originalReplay).2.state recoveredState := by
    intro d' hd' hempty
    exact absurd (hempty.trans hdelivery) (hnamed d' hd')
  have hselectsOnce : SelectsOnce job (requestedRun originalReplay).2.state := by
    constructor
    · intro _ _ d' hd' _ hempty
      exact absurd (hempty.trans hdelivery) (hdeliveries d' hd').2.2.2
    · intro hcurrent
      rw [hmode] at hcurrent
      cases hcurrent
  obtain ⟨hdtenant, hdevent, hdjob, hdne⟩ := hdeliveries d hd
  refine (honce job _ _ recoveredState hmem (by simp [hid]) hstate (hid ▸ hitems) (.here _ _) hpass
    ⟨j, hrow, hjstate⟩ hfresh).2 hselectsOnce d hd hdne ⟨hdtenant.trans htenant.symm, .inl ⟨hmode, by simp [hevent],
      hdevent.trans hevent.symm, hdjob⟩⟩

/-- A worker starts the job and crashes; the lease of its item expires, and another worker processes the
item. -/
def abandonedRun : AppRun :=
  runScript
    (routedScript ++
      [.start (.createReplay "t" "alice" originalReplay), .go 1 20 (fun _ ↦ shopEnv 100),
        .start (shopWorker "worker_1"), .go 2 3 (shopFrom 110),
        .crash 2, .start (shopWorker "worker_2"),
        .go 2 20 (fun n ↦ { shopFrom 130 n with now := 2 * leaseTime })])
    shopQueued

/-- The item is completed, the job still runs, and nothing was replayed. -/
theorem abandoned_replay_stuck :
    App.system.Run VersionsAgree abandonedRun.1 abandonedRun.2 ∧
      abandonedRun.2.state.outbox.rows.map (fun o ↦ (o.kind, o.resourceID, o.state)) =
        [(.routeEvent, "evt_1", .completed), (.replayJob, "rpl_100", .completed)] ∧
      abandonedRun.2.state.replayJobs.rows.map (fun j ↦ (j.id, j.state)) = [("rpl_100", .running)] ∧
      abandonedRun.2.state.deliveries.rows.map (fun d ↦ (d.id, d.replayJobID)) =
        [("del_15", ""), ("del_17", "")] :=
  ⟨run_runScript versionsAgree_shopQueued, by decide +kernel, by decide +kernel, by decide +kernel⟩

end Webhookery.Replay
