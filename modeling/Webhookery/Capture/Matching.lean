import Webhookery.Capture.Recovery
import Webhookery.Machine.Outside

/-!
# Reconciliation beside forged requests

A job counts an object as matched when any event carries its identifier, also one whose signature did not verify.
As long as no such event is the first of its object, what is matched was sent by the provider.
-/

namespace Webhookery.Capture

open Go Store Relational Provider App Machine Concurrency
open Program (Changes Runs)

/-- The signature of the event verified, or it was recovered from the provider's API. -/
def Genuine (e : Event) : Prop := e.verified = true ∨ e.verifyReason = verificationReasonProviderAPIReconcile

instance (e : Event) : Decidable (Genuine e) := inferInstanceAs (Decidable (_ ∨ _))

/-- A genuine event of a provider's object is stored. -/
def Received (db : DB) (tenantID provider objectID : String) : Prop :=
  ∃ e ∈ db.events, Genuine e ∧ e.tenantID = tenantID ∧ e.provider = provider ∧ e.providerID = objectID

/-- A genuine event of the object that an event is about is stored. -/
def Vouched (db : DB) (e : Event) : Prop := Received db e.tenantID e.provider e.providerID

/-- The call writes a genuine event, or one about an object of which a genuine event is stored. -/
def GenuineFirst (crypto : Crypto) (call : Call) (db : DB) : Prop :=
  Genuine (call.event crypto) ∨ Vouched db (call.event crypto)

/-- Objects that count as matched have a genuine event. -/
def MatchedGenuine (db : DB) : Prop :=
  ∀ item ∈ db.reconciliationItems, item.outcome = .matched → Received db item.tenantID item.provider item.objectID

/-- A capture, or the reconciliation of one object by a job. -/
inductive Step (crypto : Crypto) (Condition : Call → DB → Prop) (db db' : DB) : Prop
  | capture (call : Call) (condition : Condition call db) (commits : call.Commits crypto db db')
  | reconcile (adapter : ReconcileAdapter) (job : ReconciliationJob) (conn : ProviderConnection) (n : Nat)
      (object : ProviderObject) (r : Except StoreError Unit)
      (runs : Runs (reconcileProviderObject crypto adapter job conn n object) db r db')

/-! ## What captures keep -/

/-- Events stay, every one remains vouched for, and no item is added. -/
structure Kept (db db' : DB) : Prop where
  events : ∀ e ∈ db.events, e ∈ db'.events
  vouched : (∀ e ∈ db.events, Vouched db e) → ∀ e ∈ db'.events, Vouched db' e
  items : db'.reconciliationItems = db.reconciliationItems

theorem Kept.refl (db : DB) : Kept db db := ⟨fun _ he ↦ he, fun h ↦ h, rfl⟩

theorem Kept.trans (h : Kept db₁ db₂) (h' : Kept db₂ db₃) : Kept db₁ db₃ :=
  ⟨fun e he ↦ h'.events e (h.events e he), fun hv ↦ h'.vouched (h.vouched hv), h'.items.trans h.items⟩

theorem Received.mono (h : Received db tenantID provider objectID) (hevents : ∀ e ∈ db.events, e ∈ db'.events) :
    Received db' tenantID provider objectID := by
  obtain ⟨e, he, hsame⟩ := h
  exact ⟨e, hevents e he, hsame⟩

theorem Kept.of_eq (hevents : db'.events = db.events) (hitems : db'.reconciliationItems = db.reconciliationItems) :
    Kept db db' := by
  refine ⟨fun e he ↦ hevents ▸ he, fun h e he ↦ ?_, hitems⟩
  exact (h e (hevents ▸ he)).mono fun e he ↦ hevents ▸ he

theorem Call.Commits.kept (h : call.Commits crypto db db') (hfirst : GenuineFirst crypto call db) : Kept db db' := by
  have hitems : db'.reconciliationItems = db.reconciliationItems := by
    obtain ⟨_, _, _, hcommitted⟩ := h.committed
    rw [hcommitted.frame]
  rcases h.events_cases with ⟨-, hrows⟩ | hsame
  · have hevents : ∀ e ∈ db.events, e ∈ db'.events := fun e he ↦ (Table.mem_of_rows_append hrows).mpr (.inl he)
    refine ⟨hevents, fun hvouched e he ↦ ?_, hitems⟩
    rcases (Table.mem_of_rows_append hrows).mp he with hold | rfl
    · exact (hvouched e hold).mono hevents
    · rcases hfirst with hgenuine | hvouched
      · exact ⟨_, he, hgenuine, rfl, rfl, rfl⟩
      · exact hvouched.mono hevents
  · exact .of_eq hsame hitems

/-! ## What a job keeps -/

section Jobs

variable {crypto : Crypto} {adapter : ReconcileAdapter} {job : ReconciliationJob} {conn : ProviderConnection} {n : Nat}
  {object : ProviderObject}

theorem kept_captureRecoveredProviderEvent (input : RecoveredCapture) :
    Changes Kept (captureRecoveredProviderEvent crypto input) := by
  refine changes_captureRecoveredProviderEvent .refl (fun _ _ _ _ _ _ _ h ↦ ?_) (fun _ _ _ _ _ h ↦ ?_) input
  · exact Call.Commits.kept (.recovered h) (.inl (.inr rfl))
  · obtain ⟨_, hinsert, h⟩ := bind_eq_ok.mp h
    cases h
    obtain ⟨_, -, rfl⟩ := insertOutbox_eq_ok.mp hinsert
    exact .of_eq rfl rfl

/-- A recovery does not end as a match. -/
theorem matched_of_recoverObject
    (hrun : Runs (recoverObject crypto adapter job conn n object localEventID) db (.ok progress) db')
    (hmatched : progress.outcome = .matched) : localEventID ≠ "" := by
  unfold recoverObject at hrun
  split at hrun
  case isTrue hlocal => exact hlocal
  case isFalse =>
    exfalso
    split at hrun
    · obtain ⟨_, _, -, hrun⟩ := hrun.of_bind
      split at hrun
      · unfold captureMissing at hrun
        split at hrun
        · obtain ⟨captured, _, -, hrun⟩ := hrun.of_bind
          cases captured <;> cases (Runs.of_done hrun).1 <;> cases hmatched
        · cases (Runs.of_done hrun).1
          cases hmatched
      all_goals
        cases (Runs.of_done hrun).1
        cases hmatched
    · cases (Runs.of_done hrun).1
      cases hmatched

theorem matched_of_redeliver (hrun : Runs (redeliver adapter job n object progress) db (.ok (progress', b)) db')
    (hmatched : progress'.outcome = .matched) : progress.outcome = .matched := by
  unfold redeliver at hrun
  split at hrun
  · obtain ⟨_, _, -, hrun⟩ := hrun.of_bind
    split at hrun <;> cases (Runs.of_done hrun).1 <;> cases hmatched
  · cases (Runs.of_done hrun).1
    exact hmatched

theorem exists_of_findLocalProviderEvent (h : findLocalProviderEvent tenantID conn objectID db ≠ "") :
    ∃ e ∈ db.events, e.tenantID = tenantID ∧ e.provider = conn.provider ∧ e.providerID = objectID := by
  unfold findLocalProviderEvent at h
  split at h
  case h_1 e hfirst =>
    obtain ⟨he, hmatch⟩ := Table.mem_of_firstIn hfirst
    simp only [Bool.and_eq_true, beq_iff_eq] at hmatch
    exact ⟨e, he, hmatch.1.1.1, hmatch.1.1.2, hmatch.1.2⟩
  case h_2 => exact absurd rfl h

structure Sound (db : DB) : Prop where
  vouched : ∀ e ∈ db.events, Vouched db e
  matched : MatchedGenuine db

theorem Sound.kept (h : Sound db) (hkept : Kept db db') : Sound db' := by
  refine ⟨hkept.vouched h.vouched, fun item hitem hmatched ↦ ?_⟩
  exact (h.matched item (hkept.items ▸ hitem) hmatched).mono hkept.events

theorem Kept.runs {p : Work α} (hp : Changes Kept p) (hrun : Runs p db r db') : Kept db db' :=
  hp.interrupted .refl (fun _ _ _ ↦ .trans) hrun.interrupted

theorem Sound.insert (h : Sound db) (hinsert : insertReconciliationItem item env db = .ok (itemID, db'))
    (hitem : item.outcome = .matched → Received db item.tenantID item.provider item.objectID) : Sound db' := by
  obtain ⟨_, -, hinsert⟩ := bind_eq_ok.mp hinsert
  obtain ⟨_, ht, hinsert⟩ := bind_eq_ok.mp hinsert
  cases hinsert
  refine ⟨h.vouched, fun item' hitem' hmatched ↦ ?_⟩
  rcases (Table.mem_insert? (insertRow_eq_ok.mp ht)).mp hitem' with hold | rfl
  · exact h.matched item' hold hmatched
  · exact hitem hmatched

theorem Sound.reconcile (h : Sound db)
    (hrun : Runs (reconcileProviderObject crypto adapter job conn n object) db r db') : Sound db' := by
  suffices hensures : Program.Ensures (reconcileProviderObject crypto adapter job conn n object) db fun _ db' ↦ Sound db' from
    hensures _ _ hrun
  refine ensures_query (fun localEventID hlocal ↦ ?_) fun _ ↦ h
  have hreceived (hne : localEventID ≠ "") : Received db job.tenantID conn.provider object.id := by
    rw [← Except.ok.inj hlocal] at hne
    obtain ⟨e, he, htenant, hprovider, hid⟩ := exists_of_findLocalProviderEvent hne
    rw [← htenant, ← hprovider, ← hid]
    exact h.vouched e he
  have hrecover : Program.Ensures (recoverObject crypto adapter job conn n object localEventID) db fun r t ↦
      Kept db t ∧ ∀ progress, r = .ok progress → progress.outcome = .matched → localEventID ≠ "" :=
    fun r t hrun ↦ ⟨.runs (changes_recoverObject .refl kept_captureRecoveredProviderEvent) hrun,
      fun progress hr ↦ matched_of_recoverObject (hr ▸ hrun)⟩
  refine hrecover.bind (fun progress t ⟨hkept, hmatched⟩ ↦ ?_) fun _ _ hq ↦ h.kept hq.1
  have hredeliver : Program.Ensures (redeliver adapter job n object progress) t fun r t' ↦
      Kept t t' ∧ ∀ p, r = .ok p → p.1.outcome = .matched → progress.outcome = .matched :=
    fun r t' hrun ↦ ⟨.runs (changes_redeliver .refl) hrun, fun p hr ↦ matched_of_redeliver (hr ▸ hrun)⟩
  refine hredeliver.bind (fun p t' ⟨hkept', hmatched'⟩ ↦ ?_) fun _ _ hq ↦ h.kept (hkept.trans hq.1)
  have hsound := h.kept (hkept.trans hkept')
  refine (ensures_transaction (Q := fun _ db' ↦ Sound db') (fun env id db' hinsert ↦ ?_) fun _ ↦ hsound).bind
    (fun _ _ hsound' _ _ hrun ↦ ?_) fun _ _ hq ↦ hq
  · refine hsound.insert hinsert fun houtcome ↦ ?_
    exact (hreceived (hmatched _ rfl (hmatched' _ rfl houtcome))).mono (hkept.trans hkept').events
  · have hattach : Changes Kept (attachEvidence p.1.evidenceID) := by
      unfold attachEvidence
      refine .ite trivial (changes_transaction .refl fun env u _ u' h ↦ ?_)
      cases h
      exact .refl u
    exact hsound'.kept (.runs hattach hrun)

end Jobs

/-- In every history in which the first event of an object is genuine, matched objects have a genuine event. -/
theorem matched_items_genuine (crypto : Crypto) (db₀ db : DB) (hevents : db₀.events.rows = [])
    (hitems : db₀.reconciliationItems.rows = [])
    (h : Relation.ReflTransGen (Step crypto (GenuineFirst crypto)) db₀ db) : MatchedGenuine db := by
  suffices hsound : Sound db from hsound.matched
  induction h with
  | refl =>
    exact ⟨fun e he ↦ absurd he (Table.not_mem_of_rows_eq_nil hevents),
      fun item hitem ↦ absurd hitem (Table.not_mem_of_rows_eq_nil hitems)⟩
  | tail _ hstep ih =>
    cases hstep with
    | capture _ condition commits => exact ih.kept (commits.kept condition)
    | reconcile _ _ _ n _ r runs => exact ih.reconcile runs

/-! ### An object of the payments source -/

def payJob : ReconciliationJob := ⟨"rec_1", "t", "pc_1", .running, true, false, false, "", ⟨0, 0, 0, 0, 0, 0, 0⟩, ""⟩

def payObject : ProviderObject := ⟨"evt_1", "charge.succeeded", false, true, false, payBody, []⟩

def payAdapter : ReconcileAdapter := ⟨true, "", ⟨.ok [payObject], 0, ""⟩, fun _ ↦ (.unsupported, 0), fun _ ↦ (none, 0)⟩

def payJobDB : DB := { payDB with reconciliationJobs := ⟨[payJob], by decide, by decide⟩ }

/-- The reconciliation of the object, with identifiers of its own. -/
def payReconciled (crypto : Crypto) (db : DB) : Except StoreError Unit × DB :=
  (reconcileProviderObject crypto payAdapter payJob payRecovered.connection 0 payObject).run (fun _ ↦ payEnv "2") db

theorem recovered_object_matched :
    ∃ db, Relation.ReflTransGen (Step checksum (GenuineFirst checksum)) payJobDB db ∧
      db.reconciliationItems.rows.map (·.outcome) = [.matched] ∧ MatchedGenuine db := by
  obtain ⟨⟨_, db⟩, hcapture, hok, houtcome⟩ :
      ∃ r, captureRecovered checksum (payEnv "1") payRecovered payRow 0 payJobDB = .ok r ∧
        (payReconciled checksum r.2).1.isOk = true ∧
        (payReconciled checksum r.2).2.reconciliationItems.rows.map (·.outcome) = [.matched] := by decide +kernel
  have hcaptured : Step checksum (GenuineFirst checksum) payJobDB db :=
    .capture (.recovered (payEnv "1") 0 payRow payRecovered) (.inl (.inr rfl)) (.recovered hcapture)
  have hreached : Relation.ReflTransGen (Step checksum (GenuineFirst checksum)) payJobDB (payReconciled checksum db).2 :=
    .tail (.single hcaptured) (.reconcile _ _ _ _ _ _ (Program.runs_of_isOk hok))
  exact ⟨_, hreached, houtcome, matched_items_genuine checksum payJobDB _ (by decide +kernel) (by decide +kernel) hreached⟩

/-- An unsigned request with the identifier of an object that was never received keeps the job from recovering it. -/
theorem forged_request_matched :
    payJob.captureMissing = true ∧ ∃ result db,
      ingest Crypto.standard 0 ⟨0, 0⟩ (payEnv "1") { payRequest Crypto.standard with headers := [] } "t" "src_0" payJobDB =
        some (.ok (result, db)) ∧
      Runs (reconcileProviderObject Crypto.standard payAdapter payJob payRecovered.connection 0 payObject) db (.ok ())
        (payReconciled Crypto.standard db).2 ∧
      (payReconciled Crypto.standard db).2.reconciliationItems.rows.map (fun i ↦ (i.objectID, i.outcome)) =
        [("evt_1", .matched)] ∧
      ∀ e ∈ (payReconciled Crypto.standard db).2.events, ¬Genuine e := by
  obtain ⟨result, db, hingest, hok, h⟩ : ∃ result db,
      ingest Crypto.standard 0 ⟨0, 0⟩ (payEnv "1") { payRequest Crypto.standard with headers := [] } "t" "src_0" payJobDB =
        some (.ok (result, db)) ∧ (payReconciled Crypto.standard db).1.isOk = true ∧
      (payReconciled Crypto.standard db).2.reconciliationItems.rows.map (fun i ↦ (i.objectID, i.outcome)) =
        [("evt_1", .matched)] ∧
      ∀ e ∈ (payReconciled Crypto.standard db).2.events, ¬Genuine e := by decide +kernel
  exact ⟨rfl, result, db, hingest, Program.runs_of_isOk hok, h⟩

end Webhookery.Capture
